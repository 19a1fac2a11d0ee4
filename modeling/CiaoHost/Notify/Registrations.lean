import CiaoHost.Lib.KeyedMap
import CiaoHost.Lib.Text
import Mathlib.Data.String.Basic

/-! The Live Activity registrations of the paired devices (storage.rs, host_protocol.rs). -/

namespace CiaoHost.Notify

open Lib Lib.Text

def minPushTicketBytes : ℕ := 64

def maxPushTicketBytes : ℕ := 512

def maxLiveActivitySelections : ℕ := 8

def validPushTicket (ticket : String) : Bool :=
  minPushTicketBytes ≤ byteLen ticket && byteLen ticket ≤ maxPushTicketBytes &&
    ticket.toList.all fun c => c.isAlphanum || c ∈ ['-', '_']

def validLiveActivitySessionId (id : String) : Bool :=
  0 < byteLen id && byteLen id ≤ 64 && id.toList.all fun c => c.isAlphanum || c ∈ ['.', '_', '-']

def labelChar (c : Char) : Bool :=
  let scalar := c.toNat
  !(scalar ≤ 0x1f || 0x7f ≤ scalar && scalar ≤ 0x9f || scalar = 0x2028 || scalar = 0x2029 ||
    0x202a ≤ scalar && scalar ≤ 0x202e || 0x2066 ≤ scalar && scalar ≤ 0x2069)

def validLiveActivityLabel (value : String) (maximumBytes : ℕ) : Bool :=
  0 < byteLen value && byteLen value ≤ maximumBytes && value.toList.all labelChar

structure LiveActivitySelection where
  sessionId : String
  adapter : String
  workspace : String
  deriving DecidableEq, Repr

def LiveActivitySelection.valid (s : LiveActivitySelection) : Bool :=
  validLiveActivitySessionId s.sessionId && 0 < byteLen s.adapter && byteLen s.adapter ≤ 32 &&
    s.adapter.toList.all (fun c => 0x21 ≤ c.toNat && c.toNat ≤ 0x7e) && validLiveActivityLabel s.workspace 64

structure LiveActivityRegistration where
  ticket : String
  selections : List LiveActivitySelection
  deriving DecidableEq, Repr

inductive LiveActivitySelectionChange where
  | add (selection : LiveActivitySelection)
  | remove (sessionId : String)
  deriving DecidableEq, Repr

structure PairedDevice where
  notificationKey : Option String
  liveActivity : Option LiveActivityRegistration
  deriving DecidableEq, Repr

abbrev PairedDevices := KeyedMap String PairedDevice

structure LiveActivityTarget where
  endpointId : String
  ticket : String
  key : String
  selections : List LiveActivitySelection
  deriving DecidableEq, Repr

def LiveActivityRegistration.changed (r : LiveActivityRegistration) :
    Option LiveActivitySelectionChange → Except String (Option (List LiveActivitySelection))
  | some (.add selection) =>
    if ¬ selection.valid then .error "live activity selection is malformed"
    else if r.selections.any (·.sessionId = selection.sessionId) then
      .ok (some (r.selections.map fun s => if s.sessionId = selection.sessionId then selection else s))
    else if maxLiveActivitySelections ≤ r.selections.length then .error "live activity selection limit reached"
    else .ok (some (r.selections ++ [selection]))
  | some (.remove sessionId) =>
    if ¬ validLiveActivitySessionId sessionId then .error "live activity session ID is malformed"
    else .ok (some (r.selections.filter (·.sessionId ≠ sessionId)))
  | none => if r.selections = [] then .ok none else .ok (some r.selections)

namespace PairedDevices

variable (devices : PairedDevices) (endpointId : String)

/-- The file is written first: a write that fails leaves the devices as they were. -/
def persist (updated : PairedDevices) (answer : ℕ) (disk : Bool) : PairedDevices × Except String ℕ :=
  if disk then (updated, .ok answer) else (devices, .error "write failed")

def updateLiveActivity (ticket : Option String) (change : Option LiveActivitySelectionChange) (disk : Bool) :
    PairedDevices × Except String ℕ :=
  if ticket.any fun t => ¬ validPushTicket t then (devices, .error "live activity ticket is malformed")
  else
    match devices.lookup endpointId with
    | none => (devices, .error "device is not paired")
    | some device =>
      if device.notificationKey = none then (devices, .error "device has no notification key")
      else
        match ticket with
        | none =>
          if change ≠ none then (devices, .error "a selection mutation requires a live activity ticket")
          else if device.liveActivity = none then (devices, .ok 0)
          else persist devices (devices.insert endpointId { device with liveActivity := none }) 0 disk
        | some ticket =>
          let registration := { device.liveActivity.getD ⟨ticket, []⟩ with ticket := ticket }
          match registration.changed change with
          | .error e => (devices, .error e)
          | .ok none => (devices, .ok 0)
          | .ok (some selections) =>
            let sorted := selections.insertionSort (·.sessionId ≤ ·.sessionId)
            persist devices (devices.insert endpointId
              { device with liveActivity := if sorted = [] then none else some ⟨ticket, sorted⟩ }) sorted.length disk

def clearLiveActivity (disk : Bool) : PairedDevices := (devices.updateLiveActivity endpointId none none disk).1

def upsert (key : String) (disk : Bool) : PairedDevices :=
  if disk then devices.insert endpointId ⟨some key, none⟩ else devices

def unpair (disk : Bool) : PairedDevices := if disk then devices.erase endpointId else devices

def target (device : PairedDevice) : Option LiveActivityTarget :=
  device.liveActivity.bind fun registration => device.notificationKey.map fun key =>
    ⟨endpointId, registration.ticket, key, registration.selections⟩

def liveActivityTargets : List LiveActivityTarget := devices.entries.filterMap fun e => target e.1 e.2

def ticket : Option String := (devices.lookup endpointId).bind fun device => device.liveActivity.map (·.ticket)

variable {devices endpointId}

variable {t : LiveActivityTarget} {disk : Bool} {other : String}

lemma target_endpointId {device : PairedDevice} (h : target endpointId device = some t) :
    t.endpointId = endpointId := by
  obtain ⟨registration, -, h⟩ := Option.bind_eq_some_iff.mp h
  obtain ⟨key, -, rfl⟩ := Option.map_eq_some_iff.mp h
  rfl

lemma mem_liveActivityTargets :
    t ∈ devices.liveActivityTargets ↔ (devices.lookup t.endpointId).bind (target t.endpointId) = some t := by
  rw [liveActivityTargets, List.mem_filterMap]
  constructor
  · rintro ⟨⟨endpoint, device⟩, hmem, ht⟩
    have hendpoint := target_endpointId ht
    subst hendpoint
    rw [KeyedMap.mem_entries.mp hmem]
    exact ht
  · intro h
    obtain ⟨device, hdevice, ht⟩ := Option.bind_eq_some_iff.mp h
    exact ⟨⟨t.endpointId, device⟩, KeyedMap.mem_entries.mpr hdevice, ht⟩

lemma ticket_of_mem (h : t ∈ devices.liveActivityTargets) :
    devices.ticket t.endpointId = some t.ticket := by
  obtain ⟨device, hdevice, ht⟩ := Option.bind_eq_some_iff.mp (mem_liveActivityTargets.mp h)
  obtain ⟨registration, hregistration, ht⟩ := Option.bind_eq_some_iff.mp ht
  obtain ⟨key, -, ht⟩ := Option.map_eq_some_iff.mp ht
  rw [ticket, hdevice, Option.bind_some, hregistration, Option.map_some, ← ht]

lemma nodup_liveActivityTargets : (devices.liveActivityTargets.map LiveActivityTarget.endpointId).Nodup := by
  obtain ⟨entries, hnodup⟩ := devices
  change ((entries.filterMap fun e => target e.1 e.2).map LiveActivityTarget.endpointId).Nodup
  induction entries with
  | nil => exact List.nodup_nil
  | cons e es ih =>
    rw [List.nodupKeys_cons] at hnodup
    rw [List.filterMap_cons]
    cases ht : target e.1 e.2 with
    | none => exact ih hnodup.2
    | some t =>
      rw [List.map_cons, List.nodup_cons, target_endpointId ht]
      refine ⟨?_, ih hnodup.2⟩
      intro hmem
      obtain ⟨t', ht', hendpoint⟩ := List.mem_map.mp hmem
      obtain ⟨e', he', ht'⟩ := List.mem_filterMap.mp ht'
      rw [target_endpointId ht'] at hendpoint
      exact hnodup.1 (hendpoint ▸ List.mem_map_of_mem he')

section

variable (h : other ≠ endpointId)

include h

lemma lookup_updateLiveActivity {ticket : Option String} {change : Option LiveActivitySelectionChange}
    :
    (devices.updateLiveActivity endpointId ticket change disk).1.lookup other = devices.lookup other := by
  have hpersist : ∀ (device : PairedDevice) (answer : ℕ),
      (persist devices (devices.insert endpointId device) answer disk).1.lookup other = devices.lookup other := by
    intro device answer
    rw [persist]
    split
    · exact KeyedMap.lookup_insert_ne h
    · rfl
  rw [updateLiveActivity]
  split
  · rfl
  · split
    · rfl
    · split
      · rfl
      · split
        · split
          · rfl
          · split
            · rfl
            · exact hpersist _ _
        · dsimp only
          split
          · rfl
          · rfl
          · exact hpersist _ _

lemma lookup_upsert {key : String} :
    (devices.upsert endpointId key disk).lookup other = devices.lookup other := by
  rw [upsert]
  split
  · exact KeyedMap.lookup_insert_ne h
  · rfl

lemma lookup_unpair :
    (devices.unpair endpointId disk).lookup other = devices.lookup other := by
  rw [unpair]
  split
  · exact KeyedMap.lookup_erase_ne h
  · rfl

end

end PairedDevices

end CiaoHost.Notify
