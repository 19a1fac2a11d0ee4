import CiaoHost.Devices.Store

/-! The file of paired devices loads after every run of the store, and holds what memory holds unless a write
failed after it had replaced the file. -/

namespace CiaoHost.Devices

open Lib Lib.Text Lib.Checks Lib.KeyedList Notify

structure Selections (selections : List LiveActivitySelection) : Prop where
  valid : ∀ selection ∈ selections, selection.valid = true
  distinct : (selections.map LiveActivitySelection.sessionId).Nodup
  bounded : selections.length ≤ maxLiveActivitySelections

variable {registration : LiveActivityRegistration}

lemma validateRegistration_ok : validateRegistration registration = .ok () ↔
    validPushTicket registration.ticket = true ∧ registration.selections ≠ [] ∧ Selections registration.selections := by
  simp only [validateRegistration, bind_ok, refuseIf_ok, eachDistinct_ok, validateSelection, not_or,
    Bool.not_eq_false, not_lt, List.not_mem_nil, not_false_eq_true, implies_true, and_true]
  constructor
  · rintro ⟨⟨hticket, hsome, hbound⟩, hvalid, hdistinct⟩
    exact ⟨hticket, hsome, hvalid, hdistinct, hbound⟩
  · rintro ⟨hticket, hsome, hvalid, hdistinct, hbound⟩
    exact ⟨⟨hticket, hsome, hbound⟩, hvalid, hdistinct⟩

lemma Selections.perm {l l' : List LiveActivitySelection} (h : Selections l) (hperm : l'.Perm l) : Selections l' where
  valid := fun selection hmem => h.valid selection (hperm.subset hmem)
  distinct := (hperm.map _).nodup_iff.mpr h.distinct
  bounded := hperm.length_eq ▸ h.bounded

lemma Selections.changed (h : Selections registration.selections)
    {change : Option LiveActivitySelectionChange} {selections : List LiveActivitySelection}
    (hchange : registration.changed change = .ok (some selections)) : Selections selections := by
  match change with
  | none =>
    rw [LiveActivityRegistration.changed] at hchange
    split at hchange
    · cases hchange
    · cases hchange
      exact h
  | some (.remove sessionId) =>
    rw [LiveActivityRegistration.changed] at hchange
    split at hchange
    · cases hchange
    · cases hchange
      have hsub : (registration.selections.filter (·.sessionId ≠ sessionId)).Sublist registration.selections :=
        List.filter_sublist
      exact ⟨fun selection hmem => h.valid selection (hsub.subset hmem), h.distinct.sublist (hsub.map _),
        hsub.length_le.trans h.bounded⟩
  | some (.add selection) =>
    rw [LiveActivityRegistration.changed] at hchange
    split at hchange
    · cases hchange
    · next hvalid =>
      have hvalid : selection.valid = true := by simpa using hvalid
      split at hchange
      · cases hchange
        have hids : (registration.selections.map fun s => if s.sessionId = selection.sessionId then selection else s).map
            LiveActivitySelection.sessionId = registration.selections.map LiveActivitySelection.sessionId := by
          rw [List.map_map]
          apply List.map_congr_left
          intro s _
          dsimp only [Function.comp_apply]
          split
          · next hsame => exact hsame.symm
          · rfl
        refine ⟨fun s hmem => ?_, hids ▸ h.distinct, by simpa using h.bounded⟩
        obtain ⟨old, hold, rfl⟩ := List.mem_map.mp hmem
        split
        · exact hvalid
        · exact h.valid old hold
      · next hnew =>
        split at hchange
        · cases hchange
        · next hroom =>
          cases hchange
          refine ⟨fun s hmem => ?_, ?_, ?_⟩
          · rcases List.mem_append.mp hmem with hmem | hmem
            · exact h.valid s hmem
            · rw [List.mem_singleton.mp hmem]
              exact hvalid
          · rw [List.map_append, List.nodup_append]
            refine ⟨h.distinct, List.nodup_singleton _, ?_⟩
            rintro id hid id' hid' rfl
            obtain ⟨s, hs, hsame⟩ := List.mem_map.mp hid
            rw [List.map_singleton, List.mem_singleton] at hid'
            exact hnew (List.any_eq_true.mpr ⟨s, hs, by simpa using hsame.trans hid'⟩)
          · rw [List.length_append, List.length_singleton]
            omega

section

variable {isKey : String → Bool} {path : String}

variable {device : PairedDevice} {devices : List PairedDevice}

lemma checkDevice_ok : checkDevice isKey path device = .ok () ↔
    validateEndpointId isKey device.endpointId = .ok () ∧ (decodeExact 32 device.transcriptHash).isSome = true ∧
      (∀ key, device.notificationKey = some key → (decodeExact 32 key).isSome = true) ∧
      (∀ ticket, device.pushTicket = some ticket → validPushTicket ticket = true) ∧
      ∀ registration, device.liveActivity = some registration →
        device.notificationKey ≠ none ∧ validateRegistration registration = .ok () := by
  simp only [checkDevice, bind_ok, refuseIf_ok, Option.any_eq_true, not_exists, not_and, Option.isSome_iff_ne_none,
    ne_eq, decide_eq_true_eq, Bool.not_eq_true', Bool.not_eq_false, not_or, not_not]

lemma decodeExact_base64url (bytes : Bytes32) : decodeExact 32 (base64url bytes) = some bytes.val := by
  have hsome : bytes.val ≠ [] := by
    intro hnil
    have hlength := bytes.property
    rw [hnil] at hlength
    cases hlength
  have htext : (base64url bytes).toList = Base64.encode bytes.val := String.toList_ofList
  rw [decodeExact, htext, if_neg (not_or.mpr ⟨Base64.encode_ne_nil hsome, Base64.padding_not_mem_encode _⟩),
    Base64.decode_encode, Option.filter_some, if_pos (by simpa using bytes.property)]

def Loadable (isKey : String → Bool) (path : String) (devices : List PairedDevice) : Prop :=
  checkDevices isKey path devices = .ok ()

lemma loadable_iff : Loadable isKey path devices ↔
    (∀ device ∈ devices, checkDevice isKey path device = .ok ()) ∧ (devices.map PairedDevice.endpointId).Nodup := by
  rw [Loadable, checkDevices, eachDistinct_ok]
  simp

section

variable (h : Loadable isKey path devices) (hdevice : checkDevice isKey path device = .ok ())

include h hdevice

lemma Loadable.replaceFirst :
    Loadable isKey path (replaceFirst PairedDevice.endpointId device devices) := by
  rw [loadable_iff] at h ⊢
  refine ⟨fun d hd => ?_, by simpa using h.2⟩
  rcases mem_of_mem_replaceFirst hd with rfl | hd
  · exact hdevice
  · exact h.1 d hd

lemma Loadable.insert (hnew : device.endpointId ∉ devices.map PairedDevice.endpointId) :
    Loadable isKey path ((devices ++ [device]).insertionSort (·.endpointId ≤ ·.endpointId)) := by
  have hperm := List.perm_insertionSort (fun x y : PairedDevice => x.endpointId ≤ y.endpointId) (devices ++ [device])
  rw [loadable_iff] at h ⊢
  constructor
  · intro d hd
    rcases List.mem_append.mp (hperm.subset hd) with hd | hd
    · exact h.1 d hd
    · rw [List.mem_singleton.mp hd]
      exact hdevice
  · rw [(hperm.map _).nodup_iff, List.map_append, List.nodup_append]
    refine ⟨h.2, List.nodup_singleton _, ?_⟩
    rintro id hid id' hid' rfl
    rw [List.map_singleton, List.mem_singleton] at hid'
    exact hnew (hid' ▸ hid)

end

end

namespace PairedDeviceStore

variable {Bytes : Type} {codec : Codec Bytes} {isKey : String → Bool} {path : String} {s : PairedDeviceStore Bytes}
  {fails : Option WriteStep}

inductive Outcome (codec : Codec Bytes) (isKey : String → Bool) (path : String) (s : PairedDeviceStore Bytes)
    (fails : Option WriteStep) : PairedDeviceStore Bytes → Prop
  | same : Outcome codec isKey path s fails s
  | persisted (updated : List PairedDevice) (hloads : Loadable isKey path updated) :
      Outcome codec isKey path s fails (s.persist codec updated fails).1

variable {device : PairedDevice} {devices : List PairedDevice}

variable {endpoint : EndpointId isKey}

lemma find_spec (h : s.find endpoint = some device) : device ∈ s.devices ∧ device.endpointId = endpoint.text :=
  ⟨List.mem_of_find?_eq_some h, by simpa using List.find?_some h⟩

variable (hloads : Loadable isKey path s.devices)

include hloads

lemma upsert_outcome (endpoint : EndpointId isKey) (pairedAt : ℕ) (transcriptHash notificationKey : Bytes32) :
    Outcome codec isKey path s fails (s.upsert codec endpoint pairedAt transcriptHash notificationKey fails).1 := by
  have hrecord : checkDevice isKey path ⟨endpoint.text, pairedAt, base64url transcriptHash,
      some (base64url notificationKey), none, none⟩ = .ok () := by
    rw [checkDevice_ok]
    refine ⟨endpoint.valid, ?_, ?_, ?_, ?_⟩
    · rw [decodeExact_base64url]
      rfl
    · rintro key hkey
      cases hkey
      rw [decodeExact_base64url]
      rfl
    · intro ticket hticket
      cases hticket
    · intro registration hregistration
      cases hregistration
  rw [upsert]
  refine .persisted _ ?_
  split
  · exact hloads.replaceFirst hrecord
  · next hnew =>
    refine hloads.insert hrecord fun hmem => ?_
    obtain ⟨device, hdevice, hsame⟩ := List.mem_map.mp hmem
    exact hnew (List.any_eq_true.mpr ⟨device, hdevice, by simpa using hsame⟩)

lemma setPushTicket_outcome (endpoint : EndpointId isKey) (ticket : Option String) :
    Outcome codec isKey path s fails (s.setPushTicket codec endpoint ticket fails).1 := by
  rw [setPushTicket]
  split
  · exact .same
  · next hticket =>
    split
    · exact .same
    · next device hdevice =>
      split
      · exact .same
      · refine .persisted _ (hloads.replaceFirst ?_)
        have hheld := (loadable_iff.mp hloads).1 device (find_spec hdevice).1
        rw [checkDevice_ok] at hheld ⊢
        refine ⟨hheld.1, hheld.2.1, hheld.2.2.1, fun t ht => ?_, hheld.2.2.2.2⟩
        have ht : ticket = some t := ht
        rw [ht, Option.any_some] at hticket
        simpa using hticket

lemma persistActivity_outcome (hdevice : s.find endpoint = some device)
    (hkey : device.notificationKey ≠ none) {activity : Option LiveActivityRegistration}
    (hactivity : ∀ registration, activity = some registration → validateRegistration registration = .ok ()) (selected : ℕ) :
    Outcome codec isKey path s fails (s.persistActivity codec device activity selected fails).1 := by
  have hupdated : checkDevice isKey path { device with liveActivity := activity } = .ok () := by
    have hheld := (loadable_iff.mp hloads).1 device (find_spec hdevice).1
    rw [checkDevice_ok] at hheld ⊢
    exact ⟨hheld.1, hheld.2.1, hheld.2.2.1, hheld.2.2.2.1, fun registration hr => ⟨hkey, hactivity registration hr⟩⟩
  have hpersisted : (s.persistActivity codec device activity selected fails).1 = (s.persist codec
      (replaceFirst PairedDevice.endpointId { device with liveActivity := activity } s.devices) fails).1 := by
    rw [persistActivity]
    split <;> next heq => rw [heq]
  rw [hpersisted]
  exact .persisted _ (hloads.replaceFirst hupdated)

lemma held_selections (hdevice : s.find endpoint = some device)
    (ticket : String) : Selections (device.liveActivity.getD ⟨ticket, []⟩).selections := by
  cases hactivity : device.liveActivity with
  | none => exact ⟨by simp, List.nodup_nil, Nat.zero_le _⟩
  | some registration =>
    have hheld := checkDevice_ok.mp ((loadable_iff.mp hloads).1 device (find_spec hdevice).1)
    exact (validateRegistration_ok.mp (hheld.2.2.2.2 registration hactivity).2).2.2

lemma updateLiveActivity_outcome (endpoint : EndpointId isKey) (ticket : Option String)
    (change : Option LiveActivitySelectionChange) :
    Outcome codec isKey path s fails (s.updateLiveActivity codec endpoint ticket change fails).1 := by
  rw [updateLiveActivity]
  split
  · exact .same
  · next hticket =>
    split
    · exact .same
    · next device hdevice =>
      split
      · exact .same
      · next hkey =>
        split
        · split
          · exact .same
          · split
            · exact .same
            · exact persistActivity_outcome hloads hdevice hkey (by simp) 0
        · next ticket =>
          have hticket : validPushTicket ticket = true := by simpa using hticket
          dsimp only
          split
          · exact .same
          · exact .same
          · next selections hchange =>
            have hselections := (held_selections hloads hdevice ticket).changed hchange
            refine persistActivity_outcome hloads hdevice hkey (fun registration hr => ?_) _
            split at hr
            · cases hr
            · next hsome =>
              cases hr
              exact validateRegistration_ok.mpr
                ⟨hticket, hsome, hselections.perm (List.perm_insertionSort _ _)⟩

lemma remove_outcome (endpointId : String) :
    Outcome codec isKey path s fails (s.remove codec endpointId fails).1 := by
  have hupdated : Loadable isKey path (s.devices.filter (·.endpointId ≠ endpointId)) := by
    have hsub : (s.devices.filter (·.endpointId ≠ endpointId)).Sublist s.devices := List.filter_sublist
    rw [loadable_iff] at hloads ⊢
    exact ⟨fun d hd => hloads.1 d (hsub.subset hd), hloads.2.sublist (hsub.map _)⟩
  rw [remove]
  split
  · exact .same
  · have hpersisted : Outcome codec isKey path s fails (s.persist codec _ fails).1 := .persisted _ hupdated
    split <;> next heq => rw [heq] at hpersisted; exact hpersisted

theorem step_outcome (i : Input isKey) : Outcome codec isKey path s i.fails (s.step codec i) := by
  rw [step]
  cases i.op with
  | upsert endpoint pairedAt transcriptHash notificationKey => exact upsert_outcome hloads ..
  | setPushTicket endpoint ticket => exact setPushTicket_outcome hloads ..
  | updateLiveActivity endpoint ticket change => exact updateLiveActivity_outcome hloads ..
  | clearLiveActivity endpoint => exact updateLiveActivity_outcome hloads endpoint none none
  | remove endpointId => exact remove_outcome hloads endpointId

omit hloads

def Reloads (codec : Codec Bytes) (isKey : String → Bool) (path : String) (file : Option (StoredFile Bytes))
    (devices : List PairedDevice) : Prop :=
  ∀ fails, load codec isKey path file fails = (file, .ok devices)

lemma Reloads.loadable {file : Option (StoredFile Bytes)}
    (h : Reloads codec isKey path file devices) : Loadable isKey path devices := by
  have hload := congrArg Prod.snd (h none)
  cases file with
  | none =>
    cases hload
    rfl
  | some stored =>
    rw [load] at hload
    dsimp only at hload
    split at hload
    · cases hload
    · cases hload
    · next parsed hsecure hparsed =>
      split at hload
      · cases hload
      · cases hcheck : checkDevices isKey path parsed.devices with
        | error e =>
          rw [hcheck] at hload
          cases hload
        | ok _ =>
          rw [hcheck] at hload
          cases hload
          exact hcheck

lemma reloads_written (h : Loadable isKey path devices) :
    Reloads codec isKey path (some ⟨codec.encode ⟨1, devices⟩, none⟩) devices := by
  intro fails
  rw [load, codec.decode_encode]
  dsimp only
  rw [if_neg (by simp), show checkDevices isKey path devices = .ok () from h]
  rfl

lemma persist_reloads {held updated : List PairedDevice} (hheld : Reloads codec isKey path s.file held)
    (hupdated : Loadable isKey path updated) :
    ∃ written, Reloads codec isKey path (s.persist codec updated fails).1.file written ∧
      (held = s.devices → (∀ step, fails = some step → step.replaced = false) →
        written = (s.persist codec updated fails).1.devices) := by
  cases fails with
  | none => exact ⟨updated, reloads_written hupdated, fun _ _ => rfl⟩
  | some step =>
    have hpersist : s.persist codec updated (some step) =
        ({ s with file := if step.replaced then some ⟨codec.encode ⟨1, updated⟩, none⟩ else s.file },
          .error "write failed") := rfl
    rw [hpersist]
    cases hstep : step.replaced with
    | true =>
      refine ⟨updated, reloads_written hupdated, fun _ hearly => ?_⟩
      rw [hearly step rfl] at hstep
      cases hstep
    | false => exact ⟨held, hheld, fun hsame _ => hsame⟩

lemma reloads_of_load {file file' : Option (StoredFile Bytes)}
    (h : load codec isKey path file fails = (file', .ok devices)) : Reloads codec isKey path file' devices := by
  cases file with
  | some stored =>
    obtain ⟨rfl, -⟩ := Prod.mk.inj h
    exact fun _ => h
  | none =>
    cases fails with
    | none =>
      obtain ⟨rfl, hanswer⟩ := Prod.mk.inj h
      cases hanswer
      exact reloads_written rfl
    | some step =>
      have hanswer := (Prod.mk.inj h).2
      cases hanswer

def Input.early (i : Input isKey) : Prop := ∀ step, i.fails = some step → step.replaced = false

/-- Memory loads, and so does the file; they are the same devices while `clean`. -/
structure Sound (codec : Codec Bytes) (isKey : String → Bool) (path : String) (s : PairedDeviceStore Bytes)
    (clean : Prop) : Prop where
  memory : Loadable isKey path s.devices
  file : ∃ held, Reloads codec isKey path s.file held ∧ (clean → held = s.devices)

lemma Sound.step {clean : Prop} (h : Sound codec isKey path s clean) (i : Input isKey) :
    Sound codec isKey path (s.step codec i) (clean ∧ Input.early i) := by
  obtain ⟨held, hheld, hsame⟩ := h.file
  have houtcome := @step_outcome _ codec _ _ _ h.memory i
  generalize s.step codec i = after at houtcome ⊢
  cases houtcome with
  | same => exact ⟨h.memory, held, hheld, fun hclean => hsame hclean.1⟩
  | persisted updated hupdated =>
    obtain ⟨written, hwritten, hagree⟩ := @persist_reloads _ _ _ _ _ i.fails _ _ hheld hupdated
    refine ⟨?_, written, hwritten, fun hclean => hagree (hsame hclean.1) hclean.2⟩
    cases hfails : i.fails with
    | none => exact hupdated
    | some step => exact h.memory

lemma Sound.run {clean : Prop} (h : Sound codec isKey path s clean) (inputs : List (Input isKey)) :
    Sound codec isKey path (inputs.foldl (PairedDeviceStore.step codec) s) (clean ∧ ∀ i ∈ inputs, Input.early i) := by
  induction inputs generalizing s clean with
  | nil => exact ⟨h.memory, h.file.imp fun held hheld => ⟨hheld.1, fun hclean => hheld.2 hclean.1⟩⟩
  | cons i rest ih =>
    have hrest := ih (h.step i)
    refine ⟨hrest.memory, hrest.file.imp fun held hheld => ⟨hheld.1, fun hclean => hheld.2 ⟨⟨hclean.1, ?_⟩, ?_⟩⟩⟩
    · exact hclean.2 i List.mem_cons_self
    · exact fun j hj => hclean.2 j (List.mem_cons_of_mem _ hj)

theorem file_reloads (codec : Codec Bytes) (isKey : String → Bool) (path : String)
    {file file' : Option (StoredFile Bytes)} {devices : List PairedDevice}
    (hstart : load codec isKey path file fails = (file', .ok devices)) (inputs : List (Input isKey)) :
    let s := inputs.foldl (PairedDeviceStore.step codec) ⟨devices, file'⟩
    (∃ held, Reloads codec isKey path s.file held) ∧
      ((∀ i ∈ inputs, Input.early i) → Reloads codec isKey path s.file s.devices) := by
  intro s
  have hreloads := reloads_of_load hstart
  have hsound : Sound codec isKey path ⟨devices, file'⟩ True :=
    ⟨hreloads.loadable, devices, hreloads, fun _ => rfl⟩
  obtain ⟨-, held, hheld, hsame⟩ := hsound.run inputs
  exact ⟨⟨held, hheld⟩, fun hearly => hsame ⟨trivial, hearly⟩ ▸ hheld⟩

end PairedDeviceStore

namespace Sample

def codec : Codec PairedDevicesFile := ⟨id, some, fun _ => rfl⟩

def isKey : String → Bool := fun _ => true

def endpoint : EndpointId isKey := ⟨"0000000000000000000000000000000000000000000000000000000000000001", by decide +kernel⟩

def key : Bytes32 := ⟨List.replicate 32 7, rfl⟩

def pair (fails : Option WriteStep) : Input isKey := ⟨.upsert endpoint 10 key key, fails⟩

def fresh : PairedDeviceStore PairedDevicesFile := ⟨[], some ⟨⟨1, []⟩, none⟩⟩

end Sample

namespace PairedDeviceStore

theorem file_reloads_paired : Reloads Sample.codec Sample.isKey "devices"
    ([Sample.pair none].foldl (PairedDeviceStore.step Sample.codec) Sample.fresh).file
    ([Sample.pair none].foldl (PairedDeviceStore.step Sample.codec) Sample.fresh).devices := by
  have hstart : load Sample.codec Sample.isKey "devices" none none = (Sample.fresh.file, .ok Sample.fresh.devices) := rfl
  refine (file_reloads Sample.codec Sample.isKey "devices" hstart [Sample.pair none]).2 fun i hi step hstep => ?_
  rw [List.mem_singleton.mp hi] at hstep
  cases hstep

theorem pairing_refused_is_on_disk :
    load Sample.codec Sample.isKey "devices" none none = (Sample.fresh.file, .ok []) ∧
    (Sample.fresh.upsert Sample.codec Sample.endpoint 10 Sample.key Sample.key (some .syncParent)).2 = .error "write failed" ∧
    (Sample.fresh.step Sample.codec (Sample.pair (some .syncParent))).devices = [] ∧
    ∃ device, (load Sample.codec Sample.isKey "devices"
      (Sample.fresh.step Sample.codec (Sample.pair (some .syncParent))).file none).2 = .ok [device] := by
  refine ⟨rfl, rfl, rfl, ⟨Sample.endpoint.text, 10, base64url Sample.key, some (base64url Sample.key), none, none⟩, ?_⟩
  decide +kernel

end PairedDeviceStore

end CiaoHost.Devices
