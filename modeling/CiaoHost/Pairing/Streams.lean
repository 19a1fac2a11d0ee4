import CiaoHost.Pairing.Manager
import CiaoHost.Lib.KeyedList
import Mathlib.Data.String.Basic

/-! The pairing streams of the daemon, cut at its lock sections, over one manager, one rate limiter
and one store of paired devices (daemon.rs, storage.rs). -/

namespace CiaoHost.Pairing

open Lib Lib.KeyedList

structure PairedDevice where
  endpointId : String
  pairedAt : ℕ
  transcriptHash : String
  notificationKey : Option String
  deriving DecidableEq, Repr

structure PairedDeviceStore where
  devices : List PairedDevice
  deriving DecidableEq, Repr

namespace PairedDeviceStore

variable (store : PairedDeviceStore)

def contains (endpointId : String) : Bool := store.devices.any (·.endpointId = endpointId)

/-- The file is written first: a write that fails leaves the devices as they were. -/
def persist (updated : List PairedDevice) (disk : Except String Unit) : PairedDeviceStore × Except String Unit :=
  match disk with
  | .error e => (store, .error e)
  | .ok () => (⟨updated⟩, .ok ())

def upserted (record : PairedDevice) : List PairedDevice :=
  if store.contains record.endpointId then replaceFirst PairedDevice.endpointId record store.devices
  else (store.devices ++ [record]).insertionSort (·.endpointId ≤ ·.endpointId)

def upsert (record : PairedDevice) (disk : Except String Unit) : PairedDeviceStore × Except String Unit :=
  store.persist (store.upserted record) disk

end PairedDeviceStore

inductive Answer where
  | accepted
  | rejected (code message : String)
  | dropped
  deriving DecidableEq, Repr

def PairingRejection.answer (r : PairingRejection) : Answer := .rejected r.code r.safeMessage

inductive Phase where
  | asked
  | allowed (now : ℕ)
  | claimed (claim : PairingClaim)
  | committing (claim : PairingClaim) (commitTime : ℕ)
  | refused (claim : PairingClaim) (commitTime : ℕ) (answer : Answer)
  | written (claim : PairingClaim) (commitTime : ℕ)
  | serving (claim : PairingClaim)
  | ended (answer : Answer)
  deriving DecidableEq, Repr

/-- One pair request; `wrote` records that the stream put its endpoint into the store. -/
structure Stream where
  endpointId : String
  pairingId : PairingId
  capability : Capability
  phase : Phase
  wrote : Bool
  deriving DecidableEq, Repr

/-- What a section meets outside the locks: the clock, the draws and what the calls answer. -/
structure Surroundings where
  clock : Option ℕ
  token : ℕ
  keyUsable : Bool
  transcriptHash : String
  notificationKey : String
  disk : Except String Unit
  closes : Bool

structure PairingSystem where
  manager : PairingManager
  limiter : PairingRateLimiter
  store : PairedDeviceStore
  streams : List Stream
  issuedIds : List PairingId

def persistenceFailed : Answer :=
  .rejected "persistence_failed" "Could not save paired-device authorization. Retry pairing."

def unusableKey : Answer :=
  .rejected "malformed_request" "Pairing request contains an unusable key share."

variable (hash : Capability → BitVec 256)

def PairingSystem.runSection (sys : PairingSystem) (st : Stream) (e : Surroundings) : PairingSystem × Stream :=
  match st.phase with
  | .asked =>
    match e.clock with
    | none => (sys, { st with phase := .ended .dropped })
    | some now =>
      match sys.limiter.check st.endpointId now with
      | (limiter, .error r) => ({ sys with limiter := limiter }, { st with phase := .ended r.answer })
      | (limiter, .ok ()) => ({ sys with limiter := limiter }, { st with phase := .allowed now })
  | .allowed now =>
    match sys.manager.claim hash st.pairingId st.capability now e.token with
    | (manager, .error r) => ({ sys with manager := manager }, { st with phase := .ended r.answer })
    | (manager, .ok claim) => ({ sys with manager := manager }, { st with phase := .claimed claim })
  | .claimed claim =>
    match e.clock with
    | none => (sys, { st with phase := .ended .dropped })
    | some commitTime =>
      if claim.expiresAt ≤ commitTime then
        (sys, { st with phase := .refused claim commitTime PairingRejection.expired.answer })
      else if ¬ e.keyUsable then (sys, { st with phase := .refused claim commitTime unusableKey })
      else (sys, { st with phase := .committing claim commitTime })
  | .committing claim commitTime =>
    match sys.store.upsert ⟨st.endpointId, commitTime, e.transcriptHash, some e.notificationKey⟩ e.disk with
    | (store, .error _) =>
      ({ sys with store := store }, { st with phase := .refused claim commitTime persistenceFailed })
    | (store, .ok ()) => ({ sys with store := store }, { st with phase := .written claim commitTime, wrote := true })
  | .refused claim commitTime answer =>
    ({ sys with manager := sys.manager.abort claim commitTime }, { st with phase := .ended answer })
  | .written claim commitTime =>
    match sys.manager.complete claim st.endpointId commitTime with
    | (manager, .error r) => ({ sys with manager := manager }, { st with phase := .ended r.answer })
    | (manager, .ok ()) => ({ sys with manager := manager }, { st with phase := .serving claim })
  | .serving claim =>
    if e.closes then (sys, { st with phase := .ended .accepted })
    else ({ sys with manager := sys.manager.markConnected claim.pairingId st.endpointId }, st)
  | .ended _ => (sys, st)

inductive Event where
  | connect (endpointId : String) (pairingId : PairingId) (capability : Capability)
  | advance (index : ℕ) (e : Surroundings)
  | create (now : ℕ) (pairingId : PairingId) (capability : Capability)
  | status (pairingId : Option PairingId) (now : ℕ)
  | rejectCurrent (message : String)

namespace PairingSystem

def start : PairingSystem := ⟨⟨∅, none⟩, ⟨∅⟩, ⟨[]⟩, [], []⟩

def step (sys : PairingSystem) : Event → PairingSystem
  | .connect endpointId pairingId capability =>
    { sys with streams := sys.streams ++ [⟨endpointId, pairingId, capability, .asked, false⟩] }
  | .advance index e =>
    match sys.streams[index]? with
    | none => sys
    | some st =>
      let (after, moved) := sys.runSection hash st e
      { after with streams := sys.streams.set index moved }
  | .create now pairingId capability =>
    { sys with
      manager := (sys.manager.create hash now pairingId capability).1
      issuedIds := sys.issuedIds ++ [pairingId] }
  | .status pairingId now => { sys with manager := (sys.manager.status pairingId now).1 }
  | .rejectCurrent message => { sys with manager := sys.manager.rejectCurrent message }

def Legal (sys : PairingSystem) : Event → Prop
  | .create _ pairingId _ => pairingId ∉ sys.issuedIds
  | _ => True

/-- No offer is taken away while its proof is being committed. -/
def Careful (sys : PairingSystem) : Event → Prop
  | .create now _ _ => ∀ entry ∈ sys.manager.offers.entries,
      entry.2.state.isValidating → PairingManager.isRetained now entry.2
  | .rejectCurrent _ => ∀ current ∈ sys.manager.currentPending,
      ∀ offer ∈ sys.manager.offers.lookup current, ¬ offer.state.isValidating
  | _ => True

instance (sys : PairingSystem) (event : Event) : Decidable (sys.Legal event) := by
  cases event <;> simp only [Legal] <;> infer_instance

instance (sys : PairingSystem) (event : Event) : Decidable (sys.Careful event) := by
  cases event <;> simp only [Careful] <;> infer_instance

end PairingSystem

end CiaoHost.Pairing
