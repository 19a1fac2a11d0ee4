import CiaoHost.Lib.KeyedList

/-! The managed session store: records of sessions, and the receipts of lifecycle commands. -/

namespace CiaoHost.Managed

open CiaoHost.Lib

inductive Presence
  | live
  | stored
deriving DecidableEq, Repr

inductive StoredReason
  | daemonRestart
  | released
  | stopped
  | workerCrash
  | externallyOwned
deriving DecidableEq, Repr

structure ManagedRecord where
  sessionId : String
  vendorSessionId : Option String
  workspacePath : String
  workspaceId : String
  workspaceLabel : String
  adapterFamily : String
  adapterVersion : String
  processGeneration : ℕ
  presence : Presence
  storedReason : Option StoredReason
  externallyOwned : Bool
  handbackSession : Option String
  revision : ℕ
  updatedAt : ℕ
deriving DecidableEq, Repr

inductive OutcomeState
  | accepted
  | refused
deriving DecidableEq, Repr

structure LifecycleOutcome where
  commandId : String
  state : OutcomeState
  sessionId : Option String
  processGeneration : Option ℕ
  reasonCode : Option String
  deduplicated : Option Bool
deriving DecidableEq, Repr

def maxManagedRecords : ℕ := 256
def maxLifecycleReceipts : ℕ := 32

def bumped (n : ℕ) : ℕ := min (n + 1) (2 ^ 64 - 1)

def retained (receipts : List LifecycleOutcome) : List LifecycleOutcome :=
  if maxManagedRecords * maxLifecycleReceipts < receipts.length then
    receipts.drop (receipts.length - maxManagedRecords * maxLifecycleReceipts)
  else receipts

structure ManagedMetadataStore where
  records : List ManagedRecord
  lifecycle : List LifecycleOutcome

namespace ManagedMetadataStore

variable (s : ManagedMetadataStore)

def record (sessionId : String) : Option ManagedRecord := s.records.find? (·.sessionId = sessionId)

def update (sessionId : String) (f : ManagedRecord → ManagedRecord) : ManagedMetadataStore :=
  { s with records := KeyedList.updateFirst ManagedRecord.sessionId sessionId f s.records }

def remove (sessionId : String) : ManagedMetadataStore :=
  { s with records := s.records.eraseP (·.sessionId = sessionId) }

def push (r : ManagedRecord) : ManagedMetadataStore := { s with records := s.records ++ [r] }

def pushOutcome (outcome : LifecycleOutcome) : ManagedMetadataStore :=
  { s with lifecycle := retained (s.lifecycle ++ [outcome]) }

def accept (commandId : String) (sessionId : Option String) (processGeneration : Option ℕ) : ManagedMetadataStore :=
  s.pushOutcome ⟨commandId, .accepted, sessionId, processGeneration, none, none⟩

def refuse (commandId reason : String) : ManagedMetadataStore :=
  s.pushOutcome ⟨commandId, .refused, none, none, some reason, none⟩

def deduplicated (commandId : String) : Option LifecycleOutcome :=
  (s.lifecycle.find? (·.commandId = commandId)).map fun outcome => { outcome with deduplicated := some true }

def Receipted (commandId : String) : Prop := commandId ∈ s.lifecycle.map LifecycleOutcome.commandId

end ManagedMetadataStore

def stoppedRecord (now : ℕ) (r : ManagedRecord) : ManagedRecord :=
  { r with
    presence := .stored
    storedReason := some .stopped
    revision := bumped r.revision
    updatedAt := now }

def releasedRecord (route : Option String) (now : ℕ) (r : ManagedRecord) : ManagedRecord :=
  { r with
    presence := .stored
    storedReason := some .released
    externallyOwned := true
    handbackSession := route
    revision := bumped r.revision
    updatedAt := now }

def resumedRecord (generation now : ℕ) (r : ManagedRecord) : ManagedRecord :=
  { r with
    presence := .live
    storedReason := none
    externallyOwned := false
    handbackSession := none
    processGeneration := generation
    revision := bumped r.revision
    updatedAt := now }

def exitedRecord (crashed : Bool) (now : ℕ) (r : ManagedRecord) : ManagedRecord :=
  if r.presence = .live then
    { r with
      presence := .stored
      storedReason := some (if crashed then .workerCrash else .stopped)
      revision := bumped r.revision
      updatedAt := now }
  else r

def externallyOwnedRecord (now : ℕ) (r : ManagedRecord) : ManagedRecord :=
  if r.presence = .stored then
    { r with
      externallyOwned := true
      storedReason := some .externallyOwned
      revision := bumped r.revision
      updatedAt := now }
  else r

def vendorRecord (vendor : String) (now : ℕ) (r : ManagedRecord) : ManagedRecord :=
  if r.vendorSessionId = some vendor then r
  else
    { r with
      vendorSessionId := some vendor
      updatedAt := now }

namespace ManagedMetadataStore

variable {s : ManagedMetadataStore} {commandId : String}

variable {sessionId other : String} {f : ManagedRecord → ManagedRecord} {r : ManagedRecord}

lemma sessionId_of_record (h : s.record sessionId = some r) : r.sessionId = sessionId := by
  simpa using List.find?_some h

lemma record_update_self (hf : ∀ r, (f r).sessionId = r.sessionId) :
    (s.update sessionId f).record sessionId = (s.record sessionId).map f :=
  KeyedList.find_updateFirst_self hf

lemma record_update_ne (hf : ∀ r, (f r).sessionId = r.sessionId) (hne : other ≠ sessionId) :
    (s.update sessionId f).record other = s.record other :=
  KeyedList.find_updateFirst_ne hf hne

lemma record_push (r : ManagedRecord) :
    (s.push r).record other = (s.record other).or (if r.sessionId = other then some r else none) := by
  rw [record, push, List.find?_append]
  by_cases hid : r.sessionId = other <;> simp [record, hid]

def Distinct (s : ManagedMetadataStore) : Prop := (s.records.map ManagedRecord.sessionId).Nodup

lemma Distinct.update (h : s.Distinct) (hf : ∀ r, (f r).sessionId = r.sessionId) : (s.update sessionId f).Distinct := by
  rw [Distinct, ManagedMetadataStore.update, KeyedList.map_key_updateFirst hf]
  exact h

lemma Distinct.remove (h : s.Distinct) : (s.remove sessionId).Distinct :=
  h.sublist (List.eraseP_sublist.map _)

lemma Distinct.push (h : s.Distinct) (hfresh : s.record r.sessionId = none) : (s.push r).Distinct := by
  rw [Distinct, ManagedMetadataStore.push, List.map_append, List.nodup_append']
  refine ⟨h, List.nodup_singleton _, ?_⟩
  rw [List.map_singleton, List.disjoint_singleton]
  intro hmem
  obtain ⟨r', hr', hid⟩ := List.mem_map.mp hmem
  exact absurd hid (by simpa using List.find?_eq_none.mp hfresh r' hr')

lemma Distinct.record_of_mem (h : s.Distinct) (hr : r ∈ s.records) : s.record r.sessionId = some r :=
  KeyedList.find_eq_some_of_mem h hr

end ManagedMetadataStore

end CiaoHost.Managed
