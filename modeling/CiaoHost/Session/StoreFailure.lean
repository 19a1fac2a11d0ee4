import CiaoHost.Session.Run

/-! Writes of the metadata store that fail, and what a command submitted over one is told later. -/

namespace CiaoHost.Session

open Protocol Lib Lib.KeyedList Lib.Saturating

inductive StoreCall where
  | register (claim : MetadataStore.Claim) (freshId : String) (epoch : ℕ)
  | updateRevision (sessionId : String) (revision now : ℕ)
  | updateEpoch (sessionId : String) (epoch now : ℕ)
  | upsertReceipt (receipt : CommandReceipt) (now : ℕ)

namespace StoreCall

def run (store : MetadataStore) (disk : Except String Unit) : StoreCall → MetadataStore × Except String Unit
  | register claim freshId epoch => (store.register claim freshId epoch disk).map id fun r => r.map fun _ => ()
  | updateRevision sessionId revision now => store.updateRevision sessionId revision now disk
  | updateEpoch sessionId epoch now => store.updateEpoch sessionId epoch now disk
  | upsertReceipt receipt now => store.upsertReceipt receipt now disk

def Unneeded (store : MetadataStore) : StoreCall → Prop
  | register claim _ _ => ∃ mapping, store.mappingFor claim.upstreamIdentity = some mapping ∧
      (∀ preferred ∈ claim.preferredSessionId, preferred = mapping.sessionId) ∧
      (∃ revision ≤ u64Max, claim.liveRevision = some revision) ∧ mapping.revisionSeed = u64Max ∧
      mapping.processNonceDigest = claim.processNonceDigest ∧ mapping.adapterFamily = claim.adapterFamily ∧
      mapping.adapterVersion = claim.adapterVersion ∧ mapping.updatedAt = claim.now
  | updateRevision sessionId revision now => ∀ mapping, store.mappings.find? (·.sessionId = sessionId) = some mapping →
      revision ≤ mapping.revisionSeed ∧ mapping.updatedAt = now
  | updateEpoch sessionId epoch now => ∀ mapping, store.mappings.find? (·.sessionId = sessionId) = some mapping →
      mapping.snapshotEpoch = epoch ∧ mapping.updatedAt = now
  | upsertReceipt receipt now =>
      (∃ existing, store.receipt receipt.commandId = some existing ∧
        (existing = receipt ∨ receipt.updatedAt < existing.updatedAt)) ∧
      (∀ held ∈ store.receipts, now - held.updatedAt ≤ receiptTtlSeconds) ∧
      store.receipts.Pairwise (·.updatedAt ≤ ·.updatedAt) ∧
      store.receipts.length ≤ maxIdentityMappings * maxCommandReceipts

end StoreCall

variable {now : ℕ} {receipt : CommandReceipt}

namespace MetadataStore

variable {store : MetadataStore}

lemma updateMapping_same {sessionId : String} {change : IdentityMapping → IdentityMapping}
    (h : ∀ mapping, store.mappings.find? (·.sessionId = sessionId) = some mapping → change mapping = mapping)
    (disk : Except String Unit) : (store.updateMapping sessionId change disk).1 = store := by
  rw [updateMapping]
  split
  · rfl
  · next mapping hfind =>
    have hid : mapping.sessionId = sessionId := by simpa using List.find?_some hfind
    rw [h mapping hfind, replaceFirst_of_find (by rwa [hid])]
    rfl

lemma upserted_same {existing : CommandReceipt} (hfind : store.receipt receipt.commandId = some existing)
    (hold : existing = receipt ∨ receipt.updatedAt < existing.updatedAt)
    (hfresh : ∀ held ∈ store.receipts, now - held.updatedAt ≤ receiptTtlSeconds)
    (hsorted : store.receipts.Pairwise (·.updatedAt ≤ ·.updatedAt))
    (hbound : store.receipts.length ≤ maxIdentityMappings * maxCommandReceipts) :
    store.upserted receipt now = store.receipts := by
  have hrow : (if existing.updatedAt ≤ receipt.updatedAt then
      replaceFirst CommandReceipt.commandId receipt store.receipts else store.receipts) = store.receipts := by
    rcases hold with rfl | hlate
    · rw [if_pos le_rfl, replaceFirst_of_find hfind]
    · rw [if_neg (by omega)]
  have hkept : store.receipts.filter (fun r => now - r.updatedAt ≤ receiptTtlSeconds) = store.receipts :=
    List.filter_eq_self.mpr fun held hheld => decide_eq_true (hfresh held hheld)
  rw [MetadataStore.receipt] at hfind
  simp only [upserted, hfind, hrow, hkept, sortByKey_eq_self hsorted, Nat.sub_eq_zero_of_le hbound, List.drop_zero]

variable {claim : Claim} {mapping : IdentityMapping}

variable {epoch : ℕ}

lemma reclaim_same {revision : ℕ} (hpreferred : ∀ preferred ∈ claim.preferredSessionId, preferred = mapping.sessionId)
    (hlive : claim.liveRevision = some revision) (hrevision : revision ≤ u64Max)
    (hseed : mapping.revisionSeed = u64Max) (hnonce : mapping.processNonceDigest = claim.processNonceDigest)
    (hfamily : mapping.adapterFamily = claim.adapterFamily) (hversion : mapping.adapterVersion = claim.adapterVersion)
    (hnow : mapping.updatedAt = claim.now) : reclaim claim epoch mapping = mapping := by
  have hid : claim.preferredSessionId.getD mapping.sessionId = mapping.sessionId := by
    cases hp : claim.preferredSessionId with
    | none => rfl
    | some preferred => exact hpreferred preferred hp
  have hbump : bump (max mapping.revisionSeed (claim.liveRevision.getD 0)) = mapping.revisionSeed := by
    rw [hlive, hseed, Option.getD_some, max_eq_left hrevision, bump_u64Max]
  have hepoch : ¬ (¬ mapping.processNonceDigest = claim.processNonceDigest ∨ claim.liveRevision = none) := by
    simp [hnonce, hlive]
  rw [reclaim, hid, hbump, if_pos hnonce, if_neg hepoch, ← hnonce, ← hfamily, ← hversion, ← hnow]

lemma receiptsAfterMove_same (h : ∀ preferred ∈ claim.preferredSessionId, preferred = mapping.sessionId) :
    store.receiptsAfterMove claim mapping = store.receipts := by
  rw [receiptsAfterMove, if_neg]
  simp only [Option.any_eq_true, decide_eq_true_eq, not_exists, not_and, not_not]
  exact h

lemma register_same (hfind : store.mappingFor claim.upstreamIdentity = some mapping)
    (hpreferred : ∀ preferred ∈ claim.preferredSessionId, preferred = mapping.sessionId)
    (hsame : reclaim claim epoch mapping = mapping) (freshId : String) (disk : Except String Unit) :
    (store.register claim freshId epoch disk).1 = store := by
  rw [mappingFor] at hfind
  have hdigest : mapping.upstreamDigest = store.digest claim.upstreamIdentity := by
    simpa using List.find?_some hfind
  have hrows : replaceFirst IdentityMapping.upstreamDigest mapping store.mappings = store.mappings :=
    replaceFirst_of_find (by rwa [hdigest])
  simp only [register, hfind, hsame, hrows, receiptsAfterMove_same hpreferred]
  split
  · rfl
  · split
    · rfl
    · cases disk <;> rfl

end MetadataStore

lemma StoreCall.run_unneeded {store : MetadataStore} {call : StoreCall} (h : call.Unneeded store)
    (disk : Except String Unit) : (call.run store disk).1 = store := by
  cases call with
  | register claim freshId epoch =>
    obtain ⟨mapping, hfind, hpreferred, ⟨revision, hrevision, hlive⟩, hseed, hnonce, hfamily, hversion, hnow⟩ := h
    apply MetadataStore.register_same hfind hpreferred
    exact MetadataStore.reclaim_same hpreferred hlive hrevision hseed hnonce hfamily hversion hnow
  | updateRevision sessionId revision now =>
    apply MetadataStore.updateMapping_same
    intro mapping hfind
    obtain ⟨hle, rfl⟩ := h mapping hfind
    rw [max_eq_left hle]
  | updateEpoch sessionId epoch now =>
    apply MetadataStore.updateMapping_same
    intro mapping hfind
    obtain ⟨rfl, rfl⟩ := h mapping hfind
    rfl
  | upsertReceipt receipt now =>
    obtain ⟨⟨existing, hfind, hold⟩, hfresh, hsorted, hbound⟩ := h
    simp only [run, MetadataStore.upsertReceipt, MetadataStore.persist]
    rw [MetadataStore.upserted_same hfind hold hfresh hsorted hbound]

namespace Supervisor

variable {sv : Supervisor} {env : Env} {command : AgentCommand}

variable {disk : Except String Unit}

lemma deliverCommand_sending {sender : Option ℕ} {accepts : Bool}
    (h : (sv.deliverCommand command sender receipt now accepts disk).2.state = "sending") :
    ∃ channel, (channel, command) ∈ (sv.deliverCommand command sender receipt now accepts disk).1.delivered := by
  have hunknown : ∀ reason, (sv.markOutcomeUnknown command reason now disk).2.state = "outcome_unknown" := by
    intro reason
    rw [markOutcomeUnknown]
    split <;> rfl
  cases sender with
  | none =>
    simp [deliverCommand, hunknown] at h
  | some channel =>
    cases accepts with
    | true => exact ⟨channel, by simp [deliverCommand]⟩
    | false => simp [deliverCommand, hunknown] at h

lemma admitCommand_answered {clock : ℕ} {after : Supervisor}
    (h : sv.admitCommand command now clock disk = (after, .answered receipt)) :
    receipt.state ≠ "sending" := by
  simp only [admitCommand, LiveSession.takeCommand] at h
  split at h
  · cases h
    simp [rejectedReceipt]
  · split at h
    · cases h
      simp [rejectedReceipt]
    · split at h
      · cases h
        simp [rejectedReceipt]
      · split at h
        · cases h
          simp [rejectedReceipt]
        · cases h

lemma submitCommand_sending (hheld : ∀ r, sv.metadata.receipt command.commandId = some r → r.state ≠ "sending")
    (h : (sv.submitCommand env command).2.state = "sending") :
    ∃ channel, (channel, command) ∈ (sv.submitCommand env command).1.delivered := by
  simp only [submitCommand] at h ⊢
  split at h
  · simp [rejectedReceipt] at h
  · split at h
    · next answer hlookup =>
      rw [lookupCommand, Option.map_eq_some_iff] at hlookup
      obtain ⟨existing, hexisting, rfl⟩ := hlookup
      split at h
      · exact absurd h (hheld existing hexisting)
      · simp [rejectedReceipt] at h
    · split at h
      · next hanswered => exact absurd h (admitCommand_answered hanswered)
      · exact deliverCommand_sending h

end Supervisor

namespace Sample

def promptAt (commandId : String) (now : ℕ) (disk : Except String Unit) : Input :=
  ⟨.submit ⟨1, commandId, "s-1", 1000, 1, none, .prompt "hi"⟩,
    { env now [] with now := now, disk := fun _ => disk }⟩

def mapping : IdentityMapping := ⟨"d", "s-1", "n", "Claude", "2.0.0", 1, 1000, 5, 100⟩

end Sample

end CiaoHost.Session
