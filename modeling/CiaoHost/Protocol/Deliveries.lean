import CiaoHost.Protocol.Reducer
import CiaoHost.Lib.Sequenced

/-! The reducer under bad delivery: deltas that are not next change nothing. -/

namespace CiaoHost.Protocol

open Lib Lib.Checks

namespace AgentSessionSnapshot

variable {s : AgentSessionSnapshot} {d : AgentSessionDelta}

def reduce (s : AgentSessionSnapshot) (deltas : List AgentSessionDelta) : AgentSessionSnapshot :=
  deltas.foldl (fun s d => (applyDelta s d).1) s

def Awaits (s : AgentSessionSnapshot) (d : AgentSessionDelta) : Prop :=
  (d.sessionId = s.sessionId ∧ d.snapshotEpoch = s.snapshotEpoch ∧ d.processGeneration = s.processGeneration) ∧
    d.baseRevision = s.revision ∧ d.revision = s.revision + 1

def AppliesInOrder : AgentSessionSnapshot → List AgentSessionDelta → Prop
  | _, [] => True
  | s, d :: rest => s.Awaits d ∧ (applyDelta s d).2 = .ok .applied ∧ AppliesInOrder (applyDelta s d).1 rest

lemma applyDelta_inert (h : ¬ s.Awaits d) : (applyDelta s d).1 = s := by
  rw [applyDelta]
  split
  · rfl
  · split
    · rfl
    · next hidentity =>
      split
      · rfl
      · split
        · rfl
        · next hrevision =>
          refine absurd ⟨?_, ?_⟩ h
          · simpa only [not_or, not_not] using hidentity
          · simpa only [not_or, not_not] using hrevision

lemma enforceReducerInvariants_revision (s : AgentSessionSnapshot) :
    s.enforceReducerInvariants.1.revision = s.revision := by
  simp only [enforceReducerInvariants]
  split <;> rfl

lemma applyDelta_revision {s' : AgentSessionSnapshot} (h : applyDelta s d = (s', .ok .applied)) :
    s'.revision = d.revision := by
  rw [applyDelta] at h
  split at h
  · cases h
  · split at h
    · cases h
    · split at h
      · split at h <;> cases h
      · split at h
        · cases h
        · split at h
          · cases h
          · next changed _ =>
            have hrevision := enforceReducerInvariants_revision { changed with revision := d.revision }
            split at h
            · cases h
            · next henforced =>
              rw [henforced] at hrevision
              cases h
              exact hrevision

lemma AppliesInOrder.chain {deltas : List AgentSessionDelta} (h : s.AppliesInOrder deltas) :
    Sequenced.Chain (fun s d => (applyDelta s d).1) AgentSessionSnapshot.revision AgentSessionDelta.revision s
      deltas := by
  induction deltas generalizing s with
  | nil => trivial
  | cons d rest ih =>
    obtain ⟨hawaits, happlied, hrest⟩ := h
    refine ⟨hawaits.2.2, ?_, ih hrest⟩
    rw [applyDelta_revision (Prod.ext rfl happlied), hawaits.2.2]

lemma applyDelta_out_of_turn (h : d.revision ≠ s.revision + 1) : (applyDelta s d).1 = s :=
  applyDelta_inert fun hawaits => h hawaits.2.2

theorem deliveries_reach_first_part {s₀ : AgentSessionSnapshot} {chain : List AgentSessionDelta}
    (hchain : s₀.AppliesInOrder chain) :
    (∀ delivery : List AgentSessionDelta, (∀ d ∈ delivery, d ∈ chain) →
      ∃ k ≤ chain.length, s₀.reduce delivery = s₀.reduce (chain.take k)) ∧
    (∀ k ≤ chain.length, ∀ d ∈ chain, chain[k]? ≠ some d →
      (applyDelta (s₀.reduce (chain.take k)) d).1 = s₀.reduce (chain.take k)) ∧
    ∀ s d, ¬ Awaits s d → (applyDelta s d).1 = s := by
  refine ⟨fun delivery hmem => ?_, fun k hk d hd hnext => ?_, fun s d => applyDelta_inert⟩
  · obtain ⟨k, -, hk, heq⟩ :=
      hchain.chain.deliver (fun _ _ => applyDelta_out_of_turn) hmem (Nat.zero_le chain.length)
    exact ⟨k, hk, heq⟩
  · exact applyDelta_out_of_turn (hchain.chain.out_of_turn hk hd hnext)

namespace Sample

def snapshot : AgentSessionSnapshot where
  v := 1
  sessionId := "s-1"
  snapshotEpoch := 7
  revision := 3
  processGeneration := 1
  adapter := ⟨"Claude", "2.0.0", "compatible"⟩
  topology := "attached"
  presence := "live"
  storedReason := none
  controlOwner := "user"
  observation := ⟨"authoritative", "live", none⟩
  turn := .idle
  permissionMode := none
  model := none
  effort := none
  models := none
  drift := none
  capabilities := ⟨"live_tail", .none, .none, "none", "unavailable"⟩
  pendingInteractions := []
  timelineWindow := ⟨[], false, none, none, none, false⟩
  terminalFallback := ⟨"unavailable", none, none, none, none⟩
  latestCommandReceipts := []

def delta (revision : ℕ) (change : AgentDeltaChange) : AgentSessionDelta :=
  ⟨1, "s-1", 7, 1, revision - 1, revision, [change]⟩

def chain : List AgentSessionDelta :=
  [delta 4 (.turn (.running "run-1" "working")), delta 5 (.model "opus"), delta 6 (.turn .idle)]

end Sample

theorem deliveries_reach_first_part_shuffled :
    Sample.snapshot.validate = .ok () ∧ ∃ k ≤ 3, Sample.snapshot.reduce
      [Sample.delta 6 (.turn .idle), Sample.delta 4 (.turn (.running "run-1" "working")),
        Sample.delta 4 (.turn (.running "run-1" "working")), Sample.delta 6 (.turn .idle)] =
      Sample.snapshot.reduce (Sample.chain.take k) := by
  have hchain : Sample.snapshot.AppliesInOrder Sample.chain := by
    simp only [AppliesInOrder, Sample.chain, Awaits]
    decide +kernel
  refine ⟨by decide +kernel, ?_⟩
  apply (deliveries_reach_first_part hchain).1
  decide +kernel

end AgentSessionSnapshot

end CiaoHost.Protocol
