import CiaoHost.Protocol.Encoding

/-! A subscriber's copy of a snapshot under the frames of a run: every delta has to apply. -/

namespace CiaoHost.Protocol

open Lib.Checks

namespace AgentSessionSnapshot

def replay (s : AgentSessionSnapshot) : List AgentServerFrame → Option AgentSessionSnapshot
  | [] => some s
  | .sessionDelta _ d :: rest =>
    match applyDelta s d with
    | (s', .ok .applied) => s'.replay rest
    | _ => none
  | _ :: rest => s.replay rest

variable {s s' : AgentSessionSnapshot}

variable {d : AgentSessionDelta}

lemma replay_delta {v : ℕ} (h : applyDelta s d = (s', .ok .applied))
    (rest : List AgentServerFrame) : s.replay (.sessionDelta v d :: rest) = s'.replay rest := by
  rw [replay, h]

lemma replay_append (frames rest : List AgentServerFrame) :
    s.replay (frames ++ rest) = (s.replay frames).bind (·.replay rest) := by
  induction frames generalizing s with
  | nil => rfl
  | cons frame frames ih =>
    cases frame with
    | sessionDelta v d =>
      simp only [List.cons_append, replay]
      split
      · exact ih
      · rfl
    | sessionSnapshot | commandReceipt | resyncRequired => exact ih

/-- Nothing is left for the reducer to enforce. -/
structure Settled (s : AgentSessionSnapshot) : Prop where
  blocked : s.hasUnresolvedBlocking → s.turn = .awaitingInteraction none
  continuity : s.capabilities.terminalContinuity = s.terminalFallback.continuity
  managed : s.topology = "managed" → s.terminalFallback.continuity = "unavailable"

lemma Settled.enforce (h : s.Settled) : s.enforceReducerInvariants = (s, .ok ()) := by
  have hturn : (if s.hasUnresolvedBlocking then { s with turn := .awaitingInteraction none } else s) = s := by
    split
    · next hblocking =>
      rw [← h.blocked hblocking]
    · rfl
  have hcapabilities : { s with capabilities :=
      { s.capabilities with terminalContinuity := s.terminalFallback.continuity } } = s := by
    rw [← h.continuity]
  simp only [enforceReducerInvariants, hturn, Prod.mk.injEq, refuseIf_ok]
  refine ⟨hcapabilities, fun hroute => ?_⟩
  exact hroute.2 (h.managed hroute.1)

theorem applyDelta_applied {changed : AgentSessionSnapshot} (hvalid : d.validate = .ok ())
    (hid : d.sessionId = s.sessionId ∧ d.snapshotEpoch = s.snapshotEpoch ∧ d.processGeneration = s.processGeneration)
    (hbase : d.baseRevision = s.revision) (hrevision : d.revision = s.revision + 1)
    (hchanges : (d.changes.foldl applyProof s).applyChanges d.changes = (changed, .ok ()))
    (hafter : { changed with revision := d.revision } = s') (hsettled : s'.Settled) :
    applyDelta s d = (s', .ok .applied) := by
  rw [applyDelta, hvalid]
  dsimp only
  rw [if_neg (by simp [hid]), if_neg (by omega), if_neg (by omega), hchanges]
  dsimp only
  rw [hafter, hsettled.enforce]

end AgentSessionSnapshot

end CiaoHost.Protocol
