import CiaoHost.Session.SoundRun
import CiaoHost.Protocol.Replay

/-! A copy of a session's snapshot follows the session through the deltas of one move. -/

namespace CiaoHost.Session

open Protocol Lib Lib.Checks Lib.Saturating Lib.KeyedList

namespace LiveSession

def Follows (copy : AgentSessionSnapshot) (result : LiveSession × List AgentServerFrame) : Prop :=
  copy.replay result.2 = some result.1.snapshot

variable {id : String} {s : LiveSession}

lemma Follows.quiet (s : LiveSession) : Follows s.snapshot (s, []) := rfl

lemma Follows.trans {copy : AgentSessionSnapshot} {s' : LiveSession} {frames frames' : List AgentServerFrame}
    (h : Follows copy (s, frames)) (h' : Follows s.snapshot (s', frames')) : Follows copy (s', frames ++ frames') := by
  rw [Follows, AgentSessionSnapshot.replay_append, show copy.replay frames = some s.snapshot from h]
  exact h'

lemma delta_valid (h : s.Sound id) {d : AgentSessionDelta} (hv : d.v = agentProtocolVersion)
    (hid : d.sessionId = s.snapshot.sessionId ∧ d.snapshotEpoch = s.snapshot.snapshotEpoch ∧
      d.processGeneration = s.snapshot.processGeneration)
    (hbase : d.baseRevision = s.snapshot.revision) (hrevision : d.revision = s.snapshot.revision + 1)
    (hsome : d.changes ≠ []) (hfew : d.changes.length ≤ 64)
    (hvalid : ∀ change ∈ d.changes, change.validate = .ok ()) : d.validate = .ok () := by
  have hform := h.snapshot
  simp only [AgentSessionDelta.validate, requireVersion, bind_ok, refuseIf_ok, each_ok, hv, hid]
  refine ⟨by simp, hform.sessionId, ?_, hvalid⟩
  simp only [not_or]
  refine ⟨hform.epoch, hform.generation, ?_, by omega, hsome, by omega⟩
  rw [hbase]
  exact hform.revision

variable {change : AgentSessionSnapshot → AgentSessionSnapshot}

lemma publishChange_follows {now : ℕ}
    {changes : AgentSessionSnapshot → List AgentDeltaChange} (h : s.Sound id) (hroom : s.snapshot.revision < u64Max)
    (hsame : ∀ snapshot : AgentSessionSnapshot, (change snapshot).sessionId = snapshot.sessionId ∧
      (change snapshot).snapshotEpoch = snapshot.snapshotEpoch ∧
      (change snapshot).processGeneration = snapshot.processGeneration ∧ (change snapshot).revision = snapshot.revision)
    (hsome : ∀ snapshot, changes snapshot ≠ []) (hfew : ∀ snapshot, (changes snapshot).length ≤ 64)
    (hvalid : ∀ c ∈ changes (s.publishChange now change changes).1.snapshot, c.validate = .ok ())
    (hchanges : ((changes (s.publishChange now change changes).1.snapshot).foldl AgentSessionSnapshot.applyProof
        s.snapshot).applyChanges (changes (s.publishChange now change changes).1.snapshot) =
      ({ (s.publishChange now change changes).1.snapshot with revision := s.snapshot.revision }, .ok ()))
    (hsettled : (s.publishChange now change changes).1.snapshot.Settled) :
    Follows s.snapshot (s.publishChange now change changes) := by
  obtain ⟨hid, hepoch, hgeneration, hrevision⟩ := hsame (s.bumpRevision now).snapshot
  have hnext : (s.publishChange now change changes).1.snapshot.revision = s.snapshot.revision + 1 :=
    hrevision.trans (bump_eq hroom)
  apply AgentSessionSnapshot.replay_delta
  apply AgentSessionSnapshot.applyDelta_applied
  · exact delta_valid h rfl ⟨hid, hepoch, hgeneration⟩ rfl hnext (hsome _) (hfew _) hvalid
  · exact ⟨hid, hepoch, hgeneration⟩
  · rfl
  · exact hnext
  · exact hchanges
  · rfl
  · exact hsettled

lemma unblocked_of_working {snapshot : AgentSessionSnapshot} (h : snapshot.Settled)
    (hworking : NormalizedRegistration.isWorking snapshot.turn) : ¬ snapshot.hasUnresolvedBlocking := by
  intro hblocking
  rw [h.blocked hblocking] at hworking
  cases hworking

lemma report_follows {α : Type} [DecidableEq α] {now : ℕ} {current : Option α} {value : α}
    {published : AgentDeltaChange}
    (h : Follows s.snapshot (s.publishChange now change fun _ => [published])) :
    Follows s.snapshot (s.report now current value change published) := by
  rw [LiveSession.report]
  split
  · exact .quiet s
  · exact h

section

variable (h : s.Sound id) (hsettled : s.snapshot.Settled) (hroom : s.snapshot.revision < u64Max) {now : ℕ}

include h hsettled hroom

lemma updatePermissionMode_follows {mode : String} (hmode : validPermissionMode mode) :
    Follows s.snapshot (s.updatePermissionMode now mode) := by
  apply report_follows
  apply publishChange_follows h hroom
  · exact fun _ => ⟨rfl, rfl, rfl, rfl⟩
  · simp
  · simp
  · simpa [AgentDeltaChange.validate] using hmode
  · rfl
  · exact ⟨hsettled.blocked, hsettled.continuity, hsettled.managed⟩

lemma updateModel_follows {model : String} (hmodel : validModelId model = .ok ()) :
    Follows s.snapshot (s.updateModel now model) := by
  apply report_follows
  apply publishChange_follows h hroom
  · exact fun _ => ⟨rfl, rfl, rfl, rfl⟩
  · simp
  · simp
  · exact List.forall_mem_singleton.mpr hmodel
  · rfl
  · exact ⟨hsettled.blocked, hsettled.continuity, hsettled.managed⟩

lemma updateEffort_follows {effort : String} (heffort : validToken effort = .ok ()) :
    Follows s.snapshot (s.updateEffort now effort) := by
  apply report_follows
  apply publishChange_follows h hroom
  · exact fun _ => ⟨rfl, rfl, rfl, rfl⟩
  · simp
  · simp
  · exact List.forall_mem_singleton.mpr heffort
  · rfl
  · exact ⟨hsettled.blocked, hsettled.continuity, hsettled.managed⟩

lemma updateModelCatalogue_follows {models : List AgentModelOption} (hmodels : validateModelCatalogue models = .ok ()) :
    Follows s.snapshot (s.updateModelCatalogue now models) := by
  apply report_follows
  apply publishChange_follows h hroom
  · exact fun _ => ⟨rfl, rfl, rfl, rfl⟩
  · simp
  · simp
  · exact List.forall_mem_singleton.mpr hmodels
  · rfl
  · exact ⟨hsettled.blocked, hsettled.continuity, hsettled.managed⟩

lemma updateCommands_follows (commands : CommandCapabilities) : Follows s.snapshot (s.updateCommands now commands) := by
  simp only [LiveSession.updateCommands]
  split
  · exact .quiet { s with offeredCommands := commands }
  · have hoffered : { s with offeredCommands := commands }.Sound id := { h with }
    apply publishChange_follows hoffered hroom
    · exact fun _ => ⟨rfl, rfl, rfl, rfl⟩
    · simp
    · simp
    · exact List.forall_mem_singleton.mpr (setCommands_wellFormed h.snapshot _).capabilities
    · rfl
    · exact ⟨hsettled.blocked, hsettled.continuity, hsettled.managed⟩

variable {turn : TurnState}

section

variable (hturn : turn.validate = .ok ()) (hblocked : s.snapshot.hasUnresolvedBlocking → turn = .awaitingInteraction none)

include hturn hblocked

lemma publishTurn_follows :
    Follows s.snapshot (s.publishTurn now turn) := by
  apply publishChange_follows h hroom
  · exact fun _ => ⟨rfl, rfl, rfl, rfl⟩
  · simp
  · simp
  · exact List.forall_mem_singleton.mpr hturn
  · rfl
  · exact ⟨hblocked, hsettled.continuity, hsettled.managed⟩

lemma noteTurn_follows :
    Follows s.snapshot (s.noteTurn now turn) := by
  simp only [LiveSession.noteTurn]
  split
  · exact .quiet { s with openRun := _ }
  · have hrun : { s with openRun := if NormalizedRegistration.isWorking turn then some turn else none }.Sound id := by
      apply h.withOpenRun
      intro run hrun
      split at hrun
      · cases hrun
        exact hturn
      · cases hrun
    exact publishTurn_follows hrun hsettled hroom hturn hblocked

end

lemma latchAttention_follows : Follows s.snapshot (s.latchAttention now) := by
  rw [LiveSession.latchAttention]
  split
  · exact .quiet s
  · exact publishTurn_follows h hsettled hroom rfl fun _ => rfl

lemma idleReport_follows : Follows s.snapshot (s.idleReport now) := by
  rw [LiveSession.idleReport]
  split
  · next hworking =>
    have hrun : { s with openRun := none }.Sound id := h.withOpenRun (by simp)
    apply publishTurn_follows hrun hsettled hroom rfl
    intro hblocking
    exact absurd hblocking (unblocked_of_working hsettled hworking)
  · exact .quiet s

lemma expireTurnClaim_follows : Follows s.snapshot (s.expireTurnClaim now) := by
  rw [LiveSession.expireTurnClaim]
  split
  · exact .quiet s
  · next hclaim =>
    have hworking : NormalizedRegistration.isWorking s.snapshot.turn := by
      by_contra hidle
      exact hclaim (.inr (.inl hidle))
    have hrun : { s with openRun := none }.Sound id := h.withOpenRun (by simp)
    apply publishTurn_follows hrun hsettled hroom (by decide)
    intro hblocking
    exact absurd hblocking (unblocked_of_working hsettled hworking)

lemma upsertInteraction_follows {i : PendingInteraction} (hi : i.validate = .ok ()) :
    Follows s.snapshot (s.upsertInteraction now i).1 := by
  -- the reducer looks the card up, and bounds the cards, as the host does
  have hpublish : ∀ pending, s.snapshot.upsertInteraction i = ({ s.snapshot with pendingInteractions := pending }, .ok ()) →
      Follows s.snapshot (s.publishInteraction now i pending) := by
    intro pending hreduced
    apply publishChange_follows h hroom
    · exact fun _ => ⟨rfl, rfl, rfl, rfl⟩
    · simp
    · simp
    · intro c hc
      rcases List.mem_pair.mp hc with rfl | rfl
      · exact hi
      · rfl
    · simp only [List.foldl_cons, List.foldl_nil, AgentSessionSnapshot.applyProof, AgentSessionSnapshot.applyChanges,
        AgentSessionSnapshot.applyChange, hreduced]
      rfl
    · exact ⟨fun _ => rfl, hsettled.continuity, hsettled.managed⟩
  simp only [LiveSession.upsertInteraction]
  split
  · next existing hfound =>
    split
    · exact .quiet s
    · next hnewer =>
      apply hpublish
      simp only [AgentSessionSnapshot.upsertInteraction, hfound]
      rw [if_pos (not_le.mp hnewer)]
  · next hnone =>
    split
    · exact .quiet s
    · next hfits =>
      apply hpublish
      simp only [AgentSessionSnapshot.upsertInteraction, hnone]
      rw [if_neg hfits]

lemma resolveInteraction_follows {interactionId resolution : String} (hid : validOpaqueId interactionId = .ok ())
    (hresolution : validToken resolution = .ok ()) :
    Follows s.snapshot (s.resolveInteraction now interactionId resolution) := by
  simp only [LiveSession.resolveInteraction]
  split
  · apply publishChange_follows h hroom
    · exact fun _ => ⟨rfl, rfl, rfl, rfl⟩
    · simp
    · simp
    · intro c hc
      rcases List.mem_pair.mp hc with rfl | rfl
      · simp [AgentDeltaChange.validate, hid, hresolution]
      · exact h.turnAfterResolution _
    · rfl
    · refine ⟨fun hblocking => ?_, hsettled.continuity, hsettled.managed⟩
      -- a card that still blocks is still pending, and a pending card keeps the latch
      show s.turnAfterResolution (s.snapshot.pendingInteractions.filter (·.interactionId ≠ interactionId)) = _
      rw [LiveSession.turnAfterResolution]
      split
      · rfl
      · next hnone =>
        rw [not_not] at hnone
        obtain ⟨card, hcard, -⟩ := List.any_eq_true.mp hblocking
        have hmem : card ∈ s.snapshot.pendingInteractions.filter (·.interactionId ≠ interactionId) := hcard
        rw [hnone] at hmem
        cases hmem
  · exact .quiet s

end

end LiveSession

end CiaoHost.Session
