import CiaoHost.Session.SoundRun
import CiaoHost.Session.NumberedRun

/-! The parts of a session's snapshot agree with each other, as long as no step sets them against
each other. -/

namespace CiaoHost.Session

open Protocol Lib Lib.Saturating

namespace LiveSession

def Coherent (s : LiveSession) : Prop := s.snapshot.Coherent

variable {s : LiveSession}

variable {now : ℕ} {receipt : CommandReceipt} {id : String}

variable {change : AgentSessionSnapshot → AgentSessionSnapshot} {turn : TurnState} {store : MetadataStore}
  {effect : Effect}

lemma Coherent.publishChange (h : s.Coherent) {changes : AgentSessionSnapshot → List AgentDeltaChange}
    (hchange : ∀ snapshot : AgentSessionSnapshot, snapshot.Coherent → snapshot.turn = s.snapshot.turn →
      snapshot.pendingInteractions = s.snapshot.pendingInteractions → snapshot.topology = s.snapshot.topology →
      (∀ r, snapshot.ownsReceipt r ↔ s.snapshot.ownsReceipt r) → (change snapshot).Coherent) :
    (s.publishChange now change changes).1.Coherent := by
  exact hchange (s.bumpRevision now).snapshot ⟨h.receipts, h.sorted, h.awaiting, h.managed⟩ rfl rfl rfl fun r => Iff.rfl

lemma Coherent.report {α : Type} [DecidableEq α] (h : s.Coherent) {current : Option α} {value : α}
    {published : AgentDeltaChange}
    (hchange : ∀ snapshot : AgentSessionSnapshot, snapshot.Coherent → (change snapshot).Coherent) :
    (s.report now current value change published).1.Coherent := by
  rw [LiveSession.report]
  split
  · exact h
  · apply h.publishChange
    intro snapshot hs _ _ _ _
    exact hchange snapshot hs

section

variable (h : s.Coherent)

include h

lemma Coherent.updateCommands (now : ℕ) (commands : CommandCapabilities) :
    (s.updateCommands now commands).1.Coherent := by
  simp only [LiveSession.updateCommands]
  split
  · exact h
  · apply Coherent.publishChange (s := { s with offeredCommands := commands }) h
    intro snapshot hs _ _ _ _
    exact ⟨hs.receipts, hs.sorted, hs.awaiting, hs.managed⟩

lemma Coherent.publishTurn
    (hturn : s.snapshot.hasUnresolvedBlocking → turn.isAwaiting) : (s.publishTurn now turn).1.Coherent := by
  apply h.publishChange
  intro snapshot hs _ hpending _ _
  refine ⟨hs.receipts, hs.sorted, fun hblocking => hturn ?_, hs.managed⟩
  rwa [AgentSessionSnapshot.hasUnresolvedBlocking, ← hpending]

lemma Coherent.noteTurn
    (hturn : s.snapshot.hasUnresolvedBlocking → turn.isAwaiting) : (s.noteTurn now turn).1.Coherent := by
  simp only [LiveSession.noteTurn]
  split
  · exact h
  · apply Coherent.publishTurn
    · exact h
    · exact hturn

lemma Coherent.latchAttention (now : ℕ) : (s.latchAttention now).1.Coherent := by
  rw [LiveSession.latchAttention]
  split
  · exact h
  · exact h.publishTurn fun _ => rfl

lemma Coherent.unblocked (hworking : NormalizedRegistration.isWorking s.snapshot.turn) :
    ¬ s.snapshot.hasUnresolvedBlocking := by
  intro hblocking
  have hawaiting := h.awaiting hblocking
  cases hturn : s.snapshot.turn <;> simp [hturn, NormalizedRegistration.isWorking, TurnState.isAwaiting]
    at hworking hawaiting

lemma Coherent.idleReport (now : ℕ) : (s.idleReport now).1.Coherent := by
  rw [LiveSession.idleReport]
  split
  · next hworking =>
    exact Coherent.publishTurn (s := { s with openRun := none }) h fun hblocking =>
      absurd hblocking (h.unblocked hworking)
  · exact h

lemma Coherent.expireTurnClaim (now : ℕ) : (s.expireTurnClaim now).1.Coherent := by
  rw [LiveSession.expireTurnClaim]
  split
  · exact h
  · next hclaim =>
    apply Coherent.publishTurn (s := { s with openRun := none }) h
    intro hblocking
    have hworking : NormalizedRegistration.isWorking s.snapshot.turn := by
      by_contra hidle
      exact hclaim (.inr (.inl hidle))
    exact absurd hblocking (h.unblocked hworking)

lemma Coherent.publishInteraction (now : ℕ) (i : PendingInteraction)
    (pending : List PendingInteraction) : (s.publishInteraction now i pending).1.Coherent := by
  apply h.publishChange
  intro snapshot hs _ _ _ _
  exact ⟨hs.receipts, hs.sorted, fun _ => rfl, hs.managed⟩

lemma Coherent.upsertInteraction (now : ℕ) (i : PendingInteraction) :
    (s.upsertInteraction now i).1.1.Coherent := by
  simp only [LiveSession.upsertInteraction]
  split
  · split
    · exact h
    · exact h.publishInteraction ..
  · split
    · exact h
    · exact h.publishInteraction ..

lemma Coherent.resolveInteraction (now : ℕ) (interactionId resolution : String) :
    (s.resolveInteraction now interactionId resolution).1.Coherent := by
  simp only [LiveSession.resolveInteraction]
  split
  · apply h.publishChange
    intro snapshot hs _ _ _ _
    refine ⟨hs.receipts, hs.sorted, fun hblocking => ?_, hs.managed⟩
    -- a card that still blocks is still pending, and a pending card keeps the latch
    simp only [turnAfterResolution]
    split
    · rfl
    · next hnone =>
      rw [not_not] at hnone
      rw [AgentSessionSnapshot.hasUnresolvedBlocking, hnone] at hblocking
      cases hblocking
  · exact h

end

/-! Receipts: each one is issued under the session's own id, generation and epoch. -/

lemma Coherent.publishReceipt (h : s.Coherent) (howns : s.snapshot.ownsReceipt receipt)
    (now : ℕ) : (s.publishReceipt now receipt).1.Coherent := by
  simp only [LiveSession.publishReceipt]
  apply h.publishChange
  intro snapshot hs _ _ _ howned
  refine ⟨fun r hr => ?_, hs.sorted, hs.awaiting, hs.managed⟩
  rcases mem_receiptsWith hr with rfl | hr
  · exact (howned r).mpr howns
  · exact hs.receipts r hr

lemma Receipted.owns {s' : LiveSession} (h : s.Receipted s') (r : CommandReceipt) :
    s'.snapshot.ownsReceipt r ↔ s.snapshot.ownsReceipt r := by
  obtain ⟨revision, receipts, now, rfl⟩ := h
  exact Iff.rfl

lemma Issued.coherent {kind : LiveSession → CommandReceipt → Prop}
    (h : Issued now kind s store effect) (hs : s.Coherent)
    (hkind : ∀ s' r, s.Receipted s' → kind s' r → s'.snapshot.ownsReceipt r) : effect.session.Coherent :=
  (h.keeps (P := fun s' _ => s'.Coherent ∧ s.Receipted s') (fun _ _ _ _ _ hp => hp)
    (fun s' _ r hk hp => ⟨hp.1.publishReceipt (hkind s' r hp.2 hk) now, hp.2.trans (s'.publishReceipt_receipted now r)⟩)
    ⟨hs, .refl s⟩).1

lemma Issued.coherent_one (h : Issued now (fun _ r => r = receipt) s store effect) (hs : s.Coherent)
    (howns : s.snapshot.ownsReceipt receipt) : effect.session.Coherent := by
  apply h.coherent hs
  rintro s' r hr rfl
  exact (hr.owns r).mpr howns

lemma Issued.coherent_ambiguous {reason : String} {commands : List String}
    (h : Issued now (Ambiguous id now reason commands) s store effect) (hs : s.Coherent)
    (hid : s.snapshot.sessionId = id) : effect.session.Coherent := by
  apply h.coherent hs
  rintro s' r hr ⟨c, -, rfl⟩
  exact ⟨(hr.sameHold.sessionId.trans hid).symm, rfl, rfl⟩

lemma takeCommand_failed (s : LiveSession) (store : MetadataStore) (command : AgentCommand) (now clock : ℕ)
    (e : String) : (s.takeCommand store command now clock (.error e)).1.session = s := by
  simp only [LiveSession.takeCommand]
  split
  · rfl
  · split <;> rfl

variable {command : AgentCommand}

lemma Coherent.takeCommand (h : s.Coherent) {clock : ℕ}
    {disk : Except String Unit} (hid : s.snapshot.sessionId = command.sessionId)
    (hcurrent : disk = .ok () → command.snapshotEpoch = s.snapshot.snapshotEpoch ∧
      command.expectedGeneration = s.snapshot.processGeneration) :
    (s.takeCommand store command now clock disk).1.session.Coherent := by
  cases disk with
  | error e =>
    -- a receipt that cannot be stored is not published either
    rw [s.takeCommand_failed]
    exact h
  | ok _ =>
    obtain ⟨hepoch, hgeneration⟩ := hcurrent rfl
    obtain ⟨effect, flight, hissued, heq, -⟩ := s.takeCommand_issued store now (.ok ()) command clock
    have howns : s.snapshot.ownsReceipt (s.admissionReceipt command now) := by
      rw [admissionReceipt]
      split
      · exact ⟨hid.symm, hgeneration, hepoch⟩
      · split <;> exact ⟨hid.symm, hgeneration, hepoch⟩
    rw [heq]
    exact hissued.coherent_one h howns

lemma Coherent.landUnknown (h : s.Coherent) (hid : s.snapshot.sessionId = command.sessionId)
    (hgeneration : command.expectedGeneration = s.snapshot.processGeneration)
    (hepoch : command.snapshotEpoch = s.snapshot.snapshotEpoch) (store : MetadataStore) (reason : String) (now : ℕ)
    (disk : Except String Unit) : (s.landUnknown store command reason now disk).session.Coherent := by
  rw [LiveSession.landUnknown]
  apply (persistOrPublishReceipt_issued ..).coherent_one
  · exact h
  · exact ⟨hid.symm, hgeneration, hepoch⟩

lemma Coherent.landReceipt (h : s.Coherent) (howns : s.snapshot.ownsReceipt receipt)
    (store : MetadataStore) (env : Env) : (s.landReceipt store env receipt).1.session.Coherent := by
  obtain ⟨effect, flight, hissued, heq, -⟩ := s.landReceipt_issued store receipt env
  rw [heq]
  exact hissued.coherent_one h howns

/-! Ends of bridges and routes: what is withdrawn must not be blocked on. -/

section

variable (h : s.Coherent)

include h

lemma Coherent.downgradeSession (hfree : ¬ s.snapshot.hasUnresolvedBlocking) (now : ℕ)
    (reason : String) : (s.downgradeSession now reason).1.Coherent := by
  rw [LiveSession.downgradeSession]
  apply Coherent.publishChange (s := { s with openRun := none }) h
  intro snapshot hs _ hpending _ _
  refine ⟨hs.receipts, hs.sorted, fun hblocking => absurd ?_ hfree, fun _ => rfl⟩
  rw [AgentSessionSnapshot.hasUnresolvedBlocking, ← show snapshot.pendingInteractions = _ from hpending]
  exact hblocking

lemma Coherent.release : s.release.Coherent := by
  refine ⟨h.receipts, h.sorted, fun hblocking => absurd hblocking Bool.false_ne_true, fun hmanaged => ?_⟩
  exact absurd (show "attached" = "managed" from hmanaged) (by decide)

lemma Coherent.downgradeRoute (now : ℕ) (reason : String) :
    (s.downgradeRoute now reason).1.Coherent := by
  apply h.publishChange
  intro snapshot hs _ _ _ _
  exact ⟨hs.receipts, hs.sorted, hs.awaiting, fun _ => rfl⟩

lemma Coherent.installRoute {proof : Option AgentRouteProof}
    (hproof : proof.isSome → s.snapshot.topology ≠ "managed") (now : ℕ) (routeId : String) :
    (s.installRoute now proof routeId).1.Coherent := by
  simp only [LiveSession.installRoute]
  apply Coherent.publishChange
  · exact h
  · intro snapshot hs _ _ htopology _
    refine ⟨hs.receipts, hs.sorted, hs.awaiting, fun hmanaged => ?_⟩
    cases proof with
    | none => rfl
    | some proof => exact absurd (htopology.symm.trans hmanaged) (hproof rfl)

lemma Coherent.disconnected (hid : s.snapshot.sessionId = id)
    (hfree : s.snapshot.topology ≠ "adopted" → ¬ s.snapshot.hasUnresolvedBlocking) (store : MetadataStore)
    (env : Env) : (s.disconnected id store env).session.Coherent := by
  have hunplugged : { s with bridgeSender := none, adapterActive := false, inFlightCommands := [] }.Coherent := h
  have hissued := abandonInFlight_issued { s with bridgeSender := none, adapterActive := false, inFlightCommands := [] }
    store id env 0 s.inFlightCommands
  have hanswered := hissued.coherent_ambiguous hunplugged hid
  obtain ⟨revision, receipts, now, hr⟩ := hissued.receipted
  simp only [LiveSession.disconnected]
  split
  · apply hanswered.release.downgradeSession
    intro hblocking
    cases hblocking
  · next htopology =>
    apply hanswered.downgradeSession
    rw [hr] at htopology ⊢
    exact hfree htopology

lemma Coherent.observe (env : Env) (r : NormalizedRegistration) : (s.observe env r).1.Coherent := by
  simp only [LiveSession.observe]
  split
  · exact ⟨h.receipts, h.sorted, h.awaiting, h.managed⟩
  · exact ⟨h.receipts, h.sorted, h.awaiting, h.managed⟩

end

end LiveSession

/-! Rows: a window read off rows in order is in order. -/

lemma wireRow_sequence (sized : List TimelineEntry) (e : TimelineEntry) : (wireRow sized e).sequence = e.sequence := by
  have halone := (fitEntryAlone_sameRow e).sequence
  rw [wireRow]
  split
  · next wire hwire =>
    split
    · have hsame := List.find?_some hwire
      simp only [decide_eq_true_eq] at hsame
      exact hsame.2.2
    · exact halone
  · exact halone

lemma refreshWindow_sequences (window : TimelineWindow) (history : List TimelineEntry) :
    (refreshWindow window history).entries.map TimelineEntry.sequence =
      ((history.map TimelineEntry.sequence).reverse.take maxTimelinePageEntries).reverse := by
  have hwire : TimelineEntry.sequence ∘ wireRow window.entries = TimelineEntry.sequence :=
    funext fun e => wireRow_sequence _ e
  rw [refreshWindow, List.map_reverse, List.map_map, hwire, List.map_take, List.map_reverse]

lemma refreshWindow_sorted (window : TimelineWindow) {history : List TimelineEntry}
    (h : history.Pairwise (·.sequence < ·.sequence)) :
    (refreshWindow window history).entries.Pairwise (·.sequence < ·.sequence) := by
  have hsequences : (history.map TimelineEntry.sequence).Pairwise (· < ·) := List.pairwise_map.mpr h
  rw [← List.pairwise_map (f := TimelineEntry.sequence) (R := (· < ·)), refreshWindow_sequences,
    List.pairwise_reverse]
  exact (List.pairwise_reverse.mpr hsequences).sublist (List.take_sublist ..)

namespace LiveSession

variable {s : LiveSession}

section

variable (h : s.Coherent)

include h

lemma Coherent.refreshSnapshotWindow (hrows : s.history.Pairwise (·.sequence < ·.sequence)) :
    s.refreshSnapshotWindow.Coherent :=
  ⟨h.receipts, refreshWindow_sorted _ hrows, h.awaiting, h.managed⟩

lemma Coherent.setHistoryCoverage (complete : Bool) : (s.setHistoryCoverage complete).1.Coherent :=
  ⟨h.receipts, h.sorted, h.awaiting, h.managed⟩

lemma Coherent.publishEntry (hrows : s.toTimeline.WellNumbered) (now : ℕ) (canonical : TimelineEntry) :
    (s.publishEntry now canonical).1.Coherent := by
  apply publishEntry_keeps
  · have hbumped : ({ s with toTimeline := s.toTimeline.enforceHistoryBound.1 }.bumpRevision now).Coherent :=
      ⟨h.receipts, h.sorted, h.awaiting, h.managed⟩
    exact hbumped.refreshSnapshotWindow hrows.enforceHistoryBound.sorted
  · intro s hnone h
    refine ⟨h.receipts, h.sorted, fun hblocking => ?_, h.managed⟩
    rw [AgentSessionSnapshot.hasUnresolvedBlocking, hnone] at hblocking
    cases hblocking
  · exact fun _ h => h.setHistoryCoverage false
  · exact fun _ h => ⟨h.receipts, h.sorted, h.awaiting, h.managed⟩

lemma Coherent.appended (hrows : s.toTimeline.WellNumbered) (hroom : s.nextSequence < u64Max) {now : ℕ}
    {freshId source : String} {late : Prop} {row : TimelineEntry → Prop}
    {result : LiveSession × List AgentServerFrame} (ha : Appended now freshId source late row s result) :
    result.1.Coherent := by
  cases ha with
  | ignored _ => exact h
  | put t e _ hput =>
    apply Coherent.publishEntry
    · exact h
    · exact hput.numbered hrows hroom

lemma Coherent.rewriteTo {rewritten : Timeline} (hrows : rewritten.WellNumbered)
    (store : MetadataStore) (env : Env) (complete : Option Bool) (visible : Bool) (reason : String) :
    (s.rewriteTo store env rewritten complete visible reason).1.session.Coherent := by
  suffices hboth : (s.rewriteTo store env rewritten complete visible reason).1.session.Coherent ∧
      (s.rewriteTo store env rewritten complete visible reason).1.session.toTimeline.WellNumbered from hboth.1
  apply rewriteTo_keeps (P := fun effect => effect.session.Coherent ∧ effect.session.toTimeline.WellNumbered)
  · exact ⟨h, hrows⟩
  · exact fun _ _ ⟨h, hrows⟩ => ⟨⟨by simp, h.sorted, h.awaiting, h.managed⟩, hrows⟩
  · exact fun _ _ ⟨h, hrows⟩ => ⟨h, hrows.enforceHistoryBound⟩
  · exact fun _ _ complete ⟨h, hrows⟩ => ⟨h.setHistoryCoverage complete, hrows⟩
  · rintro s store reason ⟨h, hrows⟩
    have hbumped : (s.bumpRevision env.now).Coherent := ⟨h.receipts, h.sorted, h.awaiting, h.managed⟩
    exact ⟨hbumped.refreshSnapshotWindow hrows.sorted, hrows⟩

end

end LiveSession

end CiaoHost.Session
