import CiaoHost.Session.Reapplied

/-! Reconciling twice: a record that was taken in once changes nothing the second time. -/

namespace CiaoHost.Session

open Protocol Lib Lib.Saturating

namespace LiveSession

variable {s : LiveSession} {store : MetadataStore} {env : Env} {rewritten : Timeline} {complete : Option Bool}
  {visible : Bool} {reasonCode : String}

lemma coverAfter_covered (s : LiveSession) (complete : Option Bool) : (s.coverAfter complete false).1.Covered complete := by
  intro covered heq
  subst heq
  rw [coverAfter, setHistoryCoverage]
  simp

lemma rewriteTo_done (hwithin : ¬ Timeline.overBound (Timeline.decodedBytes rewritten.history) rewritten.history)
    (hok : (s.rewriteTo store env rewritten complete visible reasonCode).2 = .ok ()) :
    (s.rewriteTo store env rewritten complete visible reasonCode).1.session.toTimeline = rewritten ∧
      (s.rewriteTo store env rewritten complete visible reasonCode).1.session.Covered complete := by
  have hkept : rewritten.enforceHistoryBound = (rewritten, false) := by
    apply Prod.ext
    · exact Timeline.enforceHistoryBound_within hwithin
    · exact decide_eq_false hwithin
  obtain ⟨htimeline, -⟩ := fenceRewrittenHistory_rows { s with toTimeline := rewritten } store s.heldSequences env
  rw [rewriteTo] at hok ⊢
  split at hok
  · cases hok
  · next fenced moved heq =>
    rw [heq] at htimeline
    dsimp only at htimeline ⊢
    rw [htimeline, hkept]
    dsimp only
    have hcover := coverAfter_covered { fenced.session with toTimeline := rewritten } complete
    have hrows := (coverAfter_rows { fenced.session with toTimeline := rewritten } complete false).1
    split
    · exact ⟨hrows, hcover⟩
    · exact ⟨hrows, hcover⟩

variable {authority : List NormalizedTimelineEntry} {mode : ReconcileMode} {stem : Option String} {scope : TurnScope}

lemma resolveMode_epoch (h : (s.resolveMode mode scope).after.isSome = true) :
    ∃ mark, scope.mark = some mark ∧ mark.snapshotEpoch = s.snapshot.snapshotEpoch := by
  cases mode with
  | backfill covered => cases h
  | turn fromStart after =>
    simp only [resolveMode, ReconcileMode.after, Option.isSome_map] at h
    obtain ⟨mark, hmark⟩ := Option.isSome_iff_exists.mp h
    rw [Option.filter_eq_some_iff] at hmark
    exact ⟨mark, hmark.1, of_decide_eq_true hmark.2⟩

lemma heldEntries_sorted (h : s.toTimeline.WellNumbered) :
    (s.toTimeline.alignment authority mode stem).held.Pairwise (·.entry.sequence < ·.entry.sequence) := by
  rw [Timeline.alignment, Timeline.heldEntries, List.pairwise_map]
  exact h.sorted

lemma reconcileHistory_settled (h : s.toTimeline.WellNumbered)
    (hsettled : (s.toTimeline.alignment authority (s.resolveMode mode scope) stem).Settled)
    (hwithin : ¬ Timeline.overBound (Timeline.decodedBytes s.history) s.history)
    (hcovered : s.Covered (s.resolveMode mode scope).complete) (store : MetadataStore) (env : Env) (generation : Option ℕ) :
    s.Untouched store (s.reconcileHistory store env generation authority mode stem scope) := by
  rw [reconcileHistory]
  split
  · exact .refl s store
  · have hlength : (s.toTimeline.alignment authority (s.resolveMode mode scope) stem).held.length = s.history.length := by
      simp [Timeline.alignment, Timeline.heldEntries]
    have hplan := hsettled.planReconcile
    rw [hlength, Timeline.alignment] at hplan
    obtain ⟨hsame, hunseen⟩ := h.unchanged env.ids authority
    dsimp only
    rw [hplan]
    dsimp only
    rw [hunseen]
    exact rewriteTo_same store env hsame hwithin hcovered _

/-- What a first read must meet: its plan has fresh ids and numbers to spare, and stays within the host bound. -/
structure Fits (s : LiveSession) (ids : ℕ → String) (authority : List NormalizedTimelineEntry)
    (plan : List Planned) : Prop where
  fresh : FreshFor s.history ids 0 plan.length
  room : s.nextSequence + 2 * plan.length < u64Max
  within : ¬ Timeline.overBound (Timeline.decodedBytes (s.toTimeline.applyReconcilePlan ids plan authority).1.history)
    (s.toTimeline.applyReconcilePlan ids plan authority).1.history

end LiveSession

namespace Sample

def shown (text : String) : LiveSession :=
  session ((Timeline.empty.addRow "p" (row "e-1" 1 "user_message" "go")).addRow "live:1"
    (row "e-2" 2 "assistant_message" text))

lemma shown_wellNumbered (text : String) : (shown text).toTimeline.WellNumbered := by
  have hprompt : (Timeline.empty.addRow "p" (row "e-1" 1 "user_message" "go")).WellNumbered :=
    Timeline.wellNumbered_empty.addRow (by decide) rfl (by decide)
  refine hprompt.addRow ?_ rfl (by decide)
  change "e-2" ∉ _
  decide

def turnRecord : List NormalizedTimelineEntry := [entry "p" "go", Alignment.Sample.reply "r" "done"]

def readTurn (s : LiveSession) (mark : Option LiveSession.TurnMark) : Effect × Except String Unit :=
  s.reconcileHistory ⟨id, [], []⟩ (env 1 ["x-0", "x-1", "x-2", "x-3"]) none turnRecord (.turn false none) (some "live:")
    ⟨true, mark⟩

end Sample

namespace LiveSession

end LiveSession

end CiaoHost.Session
