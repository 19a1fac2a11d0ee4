import CiaoHost.Session.Frames
import CiaoHost.Session.Numbering

/-! What a move leaves of a session's rows, and under which epoch. -/

namespace CiaoHost.Session

open Protocol Lib

namespace LiveSession

variable {s : LiveSession}

structure Rewrote (env : Env) (s : LiveSession) (rewritten t : Timeline) (epoch : ℕ) : Prop where
  timeline : t = rewritten ∨ t = rewritten.enforceHistoryBound.1
  epoch : epoch = if Timeline.rewritten s.heldSequences rewritten.heldSequences
    then fenceEpoch s.snapshot.snapshotEpoch env.epoch else s.snapshot.snapshotEpoch

section

variable (s : LiveSession)

lemma publishEntry_rows (now : ℕ) (canonical : TimelineEntry) :
    (s.publishEntry now canonical).1.toTimeline = s.toTimeline.enforceHistoryBound.1 ∧
      (s.publishEntry now canonical).1.snapshot.snapshotEpoch = s.snapshot.snapshotEpoch := by
  apply publishEntry_keeps (P := fun s' => s'.toTimeline = s.toTimeline.enforceHistoryBound.1 ∧
    s'.snapshot.snapshotEpoch = s.snapshot.snapshotEpoch)
  · exact ⟨rfl, rfl⟩
  · exact fun _ _ h => h
  · exact fun _ h => h
  · exact fun _ h => h

lemma coverAfter_rows (complete : Option Bool) (cutByBound : Bool) :
    (s.coverAfter complete cutByBound).1.toTimeline = s.toTimeline ∧
      (s.coverAfter complete cutByBound).1.snapshot.snapshotEpoch = s.snapshot.snapshotEpoch := by
  unfold coverAfter
  split
  · exact ⟨rfl, rfl⟩
  · split <;> exact ⟨rfl, rfl⟩

lemma fenceRewrittenHistory_rows (store : MetadataStore) (before : KeyedMap String ℕ)
    (env : Env) :
    (s.fenceRewrittenHistory store before env).1.session.toTimeline = s.toTimeline ∧
      (s.fenceRewrittenHistory store before env).1.session.snapshot.snapshotEpoch =
        if Timeline.rewritten before s.heldSequences then fenceEpoch s.snapshot.snapshotEpoch env.epoch
        else s.snapshot.snapshotEpoch := by
  unfold fenceRewrittenHistory
  split
  · dsimp only
    split <;> exact ⟨rfl, rfl⟩
  · exact ⟨rfl, rfl⟩

lemma rewriteTo_rows (store : MetadataStore) (env : Env) (rewritten : Timeline)
    (complete : Option Bool) (visible : Bool) (reason : String) :
    Rewrote env s rewritten (s.rewriteTo store env rewritten complete visible reason).1.session.toTimeline
      (s.rewriteTo store env rewritten complete visible reason).1.session.snapshot.snapshotEpoch := by
  obtain ⟨htimeline, hepoch⟩ :=
    fenceRewrittenHistory_rows { s with toTimeline := rewritten } store s.heldSequences env
  unfold rewriteTo
  split
  · next heq =>
    rw [heq] at htimeline hepoch
    exact ⟨.inl htimeline, hepoch⟩
  · next fenced moved heq =>
    rw [heq] at htimeline hepoch
    dsimp only at htimeline hepoch ⊢
    obtain ⟨hcover, hcovered⟩ := coverAfter_rows
      { fenced.session with toTimeline := fenced.session.toTimeline.enforceHistoryBound.1 } complete
      fenced.session.toTimeline.enforceHistoryBound.2
    have hkept : fenced.session.toTimeline.enforceHistoryBound.1 = rewritten.enforceHistoryBound.1 := by
      rw [htimeline]
    split
    · exact ⟨.inr (hcover.trans hkept), hcovered.trans hepoch⟩
    · exact ⟨.inr (hcover.trans hkept), hcovered.trans hepoch⟩

end

/-- A write that comes too late is ignored; another puts its row and shows it. -/
inductive Appended (now : ℕ) (freshId source : String) (late : Prop) (row : TimelineEntry → Prop) (s : LiveSession) :
    LiveSession × List AgentServerFrame → Prop
  | ignored (h : late) : Appended now freshId source late row s (s, [])
  | put (t : Timeline) (e : TimelineEntry) (hrow : row e) (hput : s.toTimeline.Put freshId source e t) :
    Appended now freshId source late row s ({ s with toTimeline := t }.publishEntry now e)

variable {now : ℕ} {freshId : String}

section

variable (h : s.toTimeline.WellNumbered) (hfresh : freshId ∉ s.toTimeline.ids)

include h hfresh

lemma upsertEntry_appended (e : NormalizedTimelineEntry) :
    Appended now freshId e.sourceId
      (∃ m row, s.sourceEntries.lookup e.sourceId = some m ∧ s.row m.entryId = some row ∧
        e.sourceRevision ≤ row.entryRevision)
      (fun row => ∃ m, row = Timeline.normalizedRow e m) s (s.upsertEntry now freshId e) := by
  unfold upsertEntry
  cases hm : s.sourceEntries.lookup e.sourceId with
  | some m =>
    obtain ⟨old, hrow, hs⟩ := h.row_of_mapped hm
    rw [Timeline.normalizeEntry_known _ hm]
    dsimp only [Timeline.normalizedRow]
    rw [hrow]
    dsimp only
    split
    · next hlate => exact .ignored ⟨m, old, rfl, hrow, hlate⟩
    · exact .put _ (Timeline.normalizedRow e m) ⟨m, rfl⟩ (.replaced m hm rfl rfl)
  | none =>
    have hunheld : s.toTimeline.row freshId = none := Timeline.row_eq_none_iff.mpr hfresh
    rw [Timeline.normalizeEntry_new _ hm]
    dsimp only [Timeline.normalizedRow, Timeline.row] at hunheld ⊢
    rw [hunheld]
    exact .put _ (Timeline.normalizedRow e ⟨freshId, s.nextSequence, false⟩) ⟨_, rfl⟩ (.opened hm rfl hfresh rfl)

lemma appendText_appended (d : NormalizedTextDelta) :
    Appended now freshId d.sourceId True (·.entryRevision = d.sourceRevision) s (s.appendText now freshId d).1 := by
  unfold appendText
  split
  · exact .ignored trivial
  · split
    · next m hm =>
      split
      · exact .ignored trivial
      · next old hrow =>
        obtain ⟨e, hrow', hs⟩ := h.row_of_mapped hm
        obtain rfl : old = e := Option.some.inj (hrow.symm.trans hrow')
        split
        · exact .ignored trivial
        · split
          · next shown _ => exact .put _ (growText old shown d) rfl (.replaced m hm (Timeline.row_some hrow).2 hs)
          · exact .ignored trivial
    · next hm =>
      have hunheld : s.toTimeline.row freshId = none := Timeline.row_eq_none_iff.mpr hfresh
      rw [Timeline.normalizeEntry_new _ (show s.sourceEntries.lookup (openText d).sourceId = none from hm)]
      dsimp only
      rw [if_neg]
      · exact .put _ (Timeline.normalizedRow (openText d) ⟨freshId, s.nextSequence, false⟩) rfl (.opened hm rfl hfresh rfl)
      · intro hsome
        have hheld : (s.toTimeline.row freshId).isSome := hsome
        simp [hunheld] at hheld

end

end LiveSession

open LiveSession

inductive Wrote (carried : Option (List TimelineEntry)) (env : Env) (id : String) (s : LiveSession) :
    Op → Timeline → ℕ → Prop
  | still (op : Op) : Wrote carried env id s op s.toTimeline s.snapshot.snapshotEpoch
  | put (op : Op) (source : String) (e : TimelineEntry) (t : Timeline)
      (hop : (∃ entry, op = .upsertEntry id entry) ∨ ∃ delta, op = .appendText id delta)
      (hput : s.toTimeline.Put (env.ids 0) source e t) :
    Wrote carried env id s op t.enforceHistoryBound.1 s.snapshot.snapshotEpoch
  | snapshot (entries : List NormalizedTimelineEntry) (complete : Option Bool) (t : Timeline) (epoch : ℕ)
      (h : Rewrote env s (s.snapshotTimeline env.ids carried entries) t epoch) :
    Wrote carried env id s (.replaceSnapshot id entries complete) t epoch
  | backfill (generation : Option ℕ) (entries : List NormalizedTimelineEntry) (complete : Bool)
      (stem : Option String) (plan : List Planned) (t : Timeline) (epoch : ℕ)
      (hplan : (Alignment.mk s.heldEntries entries (.backfill complete) stem).planReconcile = some plan)
      (h : Rewrote env s (s.toTimeline.applyReconcilePlan env.ids plan entries).1 t epoch) :
    Wrote carried env id s (.backfill id generation entries complete stem) t epoch
  | turnRead (generation : Option ℕ) (entries : List NormalizedTimelineEntry) (stem : Option String)
      (scope : TurnScope) (plan : List Planned) (t : Timeline) (epoch : ℕ)
      (hplan : (Alignment.mk s.heldEntries entries (s.resolveMode (.turn false none) scope) stem).planReconcile =
        some plan)
      (h : Rewrote env s (s.toTimeline.applyReconcilePlan env.ids plan entries).1 t epoch) :
    Wrote carried env id s (.reconcileTurn id generation entries stem scope) t epoch

variable {store : MetadataStore} {carried : Option (List TimelineEntry)} {env : Env} {id : String}
  {s : LiveSession} {op : Op} {effect : Effect}

lemma LiveSession.Appended.wrote {source : String} {late : Prop} {row : TimelineEntry → Prop}
    {result : LiveSession × List AgentServerFrame}
    (hop : (∃ entry, op = .upsertEntry id entry) ∨ ∃ delta, op = .appendText id delta)
    (h : Appended env.now (env.ids 0) source late row s result) :
    Wrote carried env id s op result.1.toTimeline result.1.snapshot.snapshotEpoch := by
  cases h with
  | ignored _ => exact .still op
  | put t e _ hput =>
    obtain ⟨htimeline, hepoch⟩ := publishEntry_rows { s with toTimeline := t } env.now e
    rw [htimeline, hepoch]
    exact .put op source e t hop hput

theorem Moved.wrote (hm : Moved store carried env id s op effect) (h : s.toTimeline.WellNumbered)
    (hfresh : (∃ entry, op = .upsertEntry id entry) ∨ (∃ delta, op = .appendText id delta) →
      env.ids 0 ∉ s.toTimeline.ids) :
    Wrote carried env id s op effect.session.toTimeline effect.session.snapshot.snapshotEpoch := by
  by_cases hop : op.rewrites = false
  · have hstill := hm.still hop
    rw [hstill.timeline, hstill.epoch]
    exact .still op
  · cases hm with
    | entry e => exact (upsertEntry_appended h (hfresh (.inl ⟨e, rfl⟩)) e).wrote (.inl ⟨e, rfl⟩)
    | text d => exact (appendText_appended h (hfresh (.inr ⟨d, rfl⟩)) d).wrote (.inr ⟨d, rfl⟩)
    | snapshot entries complete => exact .snapshot entries complete _ _ (rewriteTo_rows ..)
    | backfill generation entries complete stem =>
      refine reconcileHistory_keeps (P := fun effect => Wrote carried env id s _ effect.session.toTimeline
        effect.session.snapshot.snapshotEpoch) (.still _) fun plan _ _ _ hplan => ?_
      exact .backfill generation entries complete stem plan _ _ hplan (rewriteTo_rows ..)
    | turnRead generation entries stem scope =>
      refine reconcileHistory_keeps (P := fun effect => Wrote carried env id s _ effect.session.toTimeline
        effect.session.snapshot.snapshotEpoch) (.still _) fun plan _ _ _ hplan => ?_
      exact .turnRead generation entries stem scope plan _ _ hplan (rewriteTo_rows ..)
    | fenced op r sender e hopr | unassigned op r sender e effect hopr =>
      cases op <;> simp [Op.registration] at hopr <;> exact absurd rfl hop
    | _ => exact absurd rfl hop

end CiaoHost.Session
