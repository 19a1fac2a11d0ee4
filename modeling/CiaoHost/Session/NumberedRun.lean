import CiaoHost.Session.Writes
import CiaoHost.Session.SnapshotNumbering
import CiaoHost.Session.ReconcileNumbering
import CiaoHost.Session.PlanGaps

/-! The representation invariant of every timeline over whole runs. -/

namespace CiaoHost.Session

open Protocol Lib Lib.Saturating Lib.KeyedList

variable {entries : List NormalizedTimelineEntry} {plan : List Planned} {epoch : ℕ}

namespace Timeline

variable {t : Timeline} {ids : ℕ → String}

lemma enforceHistoryBound_sublist (t : Timeline) : t.enforceHistoryBound.1.history.Sublist t.history :=
  evict_induction (P := fun t' => t'.history.Sublist t.history)
    (fun _ _ _ h _ _ => (List.eraseIdx_sublist ..).trans h) _ _ (List.Sublist.refl _)

variable {id : String}

lemma enforceHistoryBound_ids (h : id ∈ t.enforceHistoryBound.1.ids) : id ∈ t.ids :=
  (t.enforceHistoryBound_sublist.map _).subset h

section

variable (h : t.WellNumbered) (hfresh : ∀ n < entries.length, ids n ∉ t.ids) (hinj : ∀ n < entries.length, ∀ m < n, ids m ≠ ids n) (hroom : t.nextSequence + entries.length ≤ u64Max)

include h hfresh hinj hroom

lemma WellNumbered.replaceRows_ids (hid : id ∈ (t.replaceRows ids entries).ids) :
    id ∈ t.ids ∨ ∃ n < entries.length, id = ids n := by
  have hn := h.normalizeAll hfresh hinj hroom
  obtain ⟨row, hrow, rfl⟩ := mem_ids_iff.mp hid
  obtain ⟨e, -, hrow⟩ := exists_related_left hn.rows (by simpa [Timeline.replaceRows] using hrow)
  obtain ⟨m, hm, hrowid, -⟩ := hrow.entryId
  rw [hrowid]
  rcases hn.origin _ m hm with hold | ⟨-, -, -, n, -, hlt, hfreshid⟩
  · obtain ⟨old, hold, holdid, -⟩ := h.mapped _ m hold
    exact .inl (mem_ids_iff.mpr ⟨old, hold, holdid⟩)
  · exact .inr ⟨n, by omega, hfreshid⟩

lemma WellNumbered.replaceRows_next :
    (t.replaceRows ids entries).nextSequence ≤ t.nextSequence + entries.length :=
  (h.normalizeAll hfresh hinj hroom).next.2

end

lemma prependCarried_ids {carried : List TimelineEntry} (h : id ∈ (t.prependCarried carried).ids) :
    id ∈ t.ids ∨ ∃ e ∈ carried, e.entryId = id := by
  have hids : (t.prependCarried carried).ids = carried.map TimelineEntry.entryId ++ t.ids := by
    simp [Timeline.ids, prependCarried, List.map_map, Function.comp_def, shiftRow]
  rw [hids, List.mem_append, List.mem_map] at h
  exact h.symm

lemma applyReconcilePlan_ids
    {authority : List NormalizedTimelineEntry} (hid : id ∈ (t.applyReconcilePlan ids plan authority).1.ids) :
    id ∈ t.ids ∨ ∃ n < plan.length, id = ids n := by
  have hmem : id ∈ (t.plannedRows ids plan authority).map (·.1.entryId) := by
    rw [Timeline.ids, applyReconcilePlan_history, List.map_map] at hid
    exact hid
  rw [plannedRows, numberedRows_map (fun _ _ => rfl)] at hmem
  obtain ⟨row, hrow, rfl⟩ := List.mem_map.mp hmem
  rcases rebuild_origin hrow with ⟨index, -, e, he, heid, -⟩ | ⟨n, -, hlt, hn, -⟩
  · exact .inl (mem_ids_iff.mpr ⟨e, List.mem_of_getElem? he, heid.symm⟩)
  · exact .inr ⟨n, by omega, hn⟩

end Timeline

open LiveSession

lemma LiveSession.snapshotTimeline_cases (s : LiveSession) (ids : ℕ → String) (carried : Option (List TimelineEntry))
    (entries : List NormalizedTimelineEntry) :
    s.snapshotTimeline ids carried entries = s.toTimeline.replaceRows ids entries ∨
      ∃ rows, carried = some rows ∧
        s.snapshotTimeline ids carried entries = (s.toTimeline.replaceRows ids entries).prependCarried rows := by
  unfold snapshotTimeline
  dsimp only
  split
  · cases carried with
    | none => exact .inl rfl
    | some rows => exact .inr ⟨rows, rfl, rfl⟩
  · exact .inl rfl

lemma LiveSession.Rewrote.numbered {env : Env} {s : LiveSession} {rewritten t : Timeline}
    (hr : Rewrote env s rewritten t epoch) (h : rewritten.WellNumbered) :
    t.WellNumbered ∧ ∀ rowId ∈ t.ids, rowId ∈ rewritten.ids := by
  rcases hr.timeline with rfl | rfl
  · exact ⟨h, fun _ hmem => hmem⟩
  · exact ⟨h.enforceHistoryBound, fun _ hmem => Timeline.enforceHistoryBound_ids hmem⟩

/-- Room for the numbers a write hands out, and no snapshot that names one row twice. -/
def World.Numberable (w : World) (i : Input) : Prop :=
  match i.op with
  | .replaceSnapshot id entries _ => ∀ s ∈ w.supervisor.sessions.lookup id, s.toTimeline.namesDistinctRows entries ∧
      s.nextSequence + entries.length + ((w.supervisor.carriedHistory.lookup id).getD []).length ≤ u64Max
  | .backfill id .. | .reconcileTurn id .. => ∀ s ∈ w.supervisor.sessions.lookup id,
      s.nextSequence + 2 * w.supervisor.draws i.op < u64Max
  | .upsertEntry id _ | .appendText id _ => ∀ s ∈ w.supervisor.sessions.lookup id, s.nextSequence < u64Max
  | _ => True

instance (w : World) (i : Input) : Decidable (w.Numberable i) := by
  apply @Op.casesOn (fun op => Decidable (w.Numberable ⟨op, i.env⟩)) i.op <;> intros <;>
    first
    | exact .isTrue trivial
    | exact inferInstanceAs (Decidable (∀ s ∈ w.supervisor.sessions.lookup _, _))

structure World.Numbered (w : World) : Prop where
  sessions : ∀ id s, w.supervisor.sessions.lookup id = some s →
    s.toTimeline.WellNumbered ∧ ∀ rowId ∈ s.toTimeline.ids, rowId ∈ w.issuedIds
  carried : ∀ id rows, w.supervisor.carriedHistory.lookup id = some rows →
    (rows.map TimelineEntry.entryId).Nodup ∧ (∀ e ∈ rows, e.entryId ∈ w.issuedIds) ∧
      ∀ s, w.supervisor.sessions.lookup id = some s → ∀ e ∈ rows, e.entryId ∉ s.toTimeline.ids

section

variable {w : World} {op : Op} {env : Env} {id : String} {s : LiveSession} (hl : w.Legal ⟨op, env⟩)
  (hn : w.Numberable ⟨op, env⟩) (h : w.Numbered) (hs : w.supervisor.sessions.lookup id = some s)

include hl h hs

lemma World.Legal.ids_unused {n : ℕ} (hlt : n < w.supervisor.draws op) : env.ids n ∉ s.toTimeline.ids := fun hmem =>
  (hl.drawn n hlt).2.1 ((h.sessions id s hs).2 _ hmem)

lemma World.Numbered.planned (mode : LiveSession → ReconcileMode) {stem : Option String}
    (hdraws : w.supervisor.draws op = w.supervisor.plannedRows id entries mode stem)
    (hplan : (Alignment.mk s.heldEntries entries (mode s) stem).planReconcile = some plan)
    (hroom : s.nextSequence + 2 * w.supervisor.draws op < u64Max) :
    (s.toTimeline.applyReconcilePlan env.ids plan entries).1.WellNumbered ∧
      ∀ rowId ∈ (s.toTimeline.applyReconcilePlan env.ids plan entries).1.ids,
        rowId ∈ s.toTimeline.ids ∨ ∃ n < w.supervisor.draws op, rowId = env.ids n := by
  have ht := (h.sessions id s hs).1
  rw [planned_length hs mode hplan] at hdraws
  rw [hdraws] at hroom
  have hfresh : FreshFor s.history env.ids 0 plan.length :=
    ⟨fun n _ hlt => hl.ids_unused h hs (by omega),
      fun n _ hlt => (hl.drawn n (show n < w.supervisor.draws op by omega)).2.2⟩
  refine ⟨ht.applyReconcilePlan (Alignment.planReconcile_sorted _ hplan).1 hfresh hroom, fun rowId hmem => ?_⟩
  rw [hdraws]
  exact Timeline.applyReconcilePlan_ids hmem

include hn

lemma World.Numbered.snapshotTimeline {complete : Option Bool} (hop : op = .replaceSnapshot id entries complete) :
    (s.snapshotTimeline env.ids (w.supervisor.carriedHistory.lookup id) entries).WellNumbered ∧
      ∀ rowId ∈ (s.snapshotTimeline env.ids (w.supervisor.carriedHistory.lookup id) entries).ids,
        rowId ∈ s.toTimeline.ids ∨ (∃ n < entries.length, rowId = env.ids n) ∨
        ∃ rows, w.supervisor.carriedHistory.lookup id = some rows ∧ ∃ e ∈ rows, e.entryId = rowId := by
  subst hop
  have ht := (h.sessions id s hs).1
  have hunused := fun n hlt => hl.ids_unused h hs (n := n) hlt
  have hdistinct := fun n hlt => (hl.drawn n hlt).2.2
  obtain ⟨hdist, hroom⟩ := hn s hs
  have hfirst : s.nextSequence + entries.length ≤ u64Max := by omega
  have hreplaced : (s.toTimeline.replaceRows env.ids entries).WellNumbered :=
    ht.replaceRows hdist hunused hdistinct hfirst
  have hreplacedIds := fun rowId (hmem : rowId ∈ (s.toTimeline.replaceRows env.ids entries).ids) =>
    ht.replaceRows_ids hunused hdistinct hfirst hmem
  rcases s.snapshotTimeline_cases env.ids (w.supervisor.carriedHistory.lookup id) entries with
    heq | ⟨rows, hrows, heq⟩
  · rw [heq]
    exact ⟨hreplaced, fun rowId hmem => (hreplacedIds rowId hmem).imp_right .inl⟩
  · rw [heq]
    rw [hrows, Option.getD_some] at hroom
    obtain ⟨hnodup, hissued, hdisjoint⟩ := h.carried id rows hrows
    have hapart : ∀ e ∈ rows, e.entryId ∉ (s.toTimeline.replaceRows env.ids entries).ids := fun e he hmem => by
      rcases hreplacedIds _ hmem with hmem | ⟨n, hlt, heq⟩
      · exact hdisjoint s hs e he hmem
      · exact (hl.drawn n hlt).2.1 (heq ▸ hissued e he)
    have hnext := ht.replaceRows_next hunused hdistinct hfirst
    refine ⟨hreplaced.prependCarried hnodup hapart (by omega), fun rowId hmem => ?_⟩
    rcases Timeline.prependCarried_ids hmem with hmem | hmem
    · exact (hreplacedIds rowId hmem).imp_right .inl
    · exact .inr (.inr ⟨rows, hrows, hmem⟩)

theorem Wrote.numbered {t : Timeline} (hw : Wrote (w.supervisor.carriedHistory.lookup id) env id s op t epoch) :
    t.WellNumbered ∧ ∀ rowId ∈ t.ids, rowId ∈ s.toTimeline.ids ∨
      (∃ n < w.supervisor.draws op, rowId = env.ids n) ∨
      ∃ rows entries complete, op = .replaceSnapshot id entries complete ∧
        w.supervisor.carriedHistory.lookup id = some rows ∧ ∃ e ∈ rows, e.entryId = rowId := by
  have ht := (h.sessions id s hs).1
  cases hw with
  | still => exact ⟨ht, fun rowId hmem => .inl hmem⟩
  | put _ source e put hop hput =>
    have hdraws : w.supervisor.draws op = 1 ∧ s.nextSequence < u64Max := by
      rcases hop with ⟨entry, rfl⟩ | ⟨delta, rfl⟩ <;> exact ⟨rfl, hn s hs⟩
    refine ⟨(hput.numbered ht hdraws.2).enforceHistoryBound, fun rowId hmem => ?_⟩
    exact (hput.ids (Timeline.enforceHistoryBound_ids hmem)).imp_right fun hid => .inl ⟨0, by omega, hid⟩
  | snapshot entries complete _ _ hr =>
    obtain ⟨hwhole, hids⟩ := h.snapshotTimeline hl hn hs rfl
    refine ⟨(hr.numbered hwhole).1, fun rowId hmem => ?_⟩
    rcases hids rowId ((hr.numbered hwhole).2 rowId hmem) with hheld | hdrawn | ⟨rows, hrows, hcarried⟩
    · exact .inl hheld
    · exact .inr (.inl hdrawn)
    · exact .inr (.inr ⟨rows, entries, complete, rfl, hrows, hcarried⟩)
  | backfill generation entries complete stem plan _ _ hplan hr =>
    obtain ⟨hwhole, hids⟩ := h.planned hl hs (fun _ => .backfill complete) rfl hplan (hn s hs)
    exact ⟨(hr.numbered hwhole).1, fun rowId hmem =>
      (hids rowId ((hr.numbered hwhole).2 rowId hmem)).imp_right .inl⟩
  | turnRead generation entries stem scope plan _ _ hplan hr =>
    obtain ⟨hwhole, hids⟩ := h.planned hl hs (fun s => s.resolveMode (.turn false none) scope) rfl hplan (hn s hs)
    exact ⟨(hr.numbered hwhole).1, fun rowId hmem =>
      (hids rowId ((hr.numbered hwhole).2 rowId hmem)).imp_right .inl⟩

lemma Moved.numbered {effect : Effect}
    (hm : Moved w.supervisor.metadata (w.supervisor.carriedHistory.lookup id) env id s op effect) :
    effect.session.toTimeline.WellNumbered ∧ ∀ rowId ∈ effect.session.toTimeline.ids, rowId ∈ s.toTimeline.ids ∨
      (∃ n < w.supervisor.draws op, rowId = env.ids n) ∨
      ∃ rows entries complete, op = .replaceSnapshot id entries complete ∧
        w.supervisor.carriedHistory.lookup id = some rows ∧ ∃ e ∈ rows, e.entryId = rowId := by
  refine Wrote.numbered hl hn h hs (hm.wrote (h.sessions id s hs).1 fun hop => hl.ids_unused h hs ?_)
  rcases hop with ⟨entry, rfl⟩ | ⟨delta, rfl⟩ <;> exact Nat.one_pos

end

variable {w : World}

lemma World.issued_mono {i : Input} {rowId : String} (h : rowId ∈ w.issuedIds) : rowId ∈ (w.step i).issuedIds :=
  List.mem_append_left _ (List.mem_append_left _ h)

lemma World.issued_drawn {i : Input} {n : ℕ} (h : n < w.supervisor.draws i.op) : i.env.ids n ∈ (w.step i).issuedIds :=
  List.mem_append_left _ (List.mem_append_right _ (List.mem_map_of_mem (List.mem_range.mpr h)))

lemma Registered.timeline {sv fenced sv' : Supervisor} {env : Env} {op : Op} {r : NormalizedRegistration}
    {sender live : Option ℕ} {mapping : IdentityMapping}
    (h : Registered sv env op fenced sv' r sender live mapping) :
    fenced.inheritedTimeline mapping = .empty ∨ ∃ s, sv.sessions.lookup mapping.sessionId = some s ∧
      s.snapshot.processGeneration = mapping.processGeneration ∧ s.snapshot.snapshotEpoch = mapping.snapshotEpoch ∧
      fenced.inheritedTimeline mapping = s.toTimeline := by
  obtain ⟨ended, hfence⟩ := h.fence
  have hrel := Supervisor.fenced_lookup hfence mapping.sessionId
  unfold Supervisor.inheritedTimeline
  split
  · next previous hp =>
    split
    · next hsame =>
      rw [hp] at hrel
      cases hs : sv.sessions.lookup mapping.sessionId with
      | none =>
        rw [show ({ sv with ended := ended } : Supervisor).sessions.lookup mapping.sessionId = none from hs] at hrel
        cases hrel
      | some s =>
        rw [show ({ sv with ended := ended } : Supervisor).sessions.lookup mapping.sessionId = some s from hs] at hrel
        cases hrel with
        | some hfenced =>
          obtain ⟨-, -, htimeline, hgeneration, hepoch⟩ := hfenced.kept
          exact .inr ⟨s, rfl, hgeneration ▸ hsame.1, hepoch ▸ hsame.2, htimeline⟩
    · exact .inl rfl
  · exact .inl rfl

section

variable {w : World} {op : Op} {env : Env} (hl : w.Legal ⟨op, env⟩) (hn : w.Numberable ⟨op, env⟩) (h : w.Numbered)

include hl hn h

lemma World.Numbered.session {id : String} {s : LiveSession}
    (hs : (w.supervisor.step env op).sessions.lookup id = some s) : s.toTimeline.WellNumbered ∧
      ∀ rowId ∈ s.toTimeline.ids, (∃ s₀, w.supervisor.sessions.lookup id = some s₀ ∧ rowId ∈ s₀.toTimeline.ids) ∨
        (∃ n < w.supervisor.draws op, rowId = env.ids n) ∨
        ∃ rows entries complete, op = .replaceSnapshot id entries complete ∧
          w.supervisor.carriedHistory.lookup id = some rows ∧ ∃ e ∈ rows, e.entryId = rowId := by
  cases w.supervisor.step_change env op id with
  | kept heq =>
    rw [heq] at hs
    exact ⟨(h.sessions id s hs).1, fun rowId hmem => .inl ⟨s, hs, hmem⟩⟩
  | moved s₀ effect hs₀ hm hs' =>
    rw [hs', Option.some.injEq] at hs
    subst hs
    obtain ⟨hnumbered, hids⟩ := hm.numbered hl hn h hs₀
    exact ⟨hnumbered, fun rowId hmem => (hids rowId hmem).imp_left fun hmem => ⟨s₀, hs₀, hmem⟩⟩
  | removed hnone =>
    rw [hnone] at hs
    cases hs
  | installed fenced r sender live mapping hr hid =>
    have hsession := hr.session
    rw [hid, hs, Option.some.injEq] at hsession
    subst hid
    have htimeline : s.toTimeline = fenced.inheritedTimeline mapping := by rw [hsession]; rfl
    rw [htimeline]
    rcases hr.timeline with heq | ⟨s₀, hs₀, -, -, heq⟩
    · rw [heq]
      exact ⟨Timeline.wellNumbered_empty, by simp [Timeline.ids, Timeline.empty]⟩
    · rw [heq]
      exact ⟨(h.sessions _ s₀ hs₀).1, fun rowId hmem => .inl ⟨s₀, hs₀, hmem⟩⟩

theorem World.Numbered.step : (w.step ⟨op, env⟩).Numbered := by
  refine ⟨fun id s hs => ?_, fun id rows hrows => ?_⟩
  · obtain ⟨hnumbered, hids⟩ := h.session hl hn hs
    refine ⟨hnumbered, fun rowId hmem => ?_⟩
    rcases hids rowId hmem with ⟨s₀, hs₀, hmem⟩ | ⟨n, hlt, rfl⟩ | ⟨rows, _, _, _, hrows, e, he, rfl⟩
    · exact issued_mono ((h.sessions id s₀ hs₀).2 _ hmem)
    · exact issued_drawn hlt
    · exact issued_mono ((h.carried id rows hrows).2.1 e he)
  · rcases w.supervisor.step_carried env op id rows hrows with hwaiting | ⟨source, s, rfl, hs, rfl⟩
    · obtain ⟨hnodup, hissued, hdisjoint⟩ := h.carried id rows hwaiting
      refine ⟨hnodup, fun e he => issued_mono (hissued e he), fun s hs e he hmem => ?_⟩
      rcases (h.session hl hn hs).2 _ hmem with ⟨s₀, hs₀, hmem⟩ | ⟨n, hlt, heq⟩ | ⟨_, entries, complete, rfl, -⟩
      · exact hdisjoint s₀ hs₀ e he hmem
      · exact (hl.drawn n hlt).2.1 (heq ▸ hissued e he)
      · -- the transcript would have gone with the snapshot
        rcases w.supervisor.step_snapshot_carried env id entries complete with heq | hnone
        · rw [World.step, heq] at hs
          exact hdisjoint s hs e he hmem
        · exact absurd (hrows.symm.trans hnone) (by simp)
    · refine ⟨(h.sessions source s hs).1.ids, fun e he => ?_, fun s' hs' => ?_⟩
      · exact issued_mono ((h.sessions source s hs).2 _ (Timeline.mem_ids_iff.mpr ⟨e, he, rfl⟩))
      · have hnone : w.supervisor.sessions.lookup id = none := hl.carried
        have hsame : (w.supervisor.step env (.carryHistory source id)).sessions = w.supervisor.sessions := by
          simp only [Supervisor.step, Supervisor.carryHistoryInto]
          split <;> rfl
        rw [World.step, hsame, hnone] at hs'
        cases hs'

end

lemma World.numbered_of_reaches {digest : String → String} {allowed : World → Input → Prop}
    (hallowed : ∀ w i, allowed w i → w.Legal i ∧ w.Numberable i)
    (h : Runs.Reaches World.step allowed (World.start digest) w) : w.Numbered := by
  refine h.invariant (P := World.Numbered) ⟨by simp [start, Supervisor.empty], by simp [start, Supervisor.empty]⟩ ?_
  intro w i hw hi
  exact hw.step (hallowed w i hi).1 (hallowed w i hi).2

theorem timelines_well_numbered {digest : String → String} {w : World}
    (h : Runs.Reaches World.step (fun w i => w.Legal i ∧ w.Numberable i) (World.start digest) w) {id : String}
    {s : LiveSession} (hs : w.supervisor.sessions.lookup id = some s) : s.toTimeline.WellNumbered :=
  ((World.numbered_of_reaches (fun _ _ hi => hi) h).sessions id s hs).1

namespace Sample

def snapshotOf (a b : NormalizedTimelineEntry) : List Input :=
  [register, ⟨.replaceSnapshot "s-1" [a, b] none, env 1 ["e-1", "e-2"]⟩]

end Sample

theorem timelines_well_numbered_two_rows :
    ∃ s, (Sample.after (Sample.snapshotOf (Sample.entry "a" "x") (Sample.entry "b" "y"))).supervisor.sessions.lookup
        "s-1" = some s ∧ s.history.map (·.sequence) = [1, 2] ∧ s.toTimeline.WellNumbered := by
  have hrun : Runs.Allowed World.step (fun w i => w.Legal i ∧ w.Numberable i) (World.start id)
      (Sample.snapshotOf (Sample.entry "a" "x") (Sample.entry "b" "y")) := by decide +kernel
  have hrows : ((Sample.after (Sample.snapshotOf (Sample.entry "a" "x") (Sample.entry "b" "y"))).supervisor.sessions.lookup
      "s-1").any (·.history.map (·.sequence) = [1, 2]) := by decide +kernel
  obtain ⟨s, hs, hseq⟩ := (Option.any_eq_true _ _).mp hrows
  exact ⟨s, hs, of_decide_eq_true hseq, timelines_well_numbered (Runs.Reaches.refl.of_run hrun) hs⟩

theorem repeated_source_repeats_row : Runs.Allowed World.step World.Legal (World.start id)
      (Sample.snapshotOf (Sample.entry "a" "x") (Sample.entry "a" "y")) ∧
    ∃ s, (Sample.after (Sample.snapshotOf (Sample.entry "a" "x") (Sample.entry "a" "y"))).supervisor.sessions.lookup
      "s-1" = some s ∧ ¬ s.toTimeline.WellNumbered := by
  have hrows : ((Sample.after (Sample.snapshotOf (Sample.entry "a" "x") (Sample.entry "a" "y"))).supervisor.sessions.lookup
      "s-1").any fun s => ¬ (s.history.map TimelineEntry.entryId).Nodup := by decide +kernel
  obtain ⟨s, hs, hrepeated⟩ := (Option.any_eq_true _ _).mp hrows
  exact ⟨by decide +kernel, s, hs, fun h => of_decide_eq_true hrepeated h.ids⟩

end CiaoHost.Session
