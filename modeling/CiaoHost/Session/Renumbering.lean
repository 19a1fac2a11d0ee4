import CiaoHost.Session.ReconcileNumbering
import CiaoHost.Session.Writes

/-! What the numbering of a carried-out plan does to the rows a client may hold: it keeps their numbers,
or it moves one of them and the epoch moves too. -/

namespace CiaoHost.Session

open Protocol Lib Lib.Saturating Lib.KeyedList

variable {next : ℕ}

variable {previous : ℕ} {run rows : List SourcedRow}

lemma numberRestoredRows_keeps {row : SourcedRow}
    (hrow : row ∈ rows) (hnumber : row.1.sequence ≠ 0) :
    row ∈ (numberRestoredRows next previous run rows).1 := by
  induction rows generalizing previous run with
  | nil => cases hrow
  | cons first rest ih =>
    rw [numberRestoredRows]
    split
    · next hzero =>
      rcases List.mem_cons.mp hrow with rfl | hrow
      · exact absurd hzero hnumber
      · exact ih hrow
    · split
      · apply List.mem_append_right
        rcases List.mem_cons.mp hrow with rfl | hrow
        · exact List.mem_cons_self
        · exact List.mem_cons_of_mem _ (ih hrow)
      · exact List.mem_append_right _ hrow

lemma numberRestoredRows_no_room (hfail : (numberRestoredRows next previous run rows).2 = false) :
    ∃ before crowded row rest, (numberRestoredRows next previous run rows).1 = before ++ (crowded ++ row :: rest) ∧
      row ∈ rows ∧ row.1.sequence ≠ 0 ∧
      (before = [] ∧ row.1.sequence - previous ≤ crowded.length ∨
        ∃ init last, before = init ++ [last] ∧ last ∈ rows ∧ last.1.sequence ≠ 0 ∧
          row.1.sequence - last.1.sequence ≤ crowded.length) := by
  induction rows generalizing previous run with
  | nil => cases hfail
  | cons first rest ih =>
    by_cases hzero : first.1.sequence = 0
    · simp only [numberRestoredRows, if_pos hzero] at hfail ⊢
      obtain ⟨before, crowded, row, later, heq, hrow, hnumber, hplace⟩ := ih hfail
      refine ⟨before, crowded, row, later, heq, List.mem_cons_of_mem _ hrow, hnumber, ?_⟩
      rcases hplace with hplace | ⟨init, last, hbefore, hlast, hplace⟩
      · exact .inl hplace
      · exact .inr ⟨init, last, hbefore, List.mem_cons_of_mem _ hlast, hplace⟩
    · by_cases hroom : run.length < first.1.sequence - previous
      · simp only [numberRestoredRows, if_neg hzero, if_pos hroom] at hfail ⊢
        obtain ⟨before, crowded, row, later, heq, hrow, hnumber, hplace⟩ := ih hfail
        refine ⟨numberRows (previous + 1) run ++ first :: before, crowded, row, later, ?_,
          List.mem_cons_of_mem _ hrow, hnumber, .inr ?_⟩
        · rw [heq, List.append_assoc, List.cons_append]
        · rcases hplace with ⟨rfl, hplace⟩ | ⟨init, last, rfl, hlast, hplace⟩
          · exact ⟨_, first, rfl, List.mem_cons_self, hzero, hplace⟩
          · refine ⟨numberRows (previous + 1) run ++ first :: init, last, ?_, List.mem_cons_of_mem _ hlast, hplace⟩
            rw [List.append_assoc, List.cons_append]
      · simp only [numberRestoredRows, if_neg hzero, if_neg hroom]
        exact ⟨[], run, first, rest, rfl, List.mem_cons_self, hzero, .inl ⟨rfl, by omega⟩⟩

lemma numberRestoredRows_moves (hfail : (numberRestoredRows next 0 [] rows).2 = false)
    {start : ℕ} (hstart : 1 ≤ start) :
    ∃ position row, (numberRestoredRows next 0 [] rows).1[position]? = some row ∧ row ∈ rows ∧
      row.1.sequence ≠ 0 ∧ start + position ≠ row.1.sequence := by
  obtain ⟨before, crowded, row, rest, heq, hrow, hnumber, hplace⟩ := numberRestoredRows_no_room hfail
  have hat : (before ++ (crowded ++ row :: rest))[before.length + crowded.length]? = some row := by
    rw [← List.append_assoc, ← List.length_append, List.getElem?_append_right le_rfl]
    simp
  rw [heq]
  rcases hplace with ⟨rfl, hplace⟩ | ⟨init, last, rfl, hlast, hlastNumber, hplace⟩
  · refine ⟨_, row, hat, hrow, hnumber, ?_⟩
    rw [List.length_nil]
    omega
  · by_cases hmoved : start + ((init ++ [last]).length + crowded.length) = row.1.sequence
    · refine ⟨init.length, last, by simp, hlast, hlastNumber, ?_⟩
      rw [List.length_append, List.length_singleton] at hmoved
      omega
    · exact ⟨_, row, hat, hrow, hnumber, hmoved⟩

lemma mem_numberRows {first position : ℕ} {row : SourcedRow}
    (h : rows[position]? = some row) :
    ({ row.1 with sequence := first + position }, row.2) ∈ numberRows first rows := by
  rw [numberRows]
  exact List.mem_map.mpr ⟨(row, position), List.mk_mem_zipIdx_iff_getElem?.mpr h, rfl⟩

namespace Timeline

variable {t : Timeline}

lemma lookup_heldSequences (hids : (t.history.map TimelineEntry.entryId).Nodup) {e : TimelineEntry}
    (he : e ∈ t.history) : t.heldSequences.lookup e.entryId = some e.sequence := by
  apply KeyedMap.lookup_foldl_insert he
  intro e' he' hid
  rw [List.inj_on_of_nodup_map hids he' he hid]

lemma rewritten_of_moved {before after : Timeline} (hbefore : (before.history.map TimelineEntry.entryId).Nodup)
    (hafter : (after.history.map TimelineEntry.entryId).Nodup) {e e' : TimelineEntry} (he : e ∈ before.history)
    (he' : e' ∈ after.history) (hid : e'.entryId = e.entryId) (hmoved : e'.sequence ≠ e.sequence) :
    rewritten before.heldSequences after.heldSequences = true := by
  have hheld := KeyedMap.mem_entries.mpr (lookup_heldSequences hbefore he)
  have hnow := lookup_heldSequences hafter he'
  rw [rewritten, Bool.or_eq_true]
  left
  rw [List.any_eq_true]
  refine ⟨_, hheld, ?_⟩
  dsimp only
  rw [← hid, hnow]
  simpa using hmoved

end Timeline

lemma LiveSession.fenceEpoch_ne (previous drawn : ℕ) : LiveSession.fenceEpoch previous drawn ≠ previous := by
  rw [LiveSession.fenceEpoch]
  split
  · next hne => exact hne
  · have hlt := Nat.mod_lt (previous + 1) (show 0 < u64Max + 1 by omega)
    by_cases hsmall : previous < u64Max
    · rw [Nat.mod_eq_of_lt (by omega)]
      omega
    · have hbig : 1 < u64Max := by decide
      rcases Nat.lt_or_ge u64Max previous with hover | hle
      · omega
      · have hmax : previous = u64Max := by omega
        rw [hmax, Nat.mod_self]
        omega

namespace Sample

def adjacent : LiveSession :=
  session ⟨∅, [row "e-1" 1 "user_message" "a", row "e-2" 2 "assistant_message" "b"], 3⟩

end Sample

namespace LiveSession

variable {s : LiveSession} {ids : ℕ → String} {plan : List Planned} {authority : List NormalizedTimelineEntry}

def unnumberedRows (s : LiveSession) (ids : ℕ → String) (plan : List Planned)
    (authority : List NormalizedTimelineEntry) : List SourcedRow :=
  (rebuild s.history authority ids s.toTimeline.sourceOf 0 plan).rows

variable (ids plan authority) in
lemma unnumberedRows_lt (hbelow : ∀ e ∈ s.history, e.sequence < s.nextSequence) (hnext : 0 < s.nextSequence) :
    ∀ row ∈ s.unnumberedRows ids plan authority, row.1.sequence < s.nextSequence := by
  intro row hr
  rcases rebuild_origin hr with ⟨index, -, e, he, -, hs⟩ | ⟨n, -, -, -, hs⟩
  · exact hs ▸ hbelow e (List.mem_of_getElem? he)
  · exact hs ▸ hnext

lemma moved_of_no_room (hids : (s.history.map TimelineEntry.entryId).Nodup)
    (hbelow : ∀ e ∈ s.history, e.sequence < s.nextSequence) (hnext : 0 < s.nextSequence)
    (hplan : (heldIndices plan).Pairwise (· < ·)) (hfresh : FreshFor s.history ids 0 plan.length)
    (hroom : s.nextSequence + plan.length < u64Max)
    (hfail : (numberRestoredRows s.nextSequence 0 [] (s.unnumberedRows ids plan authority)).2 = false) :
    let after := (s.toTimeline.applyReconcilePlan ids plan authority).1
    (∃ e ∈ s.history, ∃ e' ∈ after.history, e'.entryId = e.entryId ∧ e'.sequence ≠ e.sequence) ∧
      Timeline.rewritten s.heldSequences after.heldSequences = true := by
  intro after
  have hhistory : after.history = (s.toTimeline.plannedRows ids plan authority).map Prod.fst :=
    Timeline.applyReconcilePlan_history
  have hshort : (s.unnumberedRows ids plan authority).length ≤ plan.length := Timeline.rebuild_length ..
  obtain ⟨start, hlow, -, heq⟩ := numberedRows_of_no_room hnext (unnumberedRows_lt ids plan authority hbelow hnext)
    (by omega) hfail
  change s.toTimeline.plannedRows ids plan authority = _ at heq
  obtain ⟨position, row, hat, hrow, hnumber, hmoved⟩ := numberRestoredRows_moves hfail hlow
  -- A row that had a number before the numbering is one the session held.
  obtain ⟨e, he, hid, hsequence⟩ : ∃ e ∈ s.history, row.1.entryId = e.entryId ∧ row.1.sequence = e.sequence := by
    rcases rebuild_origin hrow with ⟨index, -, e, he, hid, hs⟩ | ⟨n, -, -, -, hs⟩
    · exact ⟨e, List.mem_of_getElem? he, hid, hs⟩
    · exact absurd hs hnumber
  have hmem : { row.1 with sequence := start + position } ∈ after.history := by
    rw [hhistory, heq]
    exact List.mem_map_of_mem (mem_numberRows hat)
  have hdiffers : start + position ≠ e.sequence := hsequence ▸ hmoved
  have hafterIds : (after.history.map TimelineEntry.entryId).Nodup := by
    rw [hhistory, List.map_map]
    exact Timeline.plannedRows_nodup hids hplan hfresh
  exact ⟨⟨e, he, _, hmem, hid, hdiffers⟩, Timeline.rewritten_of_moved hids hafterIds he hmem hid hdiffers⟩

theorem renumbering_exact_and_fenced (store : MetadataStore) (env : Env)
    (hids : (s.history.map TimelineEntry.entryId).Nodup)
    (hpositive : ∀ e ∈ s.history, 0 < e.sequence) (hbelow : ∀ e ∈ s.history, e.sequence < s.nextSequence)
    (hnext : 0 < s.nextSequence) (hplan : (heldIndices plan).Pairwise (· < ·))
    (hfresh : FreshFor s.history ids 0 plan.length) (hroom : s.nextSequence + plan.length < u64Max) :
    let after := (s.toTimeline.applyReconcilePlan ids plan authority).1
    let fits := (numberRestoredRows s.nextSequence 0 [] (s.unnumberedRows ids plan authority)).2
    (after.history.Pairwise (·.sequence < ·.sequence) ∧
      ∀ e ∈ after.history, e.sequence ≠ 0 ∧ e.sequence < after.nextSequence) ∧
    (fits = true → s.nextSequence ≤ after.nextSequence ∧
      ∀ index ∈ heldIndices plan, ∀ e, s.history[index]? = some e →
        ∃ e' ∈ after.history, e'.entryId = e.entryId ∧ e'.sequence = e.sequence) ∧
    (fits = false →
      (∃ e ∈ s.history, ∃ e' ∈ after.history, e'.entryId = e.entryId ∧ e'.sequence ≠ e.sequence) ∧
      ({ s with toTimeline := after }.fenceRewrittenHistory store s.heldSequences
        env).1.session.snapshot.snapshotEpoch ≠ s.snapshot.snapshotEpoch) := by
  intro after fits
  have hhistory : after.history = (s.toTimeline.plannedRows ids plan authority).map Prod.fst :=
    Timeline.applyReconcilePlan_history
  have hshort : (s.unnumberedRows ids plan authority).length ≤ plan.length := Timeline.rebuild_length ..
  obtain ⟨hsorted, hnumbers⟩ := numberedRows_spec hnext (unnumberedRows_lt ids plan authority hbelow hnext) (by omega)
  change (s.toTimeline.plannedRows ids plan authority).Pairwise _ at hsorted
  refine ⟨⟨?_, fun e he => ?_⟩, fun hfits => ⟨?_, fun index hindex e he => ?_⟩, fun hfail => ?_⟩
  · rw [hhistory, List.pairwise_map]
    exact hsorted
  · rw [hhistory] at he
    obtain ⟨row, hr, rfl⟩ := List.mem_map.mp he
    exact ⟨(hnumbers row hr).1.ne', Timeline.below_next hsorted hnumbers hr⟩
  · have hnextAfter : after.nextSequence = _ := Timeline.applyReconcilePlan_next
    rw [hnextAfter]
    exact (le_max_left _ _).trans_eq (if_pos hfits).symm
  · obtain ⟨row, hrow, hid, hsequence⟩ := rebuild_row_of_held hids hplan hindex he
    have hnumber : row.1.sequence ≠ 0 := hsequence ▸ (hpositive e (List.mem_of_getElem? he)).ne'
    refine ⟨row.1, ?_, hid, hsequence⟩
    have hplanned : s.toTimeline.plannedRows ids plan authority = _ := if_pos hfits
    rw [hhistory, hplanned]
    exact List.mem_map_of_mem (numberRestoredRows_keeps hrow hnumber)
  · obtain ⟨hmoved, hrewritten⟩ := moved_of_no_room hids hbelow hnext hplan hfresh hroom hfail
    refine ⟨hmoved, ?_⟩
    rw [(fenceRewrittenHistory_rows { s with toTimeline := after } store s.heldSequences env).2, if_pos hrewritten]
    exact fenceEpoch_ne _ _

theorem renumbering_exact_and_fenced_crowded :
    ∃ e ∈ Sample.adjacent.history, ∃ e' ∈ (Sample.adjacent.toTimeline.applyReconcilePlan
        (Sample.env 1 ["x-0", "x-1", "x-2"]).ids [.held 0 none false, .new 0, .held 1 none false]
        [Sample.entry "b" "between"]).1.history, e'.entryId = e.entryId ∧ e'.sequence ≠ e.sequence := by
  refine ((renumbering_exact_and_fenced ⟨id, [], []⟩ (Sample.env 1 []) (by decide) (by decide) (by decide) (by decide)
    (by decide) ⟨?_, ?_⟩ (by decide)).2.2 (by decide +kernel)).1
  · intro n _ hn
    change n < 3 at hn
    interval_cases n <;> decide
  · intro n _ hn
    change n < 3 at hn
    interval_cases n <;> decide

end LiveSession

end CiaoHost.Session
