import CiaoHost.Session.Numbering
import CiaoHost.Session.PlanOrder

/-! Carrying out a reconcile plan keeps the timeline well numbered. -/

namespace CiaoHost.Session

open Protocol Lib Lib.Saturating Lib.KeyedList

section

variable {β : Type} {f : SourcedRow → β} (hf : ∀ (row : SourcedRow) (n : ℕ), f ({ row.1 with sequence := n }, row.2) = f row)

include hf

lemma renumbered_map {g : SourcedRow × ℕ → ℕ} (rows : List SourcedRow) :
    (rows.zipIdx.map fun x => ({ x.1.1 with sequence := g x }, x.1.2)).map f = rows.map f := by
  rw [List.map_map]
  calc
    _ = rows.zipIdx.map (f ∘ Prod.fst) := List.map_congr_left fun x _ => hf x.1 _
    _ = (rows.zipIdx.map Prod.fst).map f := List.map_map.symm
    _ = _ := by rw [List.zipIdx_map_fst]

lemma numberRows_map (first : ℕ) (rows : List SourcedRow) : (numberRows first rows).map f = rows.map f :=
  renumbered_map hf rows

lemma numberRestoredRows_map (next previous : ℕ) (run rows : List SourcedRow) :
    (numberRestoredRows next previous run rows).1.map f = (run ++ rows).map f := by
  induction rows generalizing previous run with
  | nil => rw [numberRestoredRows, numberRows_map hf, List.append_nil]
  | cons row rest ih =>
    rw [numberRestoredRows]
    split
    · rw [ih, List.append_assoc, List.singleton_append]
    · split
      · dsimp only
        rw [List.map_append, List.map_cons, numberRows_map hf, ih, List.nil_append, List.map_append, List.map_cons]
      · rfl

end

lemma numberRestoredRows_length (next previous : ℕ) (run rows : List SourcedRow) :
    (numberRestoredRows next previous run rows).1.length = run.length + rows.length := by
  simpa using congrArg List.length (numberRestoredRows_map (f := Prod.snd) (fun _ _ => rfl) next previous run rows)

@[simp] lemma numberRows_sequences (first : ℕ) (rows : List SourcedRow) :
    (numberRows first rows).map (·.1.sequence) = List.range' first rows.length := by
  simp only [numberRows, List.map_map]
  have hcomp : ((fun r : SourcedRow => r.1.sequence) ∘
      fun x : SourcedRow × ℕ => ({ x.1.1 with sequence := first + x.2 }, x.1.2)) =
      (first + ·) ∘ Prod.snd := rfl
  rw [hcomp, ← List.map_map, List.zipIdx_map_snd, List.map_add_range']
  simp

variable {rows : List SourcedRow} {row : SourcedRow} {sourceOf : KeyedMap String String}

lemma numberRows_bounds {first : ℕ}
    (h : row ∈ numberRows first rows) : first ≤ row.1.sequence ∧ row.1.sequence < first + rows.length := by
  have hmem : row.1.sequence ∈ (numberRows first rows).map (·.1.sequence) :=
    List.mem_map_of_mem (f := fun r : SourcedRow => r.1.sequence) h
  simpa using hmem

lemma numberRows_sorted (first : ℕ) (rows : List SourcedRow) :
    (numberRows first rows).Pairwise (·.1.sequence < ·.1.sequence) := by
  rw [← List.pairwise_map (f := fun r : SourcedRow => r.1.sequence) (R := (· < ·)), numberRows_sequences]
  exact List.pairwise_lt_range'

variable {next : ℕ}

variable {previous : ℕ}

lemma numberRestoredRows_sorted {run : List SourcedRow}
    (hfit : (numberRestoredRows next previous run rows).2 = true) (hprev : previous < u64Max)
    (hmax : ∀ row ∈ rows, row.1.sequence < u64Max) :
    (numberRestoredRows next previous run rows).1.Pairwise (·.1.sequence < ·.1.sequence) ∧
      ∀ row ∈ (numberRestoredRows next previous run rows).1, previous < row.1.sequence := by
  induction rows generalizing previous run with
  | nil =>
    refine ⟨numberRows_sorted _ run, fun row hr => ?_⟩
    have hb := (numberRows_bounds hr).1
    rw [satAdd_eq (by omega)] at hb
    omega
  | cons row rest ih =>
    have hrest : ∀ r ∈ rest, r.1.sequence < u64Max := fun r hr => hmax r (List.mem_cons_of_mem _ hr)
    by_cases hzero : row.1.sequence = 0
    · simp only [numberRestoredRows, if_pos hzero] at hfit ⊢
      exact ih hfit hprev hrest
    · by_cases hroom : run.length < row.1.sequence - previous
      · simp only [numberRestoredRows, if_neg hzero, if_pos hroom] at hfit ⊢
        obtain ⟨hsorted, habove⟩ := ih hfit (hmax row List.mem_cons_self) hrest
        have hrun : ∀ r ∈ numberRows (previous + 1) run, previous < r.1.sequence ∧
            r.1.sequence < row.1.sequence := fun r hr => by
          have hb := numberRows_bounds hr
          omega
        refine ⟨List.pairwise_append.mpr ⟨numberRows_sorted _ run,
          List.pairwise_cons.mpr ⟨habove, hsorted⟩, fun x hx y hy => ?_⟩, fun r hr => ?_⟩
        · rcases List.mem_cons.mp hy with rfl | hy
          · exact (hrun x hx).2
          · exact (hrun x hx).2.trans (habove y hy)
        · rcases List.mem_append.mp hr with hr | hr
          · exact (hrun r hr).1
          · rcases List.mem_cons.mp hr with rfl | hr
            · omega
            · have hlt := habove r hr
              omega
      · simp [numberRestoredRows, hzero, hroom] at hfit

lemma numberRestoredRows_lt {run : List SourcedRow} (hprev : previous < next)
    (hnext : next ≤ u64Max) (hrun : ∀ row ∈ run, row.1.sequence < next)
    (hrows : ∀ row ∈ rows, row.1.sequence < next) :
    ∀ row ∈ (numberRestoredRows next previous run rows).1,
      row.1.sequence < next + (run.length + rows.length) ∧
        ((numberRestoredRows next previous run rows).2 = false → row.1.sequence < next) := by
  induction rows generalizing previous run with
  | nil =>
    intro row hr
    have hb := (numberRows_bounds hr).2
    rw [satAdd_eq (by omega)] at hb
    refine ⟨?_, nofun⟩
    rw [List.length_nil]
    omega
  | cons row rest ih =>
    have hrest : ∀ r ∈ rest, r.1.sequence < next := fun r hr => hrows r (List.mem_cons_of_mem _ hr)
    have hrow := hrows row List.mem_cons_self
    intro r hr
    rw [numberRestoredRows] at hr ⊢
    rw [List.length_cons]
    split at hr
    · next hzero =>
      rw [if_pos hzero]
      have hlt := ih hprev (fun r hr => by
        rcases List.mem_append.mp hr with hr | hr
        · exact hrun r hr
        · rw [List.mem_singleton.mp hr]; exact hrow) hrest r hr
      rw [List.length_append, List.length_singleton] at hlt
      exact ⟨by omega, hlt.2⟩
    · next hzero =>
      rw [if_neg hzero]
      split at hr
      · next hroom =>
        rw [if_pos hroom]
        rcases List.mem_append.mp hr with hr | hr
        · have hb := (numberRows_bounds hr).2
          exact ⟨by omega, fun _ => by omega⟩
        · rcases List.mem_cons.mp hr with rfl | hr
          · exact ⟨by omega, fun _ => hrow⟩
          · have hlt := @ih _ [] hrow (by simp) hrest r hr
            rw [List.length_nil] at hlt
            exact ⟨by omega, hlt.2⟩
      · have hlt : r.1.sequence < next := (List.mem_append.mp hr).elim (hrun r) (hrows r)
        exact ⟨by omega, fun _ => hlt⟩

def denseStart (rows : List SourcedRow) : ℕ :=
  match rows.zipIdx.find? fun (row, _) => row.1.sequence ≠ 0 with
  | some (row, position) => max (row.1.sequence - position) 1
  | none => 1

lemma renumberDensely_eq (rows : List SourcedRow) : renumberDensely rows = rows.zipIdx.map fun x =>
      ({ x.1.1 with sequence := min (denseStart rows + x.2) u64Max }, x.1.2) := rfl

lemma denseStart_bounds (hrows : ∀ row ∈ rows, row.1.sequence < next)
    (hnext : 0 < next) : 1 ≤ denseStart rows ∧ denseStart rows ≤ next := by
  unfold denseStart
  split
  · next row position hfind =>
    have hmem := List.mem_of_find?_eq_some hfind
    have hlt := hrows row (by simpa using List.mem_map_of_mem (f := Prod.fst) hmem)
    omega
  · omega

lemma renumberDensely_eq_numberRows
    (hroom : denseStart rows + rows.length ≤ u64Max) : renumberDensely rows = numberRows (denseStart rows) rows := by
  rw [renumberDensely_eq, numberRows]
  refine List.map_congr_left fun x hx => ?_
  have hlt := List.snd_lt_of_mem_zipIdx hx
  rw [min_eq_left (by omega)]

def numberedRows (next : ℕ) (rows : List SourcedRow) : List SourcedRow :=
  if (numberRestoredRows next 0 [] rows).2 then (numberRestoredRows next 0 [] rows).1
  else renumberDensely (numberRestoredRows next 0 [] rows).1

lemma numberedRows_map {β : Type} {f : SourcedRow → β}
    (hf : ∀ (row : SourcedRow) (n : ℕ), f ({ row.1 with sequence := n }, row.2) = f row) (next : ℕ) (rows : List SourcedRow) :
    (numberedRows next rows).map f = rows.map f := by
  rw [numberedRows]
  split
  · exact numberRestoredRows_map hf next 0 [] rows
  · rw [renumberDensely_eq, renumbered_map hf, numberRestoredRows_map hf, List.nil_append]

section

variable (hnext : 0 < next) (hrows : ∀ row ∈ rows, row.1.sequence < next) (hroom : next + rows.length < u64Max)

include hnext hrows hroom

lemma numberedRows_of_no_room (hfail : (numberRestoredRows next 0 [] rows).2 = false) :
    ∃ start, 1 ≤ start ∧ start ≤ next ∧
      numberedRows next rows = numberRows start (numberRestoredRows next 0 [] rows).1 := by
  have hlt := @numberRestoredRows_lt rows next 0 [] hnext (by omega) (by simp) hrows
  have hlen := numberRestoredRows_length next 0 [] rows
  rw [List.length_nil] at hlen
  obtain ⟨hlow, hhigh⟩ := denseStart_bounds (fun row hr => (hlt row hr).2 hfail) hnext
  refine ⟨_, hlow, hhigh, ?_⟩
  rw [numberedRows, hfail, if_neg (by simp), renumberDensely_eq_numberRows (by omega)]

lemma numberedRows_spec : (numberedRows next rows).Pairwise (·.1.sequence < ·.1.sequence) ∧
      ∀ row ∈ numberedRows next rows, 0 < row.1.sequence ∧ row.1.sequence < u64Max := by
  cases hfits : (numberRestoredRows next 0 [] rows).2 with
  | true =>
    rw [numberedRows, if_pos hfits]
    obtain ⟨hsorted, hpositive⟩ := numberRestoredRows_sorted hfits (by omega)
      fun row hr => (hrows row hr).trans (by omega)
    refine ⟨hsorted, fun row hr => ⟨hpositive row hr, ?_⟩⟩
    have hlt := (numberRestoredRows_lt hnext (by omega) (by simp) hrows row hr).1
    rw [List.length_nil] at hlt
    omega
  | false =>
    obtain ⟨start, hlow, hhigh, heq⟩ := numberedRows_of_no_room hnext hrows hroom hfits
    have hlen := numberRestoredRows_length next 0 [] rows
    rw [List.length_nil] at hlen
    rw [heq]
    refine ⟨numberRows_sorted _ _, fun row hr => ?_⟩
    have hbounds := numberRows_bounds hr
    omega

end

variable {position : ℕ}

section Rebuild

variable {old : List TimelineEntry} {authority : List NormalizedTimelineEntry} {ids : ℕ → String}

lemma repair_row (entry : TimelineEntry) (source : Option String) (record : Option NormalizedTimelineEntry)
    (rekey : Bool) : (repair entry source record rekey).row.1.entryId = entry.entryId ∧
      (repair entry source record rekey).row.1.sequence = entry.sequence := by
  unfold repair
  split
  · simp
  · dsimp only
    split <;> simp

variable {plan : List Planned}

section

variable (h : row ∈ (rebuild old authority ids sourceOf position plan).rows)

include h

lemma rebuild_mem :
    (∃ index ∈ heldIndices plan, ∃ e source record rekey, old[index]? = some e ∧
        (∀ r ∈ record, r ∈ authority) ∧ row = (repair e source record rekey).row) ∨
      ∃ n record, position ≤ n ∧ n < position + plan.length ∧ record ∈ authority ∧
        row = restoredRow (ids n) record := by
  induction plan generalizing sourceOf position with
  | nil => simp [rebuild] at h
  | cons item rest ih =>
    have hlater : ∀ sourceOf, row ∈ (rebuild old authority ids sourceOf (position + 1) rest).rows →
        (∃ index ∈ heldIndices (item :: rest), ∃ e source record rekey, old[index]? = some e ∧
          (∀ r ∈ record, r ∈ authority) ∧ row = (repair e source record rekey).row) ∨
        ∃ n record, position ≤ n ∧ n < position + (item :: rest).length ∧ record ∈ authority ∧
          row = restoredRow (ids n) record := by
      intro sourceOf hr
      refine (ih hr).imp (fun ⟨index, hi, hrest⟩ => ⟨index, ?_, hrest⟩)
        fun ⟨n, record, h1, h2, hrest⟩ => ⟨n, record, by omega, by simp only [List.length_cons]; omega, hrest⟩
      cases item with
      | held => exact List.mem_cons_of_mem _ hi
      | new => exact hi
    cases item with
    | held index refresh rekey =>
      unfold rebuild at h
      split at h
      · exact hlater _ h
      · next entry he =>
        rcases List.mem_cons.mp h with rfl | h
        · refine .inl ⟨index, by simp, entry, _, _, rekey, he, fun r hr => ?_, rfl⟩
          obtain ⟨i, -, hi⟩ := Option.bind_eq_some_iff.mp hr
          exact List.mem_of_getElem? hi
        · exact hlater _ h
    | new index =>
      unfold rebuild at h
      split at h
      · exact hlater _ h
      · next record hrecord =>
        rcases List.mem_cons.mp h with rfl | h
        · exact .inr ⟨position, record, le_rfl, by simp, List.mem_of_getElem? hrecord, rfl⟩
        · exact hlater _ h

lemma rebuild_origin :
    (∃ index ∈ heldIndices plan, ∃ e, old[index]? = some e ∧ row.1.entryId = e.entryId ∧
        row.1.sequence = e.sequence) ∨
      ∃ n, position ≤ n ∧ n < position + plan.length ∧ row.1.entryId = ids n ∧ row.1.sequence = 0 := by
  rcases rebuild_mem h with ⟨index, hi, e, source, record, rekey, he, -, rfl⟩ | ⟨n, record, h1, h2, -, rfl⟩
  · exact .inl ⟨index, hi, e, he, repair_row ..⟩
  · exact .inr ⟨n, h1, h2, rfl, rfl⟩

end

structure FreshFor (old : List TimelineEntry) (ids : ℕ → String) (first count : ℕ) : Prop where
  unused : ∀ n, first ≤ n → n < first + count → ids n ∉ old.map TimelineEntry.entryId
  distinct : ∀ n, first ≤ n → n < first + count → ∀ m < n, ids m ≠ ids n

/-- What one planned row comes to. -/
def piece (old : List TimelineEntry) (authority : List NormalizedTimelineEntry) (ids : ℕ → String)
    (sourceOf : KeyedMap String String) : Planned × ℕ → Option Repaired
  | (.held index refresh rekey, _) => (old[index]?).map fun e =>
    repair e (sourceOf.lookup e.entryId) (refresh.bind fun index => authority[index]?) rekey
  | (.new index, position) => (authority[index]?).map fun record => ⟨restoredRow (ids position) record, none, true⟩

def Planned.Within (held authority : ℕ) : Planned → Prop
  | .held index _ _ => index < held
  | .new n => n < authority

section

variable (hwithin : ∀ item ∈ plan, item.Within old.length authority.length)

include hwithin

lemma piece_isSome : ∀ x ∈ plan.zipIdx position, (piece old authority ids sourceOf x).isSome = true := by
  rintro ⟨item, n⟩ hx
  have hitem := hwithin item (List.fst_mem_of_mem_zipIdx hx)
  cases item with
  | held index refresh rekey | new index =>
    rw [piece, List.getElem?_eq_getElem hitem]
    rfl

lemma pieces_get (k : ℕ) : ((plan.zipIdx position).filterMap (piece old authority ids sourceOf))[k]? =
    (plan[k]?).bind fun item => piece old authority ids sourceOf (item, position + k) := by
  rw [getElem?_filterMap_of_isSome (piece_isSome hwithin), List.getElem?_zipIdx]
  cases plan[k]? <;> rfl

end

def assemble (pieces : List Repaired) : Rebuilt :=
  ⟨pieces.map Repaired.row, pieces.flatMap fun piece => piece.settled.toList, pieces.any Repaired.visible⟩

lemma index_eq (hold : (old.map TimelineEntry.entryId).Nodup) {index index' : ℕ} {e e' : TimelineEntry}
    (he : old[index]? = some e) (he' : old[index']? = some e') (hsame : e.entryId = e'.entryId) : index = index' := by
  have hin : index < (old.map TimelineEntry.entryId).length := by
    simpa using (List.getElem?_eq_some_iff.mp he).1
  apply (List.getElem?_inj hin hold).mp
  simp only [List.getElem?_map, he', he, Option.map_some, hsame]

section

variable (hold : (old.map TimelineEntry.entryId).Nodup) (hplan : (heldIndices plan).Pairwise (· < ·))

include hold hplan

-- no row is planned twice, so no row finds its source taken
lemma rebuild_eq_of_agree (sources : KeyedMap String String) (hsources : ∀ index ∈ heldIndices plan, ∀ e,
      old[index]? = some e → sourceOf.lookup e.entryId = sources.lookup e.entryId) :
    rebuild old authority ids sourceOf position plan =
      assemble ((plan.zipIdx position).filterMap (piece old authority ids sources)) := by
  induction plan generalizing sourceOf position with
  | nil => rfl
  | cons item rest ih =>
    rw [List.zipIdx_cons, List.filterMap_cons]
    cases item with
    | held index refresh rekey =>
      rw [heldIndices_held] at hplan hsources
      rw [List.pairwise_cons] at hplan
      rw [rebuild, piece]
      cases hget : old[index]? with
      | none => exact ih hplan.2 fun index' hindex' => hsources index' (List.mem_cons_of_mem _ hindex')
      | some e =>
        have hrest := @ih (sourceOf.erase e.entryId) (position + 1) hplan.2 fun index' hindex' e' he' => by
          have hne : e'.entryId ≠ e.entryId := fun hsame =>
            (hplan.1 index' hindex').ne (index_eq hold hget he' hsame.symm)
          rw [KeyedMap.lookup_erase_ne hne]
          exact hsources index' (List.mem_cons_of_mem _ hindex') e' he'
        dsimp only [Option.map_some]
        rw [hrest, hsources index List.mem_cons_self e hget]
        rfl
    | new index =>
      rw [rebuild, piece, ih hplan hsources]
      cases authority[index]? <;> rfl

lemma rebuild_eq : rebuild old authority ids sourceOf position plan =
      assemble ((plan.zipIdx position).filterMap (piece old authority ids sourceOf)) :=
  rebuild_eq_of_agree hold hplan sourceOf fun _ _ _ _ => rfl

section

variable (hwithin : ∀ item ∈ plan, item.Within old.length authority.length)

include hwithin

lemma rebuild_get (k : ℕ) :
    (rebuild old authority ids sourceOf position plan).rows[k]? =
      (plan[k]?).bind fun item => (piece old authority ids sourceOf (item, position + k)).map Repaired.row := by
  rw [rebuild_eq hold hplan, assemble, List.getElem?_map, pieces_get hwithin]
  cases plan[k]? <;> rfl

lemma rebuild_length_eq :
    (rebuild old authority ids sourceOf position plan).rows.length = plan.length := by
  rw [rebuild_eq hold hplan, assemble, List.length_map, List.filterMap_length_eq_length.mpr (piece_isSome hwithin),
    List.length_zipIdx]

end

lemma rebuild_alias {settled : String × String}
    (h : settled ∈ (rebuild old authority ids sourceOf position plan).aliases) :
    ∃ index refresh e, .held index refresh true ∈ plan ∧ old[index]? = some e ∧
      sourceOf.lookup e.entryId = some settled.1 := by
  rw [rebuild_eq hold hplan] at h
  obtain ⟨b, hb, hsettled⟩ := List.mem_flatMap.mp h
  obtain ⟨⟨item, n⟩, hx, hpiece⟩ := List.mem_filterMap.mp hb
  have hitem := List.fst_mem_of_mem_zipIdx hx
  rw [Option.mem_toList] at hsettled
  cases item with
  | held index refresh rekey =>
    obtain ⟨e, he, rfl⟩ := Option.map_eq_some_iff.mp hpiece
    generalize (refresh.bind fun n => authority[n]?) = record at hsettled
    cases record with
    | none => cases hsettled
    | some record =>
      cases rekey with
      | false => cases hsettled
      | true =>
        obtain ⟨display, hdisplay, rfl⟩ := Option.map_eq_some_iff.mp hsettled
        exact ⟨index, refresh, e, hitem, he, hdisplay⟩
  | new index =>
    obtain ⟨record, -, rfl⟩ := Option.map_eq_some_iff.mp hpiece
    cases hsettled

lemma rebuild_row_of_held {index : ℕ} {e : TimelineEntry} (hindex : index ∈ heldIndices plan)
    (he : old[index]? = some e) : ∃ row ∈ (rebuild old authority ids sourceOf position plan).rows,
      row.1.entryId = e.entryId ∧ row.1.sequence = e.sequence := by
  rw [rebuild_eq hold hplan]
  obtain ⟨item, hitem, hheld⟩ := List.mem_filterMap.mp hindex
  rw [← List.zipIdx_map_fst position plan] at hitem
  obtain ⟨⟨item, n⟩, hx, rfl⟩ := List.mem_map.mp hitem
  cases item with
  | held index' refresh rekey =>
    cases hheld
    exact ⟨_, List.mem_map_of_mem (List.mem_filterMap.mpr ⟨_, hx, by rw [piece, he]; rfl⟩), repair_row ..⟩
  | new index' => cases hheld

lemma rebuild_ids (hfresh : FreshFor old ids position plan.length) :
    ((rebuild old authority ids sourceOf position plan).rows.map (·.1.entryId)).Nodup := by
  have hbefore : (plan.zipIdx position).Pairwise fun x y =>
      (∀ i, heldIndex x.1 = some i → ∀ j, heldIndex y.1 = some j → i < j) ∧ x.2 < y.2 := by
    apply List.Pairwise.and
    · rw [heldIndices, List.pairwise_filterMap, ← List.zipIdx_map_fst position plan, List.pairwise_map] at hplan
      exact hplan
    · rw [← List.pairwise_map (f := Prod.snd) (R := (· < ·)), List.zipIdx_map_snd]
      exact List.pairwise_lt_range'
  have hunused : ∀ {x : Planned × ℕ} {e : TimelineEntry}, x ∈ plan.zipIdx position → e ∈ old → e.entryId ≠ ids x.2 := by
    intro x e hx he hsame
    obtain ⟨hlow, hhigh, -⟩ := List.mem_zipIdx hx
    exact hfresh.unused x.2 hlow hhigh (hsame ▸ List.mem_map_of_mem he)
  rw [rebuild_eq hold hplan, assemble, List.map_map, List.Nodup, List.pairwise_map, List.pairwise_filterMap]
  refine hbefore.imp_of_mem ?_
  rintro ⟨item, n⟩ ⟨item', n'⟩ hx hy ⟨hindices, hlt⟩ b hb b' hb'
  cases item with
  | held index refresh rekey =>
    obtain ⟨e, he, rfl⟩ := Option.map_eq_some_iff.mp hb
    rw [Function.comp_apply, (repair_row ..).1]
    cases item' with
    | held index' refresh' rekey' =>
      obtain ⟨e', he', rfl⟩ := Option.map_eq_some_iff.mp hb'
      rw [Function.comp_apply, (repair_row ..).1]
      exact fun hsame => (hindices index rfl index' rfl).ne (index_eq hold he he' hsame)
    | new index' =>
      obtain ⟨record, -, rfl⟩ := Option.map_eq_some_iff.mp hb'
      exact hunused hy (List.mem_of_getElem? he)
  | new index =>
    obtain ⟨record, -, rfl⟩ := Option.map_eq_some_iff.mp hb
    cases item' with
    | held index' refresh' rekey' =>
      obtain ⟨e', he', rfl⟩ := Option.map_eq_some_iff.mp hb'
      rw [Function.comp_apply, Function.comp_apply, (repair_row ..).1]
      exact (hunused hx (List.mem_of_getElem? he')).symm
    | new index' =>
      obtain ⟨record', -, rfl⟩ := Option.map_eq_some_iff.mp hb'
      obtain ⟨hlow, hhigh, -⟩ := List.mem_zipIdx hy
      exact hfresh.distinct n' hlow hhigh n hlt

end

end Rebuild

namespace Timeline

variable {found : KeyedMap String SourceEntryMapping} {m : SourceEntryMapping} {source : String}

def mapped (row : SourcedRow) : Option (String × SourceEntryMapping) :=
  row.2.map fun source => (source, ⟨row.1.entryId, row.1.sequence, false⟩)

lemma foldl_mapRow (rows : List SourcedRow) (found : KeyedMap String SourceEntryMapping) : rows.foldl mapRow found =
    (rows.filterMap mapped).foldl (fun found entry => found.insert entry.1 entry.2) found := by
  rw [List.foldl_filterMap]
  congr 1
  funext found row
  rw [mapRow, mapped]
  cases row.2 <;> rfl

lemma mapRow_cases (h : (rows.foldl mapRow ∅).lookup source = some m) :
    ∃ row ∈ rows, row.2 = some source ∧ m = ⟨row.1.entryId, row.1.sequence, false⟩ := by
  rw [foldl_mapRow] at h
  rcases KeyedMap.of_lookup_foldl_insert h with ⟨entry, hentry, rfl, rfl⟩ | hnone
  · obtain ⟨row, hrow, hmapped⟩ := List.mem_filterMap.mp hentry
    obtain ⟨source, hsource, rfl⟩ := Option.map_eq_some_iff.mp hmapped
    exact ⟨row, hrow, hsource, rfl⟩
  · simp at hnone

lemma sequenceOf_some {id : String} {sequence : ℕ} (h : sequenceOf rows id = some sequence) :
    ∃ row ∈ rows, row.1.entryId = id ∧ row.1.sequence = sequence := by
  simp only [sequenceOf, Option.map_eq_some_iff] at h
  obtain ⟨row, hr, rfl⟩ := h
  exact ⟨row, List.mem_reverse.mp (List.mem_of_find?_eq_some hr), by simpa using List.find?_some hr, rfl⟩

def settledOn (rows : List SourcedRow) (settled : String × String) : Option (String × SourceEntryMapping) :=
  (sequenceOf rows settled.2).map fun sequence => (settled.1, ⟨settled.2, sequence, true⟩)

variable {aliases : List (String × String)}

lemma foldl_mapAlias (aliases : List (String × String)) (found : KeyedMap String SourceEntryMapping) :
    aliases.foldl (mapAlias rows) found =
      (aliases.filterMap (settledOn rows)).foldl (fun found entry => found.insert entry.1 entry.2) found := by
  rw [List.foldl_filterMap]
  congr 1
  funext found settled
  rw [mapAlias, settledOn]
  cases sequenceOf rows settled.2 <;> rfl

lemma mapAlias_cases (h : (aliases.foldl (mapAlias rows) found).lookup source = some m) :
    found.lookup source = some m ∨ m.settled = true ∧ sequenceOf rows m.entryId = some m.sequence := by
  rw [foldl_mapAlias] at h
  rcases KeyedMap.of_lookup_foldl_insert h with ⟨entry, hentry, rfl, rfl⟩ | hfound
  · obtain ⟨settled, -, hsettled⟩ := List.mem_filterMap.mp hentry
    obtain ⟨sequence, hsequence, rfl⟩ := Option.map_eq_some_iff.mp hsettled
    exact .inr ⟨rfl, hsequence⟩
  · exact .inl hfound

variable {t : Timeline} {ids : ℕ → String} {plan : List Planned} {authority : List NormalizedTimelineEntry}

def plannedRows (t : Timeline) (ids : ℕ → String) (plan : List Planned)
    (authority : List NormalizedTimelineEntry) : List SourcedRow :=
  numberedRows t.nextSequence (rebuild t.history authority ids t.sourceOf 0 plan).rows

lemma applyReconcilePlan_history :
    (t.applyReconcilePlan ids plan authority).1.history = (t.plannedRows ids plan authority).map Prod.fst := by
  unfold applyReconcilePlan plannedRows numberedRows
  rfl

lemma applyReconcilePlan_sources : (t.applyReconcilePlan ids plan authority).1.sourceEntries =
      (t.settledAliases ++ (rebuild t.history authority ids t.sourceOf 0 plan).aliases).foldl
        (mapAlias (t.plannedRows ids plan authority))
        ((t.plannedRows ids plan authority).foldl mapRow ∅) := by
  unfold applyReconcilePlan plannedRows numberedRows
  rfl

lemma applyReconcilePlan_next : (t.applyReconcilePlan ids plan authority).1.nextSequence =
      let newest := ((t.plannedRows ids plan authority).getLast?.map (·.1.sequence)).getD 0
      if (numberRestoredRows t.nextSequence 0 [] (rebuild t.history authority ids t.sourceOf 0 plan).rows).2
      then max t.nextSequence (satAdd newest 1) else satAdd newest 1 := by
  unfold applyReconcilePlan plannedRows numberedRows
  rfl

lemma plannedRows_nodup (hids : (t.history.map TimelineEntry.entryId).Nodup) (hplan : (heldIndices plan).Pairwise (· < ·))
    (hfresh : FreshFor t.history ids 0 plan.length) :
    ((t.plannedRows ids plan authority).map (·.1.entryId)).Nodup := by
  rw [plannedRows, numberedRows_map (fun _ _ => rfl)]
  exact rebuild_ids hids hplan hfresh

lemma rebuild_length (old : List TimelineEntry) (sourceOf : KeyedMap String String) (position : ℕ) :
    (rebuild old authority ids sourceOf position plan).rows.length ≤ plan.length := by
  induction plan generalizing sourceOf position with
  | nil => simp [rebuild]
  | cons item rest ih =>
    cases item with
    | held index refresh rekey | new index =>
      unfold rebuild
      split
      · exact (ih _ _).trans (Nat.le_succ _)
      · exact Nat.succ_le_succ (ih _ _)

lemma WellNumbered.rebuild_lt (h : t.WellNumbered)
    (hr : row ∈ (rebuild t.history authority ids sourceOf position plan).rows) :
    row.1.sequence < t.nextSequence := by
  rcases rebuild_origin hr with ⟨index, -, e, he, -, hs⟩ | ⟨n, -, -, -, hs⟩
  · exact hs ▸ h.below e (List.mem_of_getElem? he)
  · exact hs ▸ h.next

lemma WellNumbered.plannedRows_spec (h : t.WellNumbered) (ids : ℕ → String)
    (authority : List NormalizedTimelineEntry) (hroom : t.nextSequence + plan.length < u64Max) :
    (t.plannedRows ids plan authority).Pairwise (·.1.sequence < ·.1.sequence) ∧
      ∀ row ∈ t.plannedRows ids plan authority, 0 < row.1.sequence ∧ row.1.sequence < u64Max := by
  have hlen : (rebuild t.history authority ids t.sourceOf 0 plan).rows.length ≤ plan.length := rebuild_length ..
  exact numberedRows_spec h.next (fun row hr => h.rebuild_lt hr) (by omega)

lemma le_newest (hsorted : rows.Pairwise (·.1.sequence < ·.1.sequence))
    (hr : row ∈ rows) : row.1.sequence ≤ (rows.getLast?.map (·.1.sequence)).getD 0 := by
  cases hlast : rows.getLast? with
  | none => simp_all [List.getLast?_eq_none_iff]
  | some last =>
    obtain ⟨init, rfl⟩ := List.getLast?_eq_some_iff.mp hlast
    rw [List.pairwise_append] at hsorted
    rcases List.mem_append.mp hr with hr | hr
    · exact (hsorted.2.2 row hr last (by simp)).le
    · rw [List.mem_singleton.mp hr]
      exact le_rfl

lemma newest_lt (hbound : ∀ row ∈ rows, 0 < row.1.sequence ∧ row.1.sequence < u64Max) :
    (rows.getLast?.map (·.1.sequence)).getD 0 < u64Max := by
  cases hlast : rows.getLast? with
  | none => decide
  | some last => exact (hbound last (List.mem_of_getLast? hlast)).2

lemma below_next (hsorted : (t.plannedRows ids plan authority).Pairwise (·.1.sequence < ·.1.sequence))
    (hbound : ∀ row ∈ t.plannedRows ids plan authority, 0 < row.1.sequence ∧ row.1.sequence < u64Max)
    (hr : row ∈ t.plannedRows ids plan authority) :
    row.1.sequence < (t.applyReconcilePlan ids plan authority).1.nextSequence := by
  have hle := le_newest hsorted hr
  have hnewest := newest_lt hbound
  rw [applyReconcilePlan_next]
  dsimp only
  rw [satAdd_eq (by omega)]
  split <;> omega

theorem WellNumbered.applyReconcilePlan (h : t.WellNumbered) (hplan : (heldIndices plan).Pairwise (· < ·))
    (hfresh : FreshFor t.history ids 0 plan.length) (hroom : t.nextSequence + 2 * plan.length < u64Max) :
    (t.applyReconcilePlan ids plan authority).1.WellNumbered := by
  obtain ⟨hsorted, hbound⟩ := h.plannedRows_spec ids authority (show t.nextSequence + plan.length < u64Max by omega)
  have hnodup : ((t.plannedRows ids plan authority).map (·.1.entryId)).Nodup := plannedRows_nodup h.ids hplan hfresh
  have hunique : ∀ r ∈ t.plannedRows ids plan authority, ∀ r' ∈ t.plannedRows ids plan authority,
      r.1.entryId = r'.1.entryId → r = r' := fun r hr r' hr' heq =>
    List.inj_on_of_nodup_map hnodup hr hr' heq
  -- a source entry is a row's own source or a settled alias of one
  have hsource : ∀ source m, (t.applyReconcilePlan ids plan authority).1.sourceEntries.lookup source = some m →
      (∃ row ∈ t.plannedRows ids plan authority, row.2 = some source ∧
        m = ⟨row.1.entryId, row.1.sequence, false⟩) ∨
      m.settled = true ∧ ∃ row ∈ t.plannedRows ids plan authority,
        row.1.entryId = m.entryId ∧ row.1.sequence = m.sequence := by
    intro source m hm
    rw [applyReconcilePlan_sources] at hm
    rcases mapAlias_cases hm with hm | ⟨hset, hseq⟩
    · exact .inl (mapRow_cases hm)
    · exact .inr ⟨hset, sequenceOf_some hseq⟩
  refine ⟨?_, ?_, ?_, ?_, ?_, ?_, ?_⟩
  · rw [applyReconcilePlan_history, List.map_map]
    exact hnodup
  · rw [applyReconcilePlan_history, List.pairwise_map]
    exact hsorted
  · intro e he
    rw [applyReconcilePlan_history] at he
    obtain ⟨row, hr, rfl⟩ := List.mem_map.mp he
    exact (hbound row hr).1
  · intro e he
    rw [applyReconcilePlan_history] at he
    obtain ⟨row, hr, rfl⟩ := List.mem_map.mp he
    exact below_next hsorted hbound hr
  · intro source m hm
    rw [applyReconcilePlan_history]
    rcases hsource source m hm with ⟨row, hr, -, rfl⟩ | ⟨-, row, hr, hid, hs⟩
    · exact ⟨row.1, List.mem_map_of_mem hr, rfl, rfl⟩
    · exact ⟨row.1, List.mem_map_of_mem hr, hid, hs⟩
  · intro s s' m m' hm hm' hset hset' heq
    rcases hsource s m hm with ⟨row, hr, hs, rfl⟩ | ⟨hsettled, -⟩
    · rcases hsource s' m' hm' with ⟨row', hr', hs', rfl⟩ | ⟨hsettled, -⟩
      · rw [hunique row hr row' hr' heq, hs'] at hs
        exact (Option.some.inj hs).symm
      · simp [hset'] at hsettled
    · simp [hset] at hsettled
  · rw [applyReconcilePlan_next]
    dsimp only
    have hpos := h.next
    split
    · omega
    · simp [satAdd, u64Max]

end Timeline

end CiaoHost.Session
