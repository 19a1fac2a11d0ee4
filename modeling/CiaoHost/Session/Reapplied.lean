import CiaoHost.Session.PlanTwice
import CiaoHost.Session.Unchanged

/-! The timeline that a plan leaves, seen as the held side of the next alignment. -/

namespace CiaoHost.Session

open Protocol Lib Lib.Text Lib.Saturating Lib.KeyedList

namespace Timeline

variable {t : Timeline} {ids : ℕ → String} {plan : List Planned} {authority : List NormalizedTimelineEntry}
  {mode : ReconcileMode} {stem : Option String}

def alignment (t : Timeline) (authority : List NormalizedTimelineEntry) (mode : ReconcileMode) (stem : Option String) :
    Alignment := ⟨t.heldEntries, authority, mode, stem⟩

lemma heldEntries_get (t : Timeline) (index : ℕ) :
    t.heldEntries[index]? = (t.history[index]?).map fun e => ⟨e, t.sourceOf.lookup e.entryId⟩ := by
  rw [heldEntries, List.getElem?_map]

variable {item : Planned}

lemma role_within (hplan : (t.alignment authority mode stem).planReconcile = some plan)
    (hitem : item ∈ plan) : item.Within t.history.length authority.length := by
  have hlength : (t.alignment authority mode stem).held.length = t.history.length := by simp [alignment, heldEntries]
  cases item with
  | held index refresh rekey =>
    have hmem : index ∈ heldIndices plan := List.mem_filterMap.mpr ⟨_, hitem, rfl⟩
    exact hlength ▸ (Alignment.planReconcile_sorted _ hplan).2 index hmem
  | new n => exact (Alignment.place_in_scope hplan hitem rfl).1

variable (ids) in
lemma WellNumbered.planned_length (h : t.WellNumbered)
    (hplan : (t.alignment authority mode stem).planReconcile = some plan) :
    (t.plannedRows ids plan authority).length = plan.length := by
  have hmap := congrArg List.length (numberedRows_map (f := Prod.snd) (fun _ _ => rfl) t.nextSequence
    (rebuild t.history authority ids t.sourceOf 0 plan).rows)
  rw [List.length_map, List.length_map] at hmap
  exact hmap.trans (rebuild_length_eq h.ids (Alignment.planReconcile_sorted _ hplan).1
    fun _ hitem => role_within hplan hitem)

variable {position : ℕ}

lemma piece_after (hplan : (t.alignment authority mode stem).planReconcile = some plan) (hitem : item ∈ plan)
    {made : Repaired} (hmade : piece t.history authority ids t.sourceOf (item, position) = some made) :
    made.row.2 = (t.alignment authority mode stem).sourceAfter item ∧
      some (contentOf made.row.1) = (t.alignment authority mode stem).contentAfter item := by
  cases item with
  | new n =>
    obtain ⟨record, hrecord, rfl⟩ := Option.map_eq_some_iff.mp hmade
    rw [Alignment.sourceAfter, Alignment.contentAfter, alignment, hrecord]
    exact ⟨rfl, rfl⟩
  | held index refresh rekey =>
    obtain ⟨e, he, rfl⟩ := Option.map_eq_some_iff.mp hmade
    have hheld : (t.alignment authority mode stem).held[index]? = some ⟨e, t.sourceOf.lookup e.entryId⟩ := by
      rw [alignment, heldEntries_get, he]
      rfl
    have hown : ((t.alignment authority mode stem).held[index]?).bind HeldEntry.source = t.sourceOf.lookup e.entryId := by
      rw [hheld]
      rfl
    cases refresh with
    | none =>
      rw [Alignment.contentAfter, hheld]
      exact ⟨hown.symm, rfl⟩
    | some n =>
      obtain ⟨record, hrecord⟩ : ∃ record, authority[n]? = some record :=
        ⟨_, List.getElem?_eq_getElem (Alignment.planned_record hplan hitem)⟩
      have hrow : contentOf (repair e (t.sourceOf.lookup e.entryId) (some record) rekey).row.1 =
          recordContent record := by
        rw [repair]
        dsimp only
        split
        · rfl
        · next hsame => simpa [differs_eq] using hsame
      rw [Option.bind_some, hrecord, hrow]
      constructor
      · cases rekey with
        | false => exact hown.symm
        | true =>
          rw [Alignment.sourceAfter, alignment, hrecord]
          rfl
      · rw [Alignment.contentAfter, alignment, hrecord]
        rfl

lemma plannedRows_get (hnodup : ((t.plannedRows ids plan authority).map (·.1.entryId)).Nodup)
    {made : SourcedRow}
    (hmade : (rebuild t.history authority ids t.sourceOf 0 plan).rows[position]? = some made) :
    ∃ row, (t.plannedRows ids plan authority)[position]? = some row ∧ row.1.entryId = made.1.entryId ∧ row.2 = made.2 ∧
      contentOf row.1 = contentOf made.1 ∧
      ((numberRestoredRows t.nextSequence 0 [] (rebuild t.history authority ids t.sourceOf 0 plan).rows).2 = true →
        made.1.sequence ≠ 0 → row.1.sequence = made.1.sequence) := by
  have hsame := congrArg (·[position]?) (numberedRows_map
    (f := fun row => (row.1.entryId, row.2, contentOf row.1)) (fun _ _ => rfl) t.nextSequence
    (rebuild t.history authority ids t.sourceOf 0 plan).rows)
  simp only [List.getElem?_map, hmade, Option.map_some] at hsame
  obtain ⟨row, hrow, heq⟩ := Option.map_eq_some_iff.mp hsame
  simp only [Prod.mk.injEq] at heq
  refine ⟨row, hrow, heq.1, heq.2.1, heq.2.2, fun hfits hnumber => ?_⟩
  have hplanned : t.plannedRows ids plan authority =
      (numberRestoredRows t.nextSequence 0 [] (rebuild t.history authority ids t.sourceOf 0 plan).rows).1 := if_pos hfits
  have hmem : made ∈ t.plannedRows ids plan authority := by
    rw [hplanned]
    exact numberRestoredRows_keeps (List.mem_of_getElem? hmade) hnumber
  rw [List.inj_on_of_nodup_map hnodup (List.mem_of_getElem? hrow) hmem heq.1]

lemma WellNumbered.planned_at (h : t.WellNumbered) (hplan : (t.alignment authority mode stem).planReconcile = some plan)
    (hfresh : FreshFor t.history ids 0 plan.length)
    (hitem : plan[position]? = some item) : ∃ row, (t.plannedRows ids plan authority)[position]? = some row ∧
      row.2 = (t.alignment authority mode stem).sourceAfter item ∧
      some (contentOf row.1) = (t.alignment authority mode stem).contentAfter item ∧
      ((numberRestoredRows t.nextSequence 0 [] (rebuild t.history authority ids t.sourceOf 0 plan).rows).2 = true →
        ∀ index refresh rekey, item = .held index refresh rekey →
          (t.heldEntries[index]?).map (·.entry.sequence) = some row.1.sequence) := by
  have hmem := List.mem_of_getElem? hitem
  have hsorted := (Alignment.planReconcile_sorted _ hplan).1
  have hwithin : ∀ item ∈ plan, item.Within t.history.length authority.length := fun _ hin => role_within hplan hin
  have hget := @rebuild_get t.sourceOf 0 _ _ ids _ h.ids hsorted hwithin position
  obtain ⟨made, hmade⟩ := Option.isSome_iff_exists.mp
    (piece_isSome hwithin (item, position) (List.mk_mem_zipIdx_iff_getElem?.mpr hitem))
  rw [hitem, Option.bind_some, Nat.zero_add, hmade] at hget
  obtain ⟨hsource, hcontent⟩ := piece_after hplan hmem hmade
  obtain ⟨row, hat, -, hrowSource, hrowContent, hnumber⟩ := plannedRows_get (plannedRows_nodup h.ids hsorted hfresh) hget
  refine ⟨row, hat, hrowSource.trans hsource, hrowContent ▸ hcontent, ?_⟩
  rintro hfits index refresh rekey rfl
  obtain ⟨e, he, rfl⟩ := Option.map_eq_some_iff.mp hmade
  obtain ⟨-, hsequence⟩ := repair_row e (t.sourceOf.lookup e.entryId) (refresh.bind fun n => authority[n]?) rekey
  have hpositive := h.positive e (List.mem_of_getElem? he)
  rw [heldEntries_get, he, hnumber hfits (by omega), hsequence]
  rfl

def Unaliased (t : Timeline) (authority : List NormalizedTimelineEntry) : Prop :=
  ∀ record ∈ authority, record.sourceId ∉ t.settledAliases.map Prod.fst

instance (t : Timeline) (authority : List NormalizedTimelineEntry) : Decidable (t.Unaliased authority) :=
  inferInstanceAs (Decidable (∀ record ∈ authority, record.sourceId ∉ t.settledAliases.map Prod.fst))

lemma WellNumbered.own_source (h : t.WellNumbered) {i j : ℕ} {source : String}
    (hi : (t.heldEntries[i]?).bind HeldEntry.source = some source)
    (hj : (t.heldEntries[j]?).bind HeldEntry.source = some source) : i = j := by
  obtain ⟨row, hrow, hsource⟩ := Option.bind_eq_some_iff.mp hi
  obtain ⟨row', hrow', hsource'⟩ := Option.bind_eq_some_iff.mp hj
  rw [heldEntries_get] at hrow hrow'
  obtain ⟨e, he, rfl⟩ := Option.map_eq_some_iff.mp hrow
  obtain ⟨e', he', rfl⟩ := Option.map_eq_some_iff.mp hrow'
  obtain ⟨m, hm, -, hid⟩ := sourceOf_sound hsource
  obtain ⟨m', hm', -, hid'⟩ := sourceOf_sound hsource'
  rw [hm, Option.some.injEq] at hm'
  have hlt : i < (t.history.map TimelineEntry.entryId).length := by simpa using (List.getElem?_eq_some_iff.mp he).1
  apply (List.getElem?_inj hlt h.ids).mp
  rw [List.getElem?_map, List.getElem?_map, he, he', Option.map_some, Option.map_some, ← hid, ← hid', hm']

variable {row : SourcedRow}

section Planned

variable (h : t.WellNumbered) (ha : (t.alignment authority mode stem).Alignable)
  (hplan : (t.alignment authority mode stem).planReconcile = some plan)

include h ha hplan

variable {item : Planned} {source : String}

omit h in
lemma unrecorded (hitem : item ∈ plan)
    (hsource : (t.alignment authority mode stem).sourceAfter item = some source)
    (hnone : (t.alignment authority mode stem).bySource.lookup source = none) :
    ∃ index refresh, item = .held index refresh false ∧ (t.heldEntries[index]?).bind HeldEntry.source = some source := by
  have hplace := ha.place hplan hitem
  rw [hsource, Option.bind_some, hnone] at hplace
  match item, hsource, hplace with
  | .held index refresh false, hsource, _ =>
    refine ⟨index, refresh, rfl, ?_⟩
    cases refresh <;> exact hsource
  | .held index none true, hsource, _ =>
    generalize heq : Planned.held index none true = item at hitem
    cases Alignment.planReconcile_role hplan hitem with
    | restored | early | kept | taken => cases heq
    | anchor g hg => simp [Alignment.anchorOf] at heq

lemma WellNumbered.sourceAfter_inj {p q : ℕ} {x y : Planned} (hp : plan[p]? = some x) (hq : plan[q]? = some y)
    (hx : (t.alignment authority mode stem).sourceAfter x = some source)
    (hy : (t.alignment authority mode stem).sourceAfter y = some source) : p = q := by
  have hxplace := ha.place hplan (List.mem_of_getElem? hp)
  have hyplace := ha.place hplan (List.mem_of_getElem? hq)
  rw [hx, Option.bind_some] at hxplace
  rw [hy, Option.bind_some] at hyplace
  cases hfound : (t.alignment authority mode stem).bySource.lookup source with
  | some n =>
    rw [hfound] at hxplace hyplace
    have hplaces := Alignment.recordPlaces_sorted _ ha.sorted ha.orderly hplan
    rw [List.pairwise_filterMap] at hplaces
    obtain ⟨hplt, rfl⟩ := List.getElem?_eq_some_iff.mp hp
    obtain ⟨hqlt, rfl⟩ := List.getElem?_eq_some_iff.mp hq
    rcases Nat.lt_trichotomy p q with hlt | heq | hlt
    · exact absurd (List.pairwise_iff_getElem.mp hplaces p q hplt hqlt hlt n hxplace.symm n hyplace.symm) (lt_irrefl _)
    · exact heq
    · exact absurd (List.pairwise_iff_getElem.mp hplaces q p hqlt hplt hlt n hyplace.symm n hxplace.symm) (lt_irrefl _)
  | none =>
    obtain ⟨i, refresh, rfl, hi⟩ := unrecorded ha hplan (List.mem_of_getElem? hp) hx hfound
    obtain ⟨j, refresh', rfl, hj⟩ := unrecorded ha hplan (List.mem_of_getElem? hq) hy hfound
    rw [h.own_source hi hj] at hp
    exact Alignment.position_eq hplan hp hq rfl rfl

lemma WellNumbered.sourceAfter_unaliased (hunaliased : t.Unaliased authority) {p : ℕ}
    (hp : plan[p]? = some item) (hsource : (t.alignment authority mode stem).sourceAfter item = some source) :
    source ∉ (t.settledAliases ++ (rebuild t.history authority ids t.sourceOf 0 plan).aliases).map Prod.fst := by
  have hitem := List.mem_of_getElem? hp
  rw [List.map_append, List.mem_append, not_or]
  constructor
  · cases hfound : (t.alignment authority mode stem).bySource.lookup source with
    | some n =>
      obtain ⟨record, hrecord, rfl⟩ := Alignment.bySource_sound _ hfound
      exact hunaliased record (List.mem_of_getElem? hrecord)
    | none =>
      obtain ⟨index, refresh, -, hown⟩ := unrecorded ha hplan hitem hsource hfound
      intro halias
      obtain ⟨⟨key, id⟩, hpair, rfl⟩ := List.mem_map.mp halias
      obtain ⟨m, hm, hsettled, -⟩ := mem_settledAliases.mp hpair
      obtain ⟨row, hrow, hrowSource⟩ := Option.bind_eq_some_iff.mp hown
      rw [heldEntries_get] at hrow
      obtain ⟨e, he, rfl⟩ := Option.map_eq_some_iff.mp hrow
      obtain ⟨m', hm', hlive, -⟩ := sourceOf_sound hrowSource
      rw [hm, Option.some.injEq] at hm'
      rw [hm', hlive] at hsettled
      cases hsettled
  · intro halias
    obtain ⟨settled, hpair, rfl⟩ := List.mem_map.mp halias
    obtain ⟨index, refresh, e, hmem, he, hshown⟩ := rebuild_alias h.ids (Alignment.planReconcile_sorted _ hplan).1
      hpair
    have hdisplay : (t.heldEntries[index]?).bind HeldEntry.source = some settled.1 := by
      rw [heldEntries_get, he]
      exact hshown
    -- a display that took a reply in stood in a gap, so the record did not have its source
    have hunmatched : (t.alignment authority mode stem).anchors.lookup index = none := by
      generalize heq : Planned.held index refresh true = taken at hmem
      cases Alignment.planReconcile_role hplan hmem with
      | restored | early | kept | anchor => cases heq
      | taken g hg i reply hrow _ _ _ =>
        cases heq
        exact Alignment.lookup_between _ (Alignment.gap_unanchored _ hg hrow)
    rw [ha.lookup] at hunmatched
    have hnone : (t.alignment authority mode stem).bySource.lookup settled.1 = none := by
      have hfound := hunmatched
      rw [show (t.alignment authority mode stem).held = t.heldEntries from rfl, hdisplay] at hfound
      exact hfound
    obtain ⟨index', refresh', rfl, hown⟩ := unrecorded ha hplan hitem hsource hnone
    rw [h.own_source hown hdisplay] at hp
    obtain ⟨q, hq⟩ := List.mem_iff_getElem?.mp hmem
    rw [Alignment.position_eq hplan hp hq rfl rfl, hq] at hp
    cases hp

variable (hunaliased : t.Unaliased authority) (hfresh : FreshFor t.history ids 0 plan.length)
  (hroom : t.nextSequence + 2 * plan.length < u64Max)

include hunaliased hfresh hroom

lemma WellNumbered.applied_source (hitem : plan[position]? = some item)
    (hrow : (t.plannedRows ids plan authority)[position]? = some row) :
    (t.applyReconcilePlan ids plan authority).1.sourceOf.lookup row.1.entryId =
      (t.alignment authority mode stem).sourceAfter item := by
  have hsorted := (Alignment.planReconcile_sorted _ hplan).1
  have hafter : (t.applyReconcilePlan ids plan authority).1.WellNumbered := h.applyReconcilePlan hsorted hfresh hroom
  have hnodup : ((t.plannedRows ids plan authority).map (·.1.entryId)).Nodup := plannedRows_nodup h.ids hsorted hfresh
  have hlength := h.planned_length ids hplan
  have hsourced : ∀ row' ∈ t.plannedRows ids plan authority, ∃ (q : ℕ) (item' : Planned), plan[q]? = some item' ∧
      (t.plannedRows ids plan authority)[q]? = some row' ∧ row'.2 = (t.alignment authority mode stem).sourceAfter item' := by
    intro row' hrow'
    obtain ⟨q, hq⟩ := List.mem_iff_getElem?.mp hrow'
    have hqlt : q < plan.length := hlength ▸ (List.getElem?_eq_some_iff.mp hq).1
    obtain ⟨row'', hat, hsource, -⟩ := h.planned_at hplan hfresh (List.getElem?_eq_getElem hqlt)
    rw [hq, Option.some.injEq] at hat
    exact ⟨q, _, List.getElem?_eq_getElem hqlt, hq, hat ▸ hsource⟩
  obtain ⟨q, item', hq, hat, hsource⟩ := hsourced row (List.mem_of_getElem? hrow)
  have hpq : position = q := by
    have hlt : position < (t.plannedRows ids plan authority).length := (List.getElem?_eq_some_iff.mp hrow).1
    have hlt' : position < ((t.plannedRows ids plan authority).map (·.1.entryId)).length := by simpa using hlt
    apply (List.getElem?_inj hlt' hnodup).mp
    rw [List.getElem?_map, List.getElem?_map, hrow, hat]
  subst hpq
  rw [hitem, Option.some.injEq] at hq
  subst hq
  rw [← hsource]
  cases hrowSource : row.2 with
  | some source =>
    refine (sourceOf_iff hafter.named).mpr ⟨⟨row.1.entryId, row.1.sequence, false⟩, ?_, rfl, rfl⟩
    rw [applyReconcilePlan_sources, mapAlias_other
      (h.sourceAfter_unaliased ha hplan hunaliased hitem (hsource.symm.trans hrowSource))]
    refine mapRow_lookup (List.mem_of_getElem? hrow) hrowSource (fun row' hrow' hsame => ?_) ∅
    obtain ⟨q', item'', hq', hat', hsource'⟩ := hsourced row' hrow'
    rw [h.sourceAfter_inj ha hplan hitem hq' (hsource.symm.trans hrowSource) (hsource'.symm.trans hsame), hat'] at hrow
    exact Option.some.inj hrow
  | none =>
    cases hlookup : (t.applyReconcilePlan ids plan authority).1.sourceOf.lookup row.1.entryId with
    | none => rfl
    | some source =>
      obtain ⟨m, hm, hlive, hid⟩ := sourceOf_sound hlookup
      rw [applyReconcilePlan_sources] at hm
      rcases mapAlias_cases hm with hm | ⟨hsettled, -⟩
      · obtain ⟨row', hrow', hsame, rfl⟩ := mapRow_cases hm
        rw [List.inj_on_of_nodup_map hnodup hrow' (List.mem_of_getElem? hrow) hid, hrowSource] at hsame
        cases hsame
      · rw [hlive] at hsettled
        cases hsettled

theorem WellNumbered.follows (hfits : mode.after.isSome = true →
      (numberRestoredRows t.nextSequence 0 [] (rebuild t.history authority ids t.sourceOf 0 plan).rows).2 = true) :
    (t.alignment authority mode stem).Follows plan
      ((t.applyReconcilePlan ids plan authority).1.alignment authority mode stem) where
  authority := rfl
  mode := rfl
  stem := rfl
  length := by
    have hheld : ((t.applyReconcilePlan ids plan authority).1.alignment authority mode stem).held.length =
        (t.plannedRows ids plan authority).length := by
      rw [alignment, heldEntries, applyReconcilePlan_history, List.length_map, List.length_map]
    exact hheld.trans (h.planned_length ids hplan)
  rows := by
    intro position item held hitem hheld
    obtain ⟨row, hrow, hsource, hcontent, hnumber⟩ := h.planned_at hplan hfresh hitem
    have hlookup := h.applied_source ha hplan hunaliased hfresh hroom hitem hrow
    rw [alignment, heldEntries_get, applyReconcilePlan_history, List.getElem?_map, hrow] at hheld
    simp only [Option.map_some, Option.some.injEq] at hheld
    subst hheld
    exact ⟨hlookup, hcontent, fun index refresh rekey heq hmark => hnumber (hfits hmark) index refresh rekey heq⟩

end Planned

end Timeline

end CiaoHost.Session
