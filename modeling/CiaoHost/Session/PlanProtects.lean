import CiaoHost.Session.PlanCovers

/-! Rows that came after the turn, under a plan for the turn that ended: all are kept as they are, and the
restored rows go before them. -/

namespace CiaoHost.Session

open Protocol Lib Lib.Text

namespace Alignment

variable (a : Alignment)

def firstAnchorAfter : Option (ℕ × ℕ) := a.anchors.find? fun anchor => a.afterTurn anchor.1

def isHeldAfter : Planned → Bool
  | .held index _ _ => a.afterTurn index
  | .new _ => false

/-- A row the turn lost may follow one that came after it only where the record itself has an anchor
between them. -/
def Behind (x y : Planned) : Prop :=
  ∀ n, a.isHeldAfter x = true → y = .new n → ∃ anchor ∈ a.anchors, a.afterTurn anchor.1 = true ∧ anchor.2 ≤ n

variable {index n : ℕ} {plan : List Planned}

lemma afterTurn_lt (h : a.afterTurn index = true) : index < a.held.length := by
  obtain ⟨mark, -, hindex⟩ := (Option.any_eq_true _ _).mp h
  obtain ⟨row, hrow, -⟩ := (Option.any_eq_true _ _).mp hindex
  exact (List.getElem?_eq_some_iff.mp hrow).1

lemma heldAfter_planned (h : a.planReconcile = some plan)
    (hafter : a.afterTurn index = true) : index ∈ heldIndices plan := by
  refine (a.planReconcile_plans h (a.afterTurn_lt hafter)).resolve_right fun hshown => ?_
  have hdisplay := hshown.display
  rw [a.not_display_of_after hafter] at hdisplay
  cases hdisplay

section Gap

variable {pairs : List (ℕ × ℕ)} {replies : List (List Char)} {rows pending : List ℕ}

lemma mergeGap_rekeyed {refresh : Option ℕ} {rekey : Bool}
    (h : .held index refresh rekey ∈ a.mergeGap pairs replies rows pending) :
    index ∈ rows ∧ (a.afterTurn index = true → rekey = false) := by
  cases a.mergeGap_origin h with
  | kept _ hrow _ => exact ⟨hrow, fun _ => rfl⟩
  | taken _ reply hrow hbefore _ => exact ⟨hrow, fun hafter => absurd hafter (by simp [hbefore])⟩

lemma mergeGap_new (h : .new n ∈ a.mergeGap pairs replies rows pending) : n ∈ pending := by
  cases a.mergeGap_origin h with
  | restored _ hn => exact hn

lemma restored_protects (l : List ℕ) : (l.map Planned.new).Pairwise fun x y => a.isHeldAfter x = true → ∀ n, y ≠ .new n := by
  rw [List.pairwise_map]
  exact List.pairwise_of_forall fun _ _ => by simp [isHeldAfter]

lemma mergeGap_protects :
    (a.mergeGap pairs replies rows pending).Pairwise fun x y => a.isHeldAfter x = true → ∀ n, y ≠ .new n := by
  induction rows generalizing pending with
  | nil => exact a.restored_protects pending
  | cons row rest ih =>
    obtain ⟨block, later, hmerges, heq⟩ := a.mergeGap_cons pairs replies row rest pending
    rw [heq]
    refine List.pairwise_append.mpr ⟨?_, ih, fun x hx y hy hafter n hn => ?_⟩
    · cases hmerges with
      | flushed | taken =>
        refine List.pairwise_append.mpr ⟨a.restored_protects _, List.pairwise_singleton _ _, fun x hx y _ hafter => ?_⟩
        obtain ⟨m, -, rfl⟩ := List.mem_map.mp hx
        cases hafter
      | dropped => exact .nil
      | plain => exact List.pairwise_singleton _ _
    · -- a row after the turn flushes what was pending
      subst hn
      have hmem := a.mergeGap_new hy
      cases hmerges with
      | flushed hwhy => cases hmem
      | taken reply hbefore hpair =>
        rcases List.mem_append.mp hx with hx | hx
        · obtain ⟨m, -, rfl⟩ := List.mem_map.mp hx
          cases hafter
        · rw [List.mem_singleton.mp hx, isHeldAfter, hbefore] at hafter
          cases hafter
      | dropped hdisplay hshown => cases hx
      | plain hbefore hplain =>
        rw [List.mem_singleton.mp hx, heldRow, isHeldAfter, hbefore] at hafter
        cases hafter

end Gap

/-- The first row of the plan that the record restores is not put behind a row after the turn: no row
before the first anchor came after it, or the record has nothing to restore there. -/
def StartsClear : Prop :=
  ∀ first ∈ a.anchors.head?, a.mode.fromTurnStart = true → (∃ index < first.1, a.afterTurn index = true) →
    a.newBetween 0 first.2 = []

instance : Decidable a.StartsClear :=
  inferInstanceAs (Decidable (∀ first ∈ a.anchors.head?, a.mode.fromTurnStart = true →
    (∃ index < first.1, a.afterTurn index = true) → a.newBetween 0 first.2 = []))

lemma gapsAfter_heldIndex (anchors : List (ℕ × ℕ)) :
    (a.gapsAfter anchors).map Gap.heldIndex = anchors.map Prod.fst := by
  induction anchors with
  | nil => rfl
  | cons anchor rest ih => rw [gapsAfter, List.map_cons, List.map_cons, ih]

lemma gaps_apart : a.gaps.Pairwise fun g g' => g.heldEnd ≤ g'.heldIndex := by
  have hindices : a.gaps.Pairwise fun g g' => g.heldIndex < g'.heldIndex := by
    rw [← List.pairwise_map (f := Gap.heldIndex) (R := (· < ·)), gaps, gapsAfter_heldIndex, List.pairwise_map]
    exact a.anchors_increase.imp fun hbefore => hbefore.1
  refine hindices.imp_of_mem fun {g g'} hg hg' hlt => ?_
  rcases (a.gaps_bounds hg).2.2 _ (a.anchor_of_gap hg') with hle | hle
  · exact absurd hlt (not_lt.mpr hle)
  · exact hle

variable {g : Gap}

lemma heldAfter_of_gap (hg : g ∈ a.gaps) {x : Planned} (hx : x ∈ a.anchorOf g :: a.planOf g)
    (hafter : a.isHeldAfter x = true) : ∃ index < g.heldEnd, a.afterTurn index = true := by
  cases x with
  | new n => cases hafter
  | held index refresh rekey =>
    refine ⟨index, ?_, hafter⟩
    rcases List.mem_cons.mp hx with heq | hx
    · cases heq
      exact (a.gaps_bounds hg).1.1
    · have hrow := (a.mergeGap_rekeyed hx).1
      have hends := (a.gaps_bounds hg).1.1
      rw [gapHeld, List.mem_range'_1] at hrow
      omega

lemma new_of_gap (h : .new n ∈ a.anchorOf g :: a.planOf g) : g.authorityIndex < n := by
  rcases List.mem_cons.mp h with heq | h
  · cases heq
  · exact (a.mem_newBetween.mp (a.mergeGap_new h)).1

section

variable (hheld : a.held.Pairwise (·.entry.sequence < ·.entry.sequence))

include hheld

lemma gaps_behind {before : ℕ}
    (hg : g ∈ a.gaps) (hbefore : before < g.heldIndex) (hafter : a.afterTurn before = true)
    (hn : .new n ∈ a.anchorOf g :: a.planOf g) :
    ∃ anchor ∈ a.anchors, a.afterTurn anchor.1 = true ∧ anchor.2 ≤ n := by
  have hanchor := a.anchor_of_gap hg
  exact ⟨_, hanchor, a.afterTurn_mono hheld hbefore (a.anchors_lt hanchor) hafter, (a.new_of_gap hn).le⟩

lemma plan_behind (hclear : a.StartsClear)
    (h : a.planReconcile = some plan) : plan.Pairwise a.Behind := by
  have hnew : ∀ {l : List ℕ} {x y : Planned}, x ∈ l.map Planned.new → a.Behind x y := by
    intro l x y hx n hafter
    obtain ⟨m, -, rfl⟩ := List.mem_map.mp hx
    cases hafter
  have hrestored : ∀ l : List ℕ, (l.map Planned.new).Pairwise a.Behind := fun l =>
    List.pairwise_iff_forall_sublist.mpr fun hsub => hnew (hsub.subset List.mem_cons_self)
  have hrows : (heldBetween 0 a.start.1).Pairwise a.Behind := by
    rw [heldBetween, List.pairwise_map]
    exact List.pairwise_of_forall fun i j n _ heq => by cases heq
  have hgaps : (a.gaps.flatMap fun g => a.anchorOf g :: a.planOf g).Pairwise a.Behind := by
    rw [List.pairwise_flatMap]
    refine ⟨fun g hg => List.pairwise_cons.mpr ⟨fun y hy n hafter heq => ?_, ?_⟩, ?_⟩
    · subst heq
      exact ⟨_, a.anchor_of_gap hg, hafter, (a.new_of_gap (List.mem_cons_of_mem _ hy)).le⟩
    · exact a.mergeGap_protects.imp fun {x y} hxy n hafter heq => absurd heq (hxy hafter n)
    · refine a.gaps_apart.imp_of_mem fun {g g'} hg hg' hapart x hx y hy n hafter heq => ?_
      subst heq
      obtain ⟨index, hlt, hindex⟩ := a.heldAfter_of_gap hg hx hafter
      exact a.gaps_behind hheld hg' (hlt.trans_le hapart) hindex hy
  obtain ⟨rfl, hanchored⟩ := a.planReconcile_eq h
  refine List.pairwise_append.mpr ⟨hrestored _, List.pairwise_append.mpr ⟨hrows, List.pairwise_append.mpr
    ⟨hrestored _, hgaps, fun x hx y _ => hnew hx⟩, fun x hx y hy n hafter heq => ?_⟩, fun x hx y _ => hnew hx⟩
  subst heq
  obtain ⟨index, hindex, rfl⟩ := List.mem_map.mp hx
  rw [List.mem_range'_1] at hindex
  rcases List.mem_append.mp hy with hy | hy
  · obtain ⟨m, hm, -⟩ := List.mem_map.mp hy
    rw [back] at hm
    split at hm
    · next hscope =>
      rw [Bool.and_eq_true] at hscope
      rw [hclear a.start (a.head_start (hanchored hscope.1)) hscope.2 ⟨index, by omega, hafter⟩] at hm
      cases hm
    · cases hm
  · obtain ⟨g, hg, hy⟩ := List.mem_flatMap.mp hy
    have hle := (a.start_le (a.anchor_of_gap hg)).1
    exact a.gaps_behind hheld hg (by dsimp only at hle; omega) hafter hy

end

lemma firstAnchorAfter_le {anchor : ℕ × ℕ} (h : anchor ∈ a.anchors) (hafter : a.afterTurn anchor.1 = true) :
    ∃ first, a.firstAnchorAfter = some first ∧ first.2 ≤ anchor.2 := by
  cases hfind : a.firstAnchorAfter with
  | none => exact absurd hafter (List.find?_eq_none.mp hfind anchor h)
  | some first =>
    refine ⟨first, rfl, ?_⟩
    obtain ⟨-, earlier, later, hanchors, hearlier⟩ := List.find?_eq_some_iff_append.mp hfind
    have hsorted := a.anchors_increase
    rw [hanchors] at hsorted h
    rcases List.mem_append.mp h with h | h
    · exact absurd hafter (by simpa using hearlier anchor h)
    · rcases List.mem_cons.mp h with rfl | h
      · exact le_rfl
      · exact ((List.pairwise_cons.mp (List.pairwise_append.mp hsorted).2.1).1 anchor h).2.le

namespace Sample

def lostPrompt : Alignment where
  held := [heldAs "e-2" 3 "notice" "compacted" "n", heldAs "e-3" 4 "user_message" "next" "q"]
  authority := [Session.Sample.entry "p" "go", reply "r" "done", Session.Sample.entry "q" "next"]
  mode := .turn true (some 3)
  liveOnlyPrefix := some "live:"

def keptPrompt : Alignment := { lostPrompt with held := heldAs "e-1" 1 "user_message" "go" "p" :: lostPrompt.held }

end Sample

end Alignment

end CiaoHost.Session
