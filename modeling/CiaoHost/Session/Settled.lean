import CiaoHost.Session.PlanCovers

/-! A record that a timeline has already taken in: nothing of it is new, every anchored row is current, and
no display shows a reply of its gap. The plan then keeps every row where it stands. -/

namespace CiaoHost.Session

open Protocol Lib Lib.Text

namespace Alignment

variable {a : Alignment}

structure Settled (a : Alignment) : Prop where
  taken : ∀ index < a.authority.length, a.isNew index = true → a.BeforeScope index
  current : ∀ anchor ∈ a.anchors, a.refreshOf anchor.1 anchor.2 = none
  shown : ∀ g ∈ a.gaps, ∀ index ∈ gapHeld g, a.isDisplay index = true → a.shownIn (a.gapReplies g) index = false
  anchored : a.mode.isTurn = true → a.anchors ≠ []

lemma newBetween_eq_nil {first last : ℕ} (h : ∀ index, first ≤ index → index < last → a.isNew index = false) :
    a.newBetween first last = [] := by
  rw [newBetween, List.filter_eq_nil_iff]
  intro index hindex
  rw [List.mem_range'_1] at hindex
  rw [h index hindex.1 (by omega)]
  simp

variable {g : Gap}

lemma Settled.gapNew (h : a.Settled) (hg : g ∈ a.gaps) : a.gapNew g = [] := by
  apply newBetween_eq_nil
  intro index hlow hhigh
  cases hnew : a.isNew index with
  | false => rfl
  | true =>
    obtain ⟨-, -, first, hfirst, hlt⟩ := h.taken index (hhigh.trans_le (a.gaps_bounds hg).2.1.2) hnew
    have hle := (first_le hfirst (a.anchor_of_gap hg)).2
    dsimp only at hle
    omega

lemma Settled.gapPairs (h : a.Settled) (hg : g ∈ a.gaps) : a.gapPairs g = [] := by
  obtain ⟨-, hsnd⟩ := a.pairs_sublist ((gapHeld g).filter a.isDisplay) ((a.gapNew g).filter a.isReply)
  rw [h.gapNew hg] at hsnd
  have hnil := List.sublist_nil.mp hsnd
  rw [List.map_eq_nil_iff] at hnil
  rw [Alignment.gapPairs, h.gapNew hg]
  exact hnil

lemma mergeGap_kept {replies : List (List Char)} {rows : List ℕ}
    (h : ∀ index ∈ rows, a.isDisplay index = true → a.shownIn replies index = false) :
    a.mergeGap [] replies rows [] = rows.map heldRow := by
  induction rows with
  | nil => rfl
  | cons row rest ih =>
    obtain ⟨block, later, hmerges, heq⟩ := a.mergeGap_cons [] replies row rest []
    have hrest := ih fun index hindex => h index (List.mem_cons_of_mem _ hindex)
    rw [heq]
    cases hmerges with
    | flushed | plain => rw [hrest]; rfl
    | taken reply hbefore hpair => cases hpair
    | dropped hdisplay hshown =>
      rw [h row List.mem_cons_self hdisplay] at hshown
      cases hshown

lemma Settled.block (h : a.Settled) (hg : g ∈ a.gaps) :
    a.anchorOf g :: a.planOf g = (g.heldIndex :: gapHeld g).map heldRow := by
  rw [anchorOf, h.current _ (a.anchor_of_gap hg), planOf, h.gapPairs hg, h.gapNew hg, mergeGap_kept (h.shown g hg)]
  rfl

theorem Settled.planReconcile (h : a.Settled) : a.planReconcile = some (heldBetween 0 a.held.length) := by
  cases hplan : a.planReconcile with
  | none =>
    rw [Alignment.planReconcile] at hplan
    split at hplan
    · next hnone =>
      split at hplan
      · next hturn => exact absurd hnone (h.anchored hturn)
      · cases hplan
    · cases hplan
  | some plan =>
    obtain ⟨rfl, -⟩ := a.planReconcile_eq hplan
    have hrestored : a.front ++ a.back = [] := by
      rcases a.front_back with hboth | ⟨hnone, -⟩
      · rw [hboth]
        apply newBetween_eq_nil
        intro index _ hindex
        cases hnew : a.isNew index with
        | false => rfl
        | true =>
          -- such a row is restored by no read that does not reach back to it
          obtain ⟨hturn, hpart, -⟩ := h.taken index (hindex.trans_le a.start_within.2) hnew
          have hmem : index ∈ a.newBetween 0 a.start.2 := a.mem_newBetween.mpr ⟨Nat.zero_le _, hindex, hnew⟩
          rw [← hboth, front, back, hturn, hpart] at hmem
          simp at hmem
      · exact hnone
    have hrows : (a.gaps.flatMap fun g => a.anchorOf g :: a.planOf g) =
        (List.range' a.start.1 (a.held.length - a.start.1)).map heldRow := by
      rw [← a.gaps_held, List.map_flatMap]
      exact List.flatMap_congr fun g hg => h.block hg
    rw [List.append_eq_nil_iff] at hrestored
    rw [hrestored.1, hrestored.2, hrows, heldBetween, heldBetween, List.map_nil, List.nil_append, List.nil_append,
      ← List.map_append, range'_split (Nat.zero_le _) a.start_within.1]

end Alignment

end CiaoHost.Session
