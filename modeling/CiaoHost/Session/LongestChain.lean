import CiaoHost.Session.PlanOrder
import Mathlib.Data.List.Sort

/-! The chain that patience sorting finds is a longest one. -/

namespace CiaoHost.Session

namespace Patience

variable {chain : List (ℕ × ℕ)} {count : ℕ} {state : State} {pair : ℕ × ℕ} {previous : List (Option ℕ)}
  {depth position : ℕ}

/-- The match at a position ends a chain of `depth` links. -/
def Deep (previous : List (Option ℕ)) : ℕ → ℕ → Prop
  | 0, position => previous[position]? = some none
  | depth + 1, position => ∃ q, previous[position]? = some (some q) ∧ Deep previous depth q

lemma getElem?_append_of_some {α : Type} {l : List α} {n : ℕ} {x : α} (h : l[n]? = some x) (r : List α) :
    (l ++ r)[n]? = some x := by
  rw [List.getElem?_append_left (List.getElem?_eq_some_iff.mp h).1, h]

lemma Deep.append (h : Deep previous depth position) (link : Option ℕ) :
    Deep (previous ++ [link]) depth position := by
  induction depth generalizing position with
  | zero => exact getElem?_append_of_some h _
  | succ depth ih =>
    obtain ⟨q, hlink, hdeep⟩ := h
    exact ⟨q, getElem?_append_of_some hlink _, ih hdeep⟩

lemma Deep.follow_length (hlength : previous.length = chain.length) (h : Deep previous depth position) {fuel : ℕ}
    (hfuel : depth < fuel) : (follow chain previous fuel (some position)).length = depth + 1 := by
  induction fuel generalizing depth position with
  | zero => omega
  | succ fuel ih =>
    have hsome : ∃ link, previous[position]? = some link := by
      cases depth with
      | zero => exact ⟨none, h⟩
      | succ depth => exact ⟨_, h.choose_spec.1⟩
    obtain ⟨link, hlink⟩ := hsome
    have hlt := (List.getElem?_eq_some_iff.mp hlink).1
    rw [follow, List.getElem?_eq_getElem (hlength ▸ hlt)]
    dsimp only
    rw [List.length_cons]
    cases depth with
    | zero =>
      rw [show previous[position]? = some none from h]
      cases fuel <;> simp [follow]
    | succ depth =>
      obtain ⟨q, hq, hdeep⟩ := h
      rw [hq]
      exact congrArg (· + 1) (ih hdeep (Nat.lt_of_succ_lt_succ hfuel))

def authority (chain : List (ℕ × ℕ)) (position : ℕ) : ℕ := (chain[position]?).elim 0 Prod.snd

/-- Each tail ends a chain of its length, the tails increase, and no chain of that length ends lower. -/
structure Best (chain : List (ℕ × ℕ)) (count : ℕ) (state : State) : Prop where
  linked : Linked chain count state
  size : state.tails.length ≤ count
  deep : ∀ (k t : ℕ), state.tails[k]? = some t → Deep state.previous k t
  sorted : ∀ (i j t u : ℕ), i < j → state.tails[i]? = some t → state.tails[j]? = some u →
    authority chain t < authority chain u
  least : ∀ (l : List (ℕ × ℕ)) (last : ℕ × ℕ), (l ++ [last]).Sublist (chain.take count) → (l ++ [last]).Pairwise (·.2 < ·.2) →
    ∃ t, state.tails[l.length]? = some t ∧ authority chain t ≤ last.2

lemma lt_takeWhile_length_iff {α : Type} {p : α → Bool} {l : List α} (h : l.Pairwise fun x y => p y → p x) {i : ℕ} {x : α}
    (hx : l[i]? = some x) : i < (l.takeWhile p).length ↔ p x := by
  induction l generalizing i with
  | nil => cases hx
  | cons y l ih =>
    obtain ⟨hfirst, hrest⟩ := List.pairwise_cons.mp h
    by_cases hy : p y = true
    · rw [List.takeWhile_cons_of_pos hy, List.length_cons]
      cases i with
      | zero =>
        cases hx
        simpa using hy
      | succ i => rw [Nat.succ_lt_succ_iff, ih hrest hx]
    · rw [List.takeWhile_cons_of_neg hy]
      refine iff_of_false (Nat.not_lt_zero i) ?_
      cases i with
      | zero =>
        cases hx
        exact hy
      | succ i => exact fun hp => hy (hfirst x (List.mem_of_getElem? hx) hp)

lemma Best.placed (h : Best chain count state) (hpair : chain[count]? = some pair) :
    ∃ k ≤ state.tails.length, (∀ (i t : ℕ), state.tails[i]? = some t → (i < k ↔ authority chain t < pair.2)) ∧
      (∀ i : ℕ, (place chain state count pair.2).tails[i]? = if i = k then some count else state.tails[i]?) ∧
      (place chain state count pair.2).tails.length ≤ state.tails.length + 1 ∧
      (place chain state count pair.2).previous =
        state.previous ++ [if k = 0 then none else state.tails[k - 1]?] := by
  have hcount : count < chain.length := (List.getElem?_eq_some_iff.mp hpair).1
  have hany : ∀ t ∈ state.tails, (chain[t]?).any (·.2 < pair.2) = decide (authority chain t < pair.2) := by
    intro t ht
    rw [authority, List.getElem?_eq_getElem ((h.linked.tails t ht).trans hcount)]
    rfl
  have hk : (state.tails.takeWhile fun t => (chain[t]?).any (·.2 < pair.2)).length ≤ state.tails.length :=
    (List.takeWhile_prefix _).length_le
  refine ⟨_, hk, fun i t ht => ?_, fun i => ?_, ?_, rfl⟩
  · rw [lt_takeWhile_length_iff _ ht, hany t (List.mem_of_getElem? ht), decide_eq_true_eq]
    refine List.pairwise_iff_getElem.mpr fun i j hi hj hij hp => ?_
    rw [hany _ (List.getElem_mem _), decide_eq_true_eq] at hp ⊢
    exact (h.sorted i j _ _ hij (List.getElem?_eq_getElem hi) (List.getElem?_eq_getElem hj)).trans hp
  · rw [place]
    dsimp only
    split
    · next hall =>
      rw [hall, List.getElem?_append]
      grind
    · next hsome =>
      rw [List.getElem?_set]
      grind
  · rw [place]
    dsimp only
    split <;> simp

lemma Best.place (h : Best chain count state) (hpair : chain[count]? = some pair) :
    Best chain (count + 1) (place chain state count pair.2) := by
  have hcount : authority chain count = pair.2 := by rw [authority, hpair]; rfl
  obtain ⟨k, hk, hbelow, htails, hsize, hprevious⟩ := h.placed hpair
  refine ⟨h.linked.place hpair, hsize.trans (Nat.succ_le_succ h.size), ?_, ?_, ?_⟩
  · intro i t ht
    rw [htails] at ht
    rw [hprevious]
    split at ht
    · next hi =>
      subst hi
      cases ht
      have hlast : (state.previous ++ [if i = 0 then none else state.tails[i - 1]?])[count]? =
          some (if i = 0 then none else state.tails[i - 1]?) := by
        rw [← h.linked.length, List.getElem?_concat_length]
      cases i with
      | zero => exact hlast
      | succ i =>
        have hshorter : state.tails[i]? = some state.tails[i] := List.getElem?_eq_getElem hk
        rw [if_neg (Nat.succ_ne_zero i), Nat.add_sub_cancel, hshorter] at hlast ⊢
        exact ⟨_, hlast, (h.deep i _ hshorter).append _⟩
    · exact (h.deep i t ht).append _
  · intro i j t u hij ht hu
    rw [htails] at ht hu
    split at ht <;> split at hu
    · omega
    · next hi hj =>
      subst hi
      cases ht
      have hlt : i < state.tails.length := hij.trans (List.getElem?_eq_some_iff.mp hu).1
      have hkept := (hbelow i _ (List.getElem?_eq_getElem hlt)).not.mp (lt_irrefl i)
      rw [hcount]
      exact (not_lt.mp hkept).trans_lt (h.sorted i j _ u hij (List.getElem?_eq_getElem hlt) hu)
    · next hi hj =>
      subst hj
      cases hu
      rw [hcount]
      exact (hbelow i t ht).mp hij
    · exact h.sorted i j t u hij ht hu
  · intro l last hsub hincreases
    rw [List.take_add_one, hpair, Option.toList_some, List.sublist_append_iff] at hsub
    obtain ⟨l₁, l₂, heq, hfirst, hsecond⟩ := hsub
    simp only [htails]
    rcases List.sublist_singleton.mp hsecond with rfl | rfl
    · -- an older chain of this length ends no lower than the tail that it found
      rw [List.append_nil] at heq
      obtain ⟨t, ht, hle⟩ := h.least l last (heq ▸ hfirst) hincreases
      by_cases hl : l.length = k
      · refine ⟨count, if_pos hl, ?_⟩
        rw [hcount]
        exact (not_lt.mp ((hbelow _ t ht).not.mp (hl ▸ lt_irrefl k))).trans hle
      · exact ⟨t, by rw [if_neg hl, ht], hle⟩
    · obtain ⟨rfl, hlast⟩ := List.append_inj' heq rfl
      cases hlast
      have hlength : l.length ≤ k := by
        rcases List.eq_nil_or_concat l with rfl | ⟨l', x, rfl⟩
        · exact Nat.zero_le k
        · rw [List.concat_eq_append] at hfirst hincreases ⊢
          obtain ⟨t, ht, hle⟩ := h.least l' x hfirst (List.pairwise_append.mp hincreases).1
          have hx : x.2 < pair.2 := (List.pairwise_append.mp hincreases).2.2 x (by simp) pair (by simp)
          have hlt := (hbelow _ t ht).mpr (hle.trans_lt hx)
          rw [List.length_append, List.length_singleton]
          exact hlt
      rcases hlength.eq_or_lt with hl | hl
      · exact ⟨count, if_pos hl, hcount.le⟩
      · have ht : state.tails[l.length]? = some state.tails[l.length] := List.getElem?_eq_getElem (hl.trans_le hk)
        refine ⟨_, by rw [if_neg hl.ne, ht], ?_⟩
        exact ((hbelow _ _ ht).mp hl).le

lemma sort_best (chain : List (ℕ × ℕ)) : Best chain chain.length (sort chain) := by
  apply sort_induction
  · refine ⟨⟨rfl, by simp, by simp⟩, le_refl 0, by simp, by simp, ?_⟩
    intro l last hsub
    simp at hsub
  · exact fun _ _ _ hpair h => h.place hpair

end Patience

lemma longestIncreasingChain_length (chain : List (ℕ × ℕ)) :
    (longestIncreasingChain chain).length = (Patience.sort chain).tails.length := by
  have hbest := Patience.sort_best chain
  rw [longestIncreasingChain, List.length_reverse]
  rcases List.eq_nil_or_concat (Patience.sort chain).tails with hnil | ⟨tails, t, htails⟩
  · rw [hnil]
    cases chain.length <;> rfl
  · rw [List.concat_eq_append] at htails
    have hsize := hbest.size
    have hdeep := hbest.deep tails.length t (by rw [htails, List.getElem?_concat_length])
    rw [htails, List.length_append, List.length_singleton] at hsize ⊢
    rw [List.getLast?_concat]
    exact hdeep.follow_length hbest.linked.length hsize

variable {chain : List (ℕ × ℕ)}

lemma longestIncreasingChain_sublist (h : chain.Pairwise (·.1 < ·.1)) : (longestIncreasingChain chain).Sublist chain := by
  have hincreases := longestIncreasingChain_increases h
  have hsubset : longestIncreasingChain chain ⊆ chain := fun _ => longestIncreasingChain_subset
  have hnodup : (longestIncreasingChain chain).Nodup := hincreases.imp fun hlt heq => (heq ▸ hlt.1).false
  have : Std.Antisymm fun a b : ℕ × ℕ => a.1 < b.1 := ⟨fun _ _ hlt hgt => absurd hgt (lt_asymm hlt)⟩
  exact List.sublist_of_subperm_of_pairwise (List.subperm_of_subset hnodup hsubset) (hincreases.imp And.left) h

lemma length_le_longestIncreasingChain {l : List (ℕ × ℕ)} (hsub : l.Sublist chain) (hl : l.Pairwise (·.2 < ·.2)) :
    l.length ≤ (longestIncreasingChain chain).length := by
  rw [longestIncreasingChain_length]
  rcases List.eq_nil_or_concat l with rfl | ⟨front, last, rfl⟩
  · exact Nat.zero_le _
  · rw [List.concat_eq_append] at hsub hl ⊢
    obtain ⟨t, ht, -⟩ := (Patience.sort_best chain).least front last (by rwa [List.take_length]) hl
    rw [List.length_append, List.length_singleton]
    exact (List.getElem?_eq_some_iff.mp ht).1

lemma longestIncreasingChain_of_increasing (h : chain.Pairwise Before) : longestIncreasingChain chain = chain :=
  (longestIncreasingChain_sublist (h.imp And.left)).eq_of_length_le
    (length_le_longestIncreasingChain (List.Sublist.refl chain) (h.imp And.right))

theorem longestIncreasingChain_longest (chain : List (ℕ × ℕ)) (h : chain.Pairwise (·.1 < ·.1)) :
    (longestIncreasingChain chain).Sublist chain ∧ (longestIncreasingChain chain).Pairwise (·.2 < ·.2) ∧
      ∀ l : List (ℕ × ℕ), l.Sublist chain → l.Pairwise (·.2 < ·.2) → l.length ≤ (longestIncreasingChain chain).length :=
  ⟨longestIncreasingChain_sublist h, (longestIncreasingChain_increases h).imp And.right,
    fun _ hsub hl => length_le_longestIncreasingChain hsub hl⟩

theorem longestIncreasingChain_longest_of_five :
    longestIncreasingChain [(0, 2), (1, 0), (2, 1), (4, 5), (7, 3)] = [(1, 0), (2, 1), (7, 3)] ∧
      ∀ l : List (ℕ × ℕ), l.Sublist [(0, 2), (1, 0), (2, 1), (4, 5), (7, 3)] → l.Pairwise (·.2 < ·.2) →
        l.length ≤ (longestIncreasingChain [(0, 2), (1, 0), (2, 1), (4, 5), (7, 3)]).length :=
  ⟨by decide, (longestIncreasingChain_longest _ (by decide)).2.2⟩

end CiaoHost.Session
