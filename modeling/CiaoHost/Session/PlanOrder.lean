import CiaoHost.Session.Reconcile
import Mathlib.Data.List.TakeWhile

/-! A reconcile plan keeps the held rows in their order: the anchors form a chain that increases on
both sides, and every gap is merged in place. -/

namespace CiaoHost.Session

open Protocol Lib

def Before (a b : ℕ × ℕ) : Prop := a.1 < b.1 ∧ a.2 < b.2

instance : DecidableRel Before := fun a b => inferInstanceAs (Decidable (a.1 < b.1 ∧ a.2 < b.2))

instance : IsTrans (ℕ × ℕ) Before := ⟨fun _ _ _ h h' => ⟨h.1.trans h'.1, h.2.trans h'.2⟩⟩

instance : IsTrans (ℕ × ℕ) (flip Before) := ⟨fun _ _ _ h h' => ⟨h'.1.trans h.1, h'.2.trans h.2⟩⟩

variable {pair : ℕ × ℕ}

namespace Patience

variable {chain : List (ℕ × ℕ)}

structure Linked (chain : List (ℕ × ℕ)) (count : ℕ) (state : State) : Prop where
  length : state.previous.length = count
  tails : ∀ tail ∈ state.tails, tail < count
  links : ∀ (p q : ℕ) (a b : ℕ × ℕ), state.previous[p]? = some (some q) → chain[q]? = some a → chain[p]? = some b →
    q < p ∧ a.2 < b.2

lemma mem_takeWhile_last {p : ℕ → Bool} {l : List ℕ} {x : ℕ} (hpos : (l.takeWhile p).length ≠ 0)
    (hx : l[(l.takeWhile p).length - 1]? = some x) : p x = true ∧ x ∈ l := by
  refine ⟨?_, List.mem_of_getElem? hx⟩
  generalize hn : (l.takeWhile p).length - 1 = n at hx
  have hlt : n < (l.takeWhile p).length := by omega
  rw [← List.takeWhile_append_dropWhile (p := p) (l := l), List.getElem?_append_left hlt] at hx
  exact List.mem_takeWhile_imp (List.mem_of_getElem? hx)

variable {count : ℕ} {state : State} {previous : List (Option ℕ)}

lemma Linked.place (h : Linked chain count state)
    (hp : chain[count]? = some pair) : Linked chain (count + 1) (place chain state count pair.2) := by
  refine ⟨by simp [Patience.place, h.length], ?_, ?_⟩
  · intro tail ht
    simp only [Patience.place] at ht
    split at ht
    · rcases List.mem_append.mp ht with ht | ht
      · exact (h.tails tail ht).trans (Nat.lt_succ_self _)
      · simp_all
    · rcases List.mem_or_eq_of_mem_set ht with ht | rfl
      · exact (h.tails tail ht).trans (Nat.lt_succ_self _)
      · exact Nat.lt_succ_self _
  · intro p q a b hlink ha hb
    simp only [Patience.place] at hlink
    rcases Nat.lt_trichotomy p state.previous.length with hlt | rfl | hgt
    · rw [List.getElem?_append_left hlt] at hlink
      exact h.links p q a b hlink ha hb
    · rw [List.getElem?_concat_length, Option.some.injEq] at hlink
      rw [h.length] at hb ⊢
      split at hlink
      · cases hlink
      · next hne =>
        obtain ⟨hbelow, hmem⟩ := mem_takeWhile_last hne hlink
        rw [ha, Option.any_some, decide_eq_true_eq] at hbelow
        rw [hp] at hb
        cases hb
        exact ⟨h.tails q hmem, hbelow⟩
    · rw [List.getElem?_eq_none (by simp; omega)] at hlink
      cases hlink

/-- What holds of no matches and is kept by each placed match holds of the sorted state. -/
lemma sort_induction {P : ℕ → State → Prop} (h0 : P 0 ⟨[], []⟩)
    (hplace : ∀ count state pair, chain[count]? = some pair → P count state →
      P (count + 1) (place chain state count pair.2)) : P chain.length (sort chain) := by
  suffices hgo : ∀ (rest : List (ℕ × ℕ)) (count : ℕ) (state : State), P count state →
      (∀ n pair, rest[n]? = some pair → chain[count + n]? = some pair) →
      P (count + rest.length) ((rest.zipIdx count).foldl (fun s x => place chain s x.2 x.1.2) state) by
    simpa [sort] using hgo chain 0 ⟨[], []⟩ h0 (by simp)
  intro rest
  induction rest with
  | nil => intro count state h _; simpa using h
  | cons pair rest ih =>
    intro count state h hrest
    have hpair := hrest 0 pair (by simp)
    have hnext := ih (count + 1) _ (hplace count state pair hpair h) fun n p hn => by
      have hshift := hrest (n + 1) p (by simpa using hn)
      rwa [show count + 1 + n = count + (n + 1) by omega]
    simpa [List.zipIdx_cons, Nat.add_assoc, Nat.add_comm 1] using hnext

lemma sort_linked (chain : List (ℕ × ℕ)) : Linked chain chain.length (sort chain) :=
  sort_induction ⟨rfl, by simp, by simp⟩ fun _ _ _ hpair h => h.place hpair

lemma follow_head {fuel : ℕ} {position : ℕ}
    (h : (follow chain previous fuel (some position)).head? = some pair) : chain[position]? = some pair := by
  cases fuel with
  | zero => simp [follow] at h
  | succ fuel =>
    simp only [follow] at h
    split at h
    · simp at h
    · next found hf => simpa [hf] using h

lemma follow_decreases (hs : Linked chain chain.length state)
    (hfst : chain.Pairwise fun a b => a.1 < b.1) (fuel : ℕ) (cursor : Option ℕ) :
    (follow chain state.previous fuel cursor).IsChain (flip Before) := by
  induction fuel generalizing cursor with
  | zero => simp [follow]
  | succ fuel ih =>
    cases cursor with
    | none => simp [follow]
    | some position =>
      simp only [follow]
      split
      · exact .nil
      · next pair hpair =>
        refine List.isChain_cons.mpr ⟨fun earlier hearlier => ?_, ih _⟩
        cases hlink : state.previous[position]?.join with
        | none => cases fuel <;> simp [hlink, follow] at hearlier
        | some q =>
          rw [hlink] at hearlier
          have hq := follow_head hearlier
          obtain ⟨hlt, hbelow⟩ := hs.links position q earlier pair
            (Option.join_eq_some_iff.mp hlink) hq hpair
          refine ⟨?_, hbelow⟩
          obtain ⟨hq', rfl⟩ := List.getElem?_eq_some_iff.mp hq
          obtain ⟨hp', rfl⟩ := List.getElem?_eq_some_iff.mp hpair
          exact List.pairwise_iff_getElem.mp hfst q position hq' hp' hlt

lemma follow_subset (fuel : ℕ) (cursor : Option ℕ) (h : pair ∈ follow chain previous fuel cursor) : pair ∈ chain := by
  induction fuel generalizing cursor with
  | zero => simp [follow] at h
  | succ fuel ih =>
    cases cursor with
    | none => simp [follow] at h
    | some position =>
      simp only [follow] at h
      split at h
      · simp at h
      · next found hf =>
        rcases List.mem_cons.mp h with rfl | h
        · exact List.mem_of_getElem? hf
        · exact ih _ h

end Patience

lemma longestIncreasingChain_subset {chain : List (ℕ × ℕ)} (h : pair ∈ longestIncreasingChain chain) : pair ∈ chain :=
  Patience.follow_subset _ _ (List.mem_reverse.mp h)

lemma longestIncreasingChain_increases {chain : List (ℕ × ℕ)} (hfst : chain.Pairwise fun a b => a.1 < b.1) :
    (longestIncreasingChain chain).Pairwise Before := by
  have hdown := Patience.follow_decreases (Patience.sort_linked chain) hfst chain.length
    (Patience.sort chain).tails.getLast?
  rw [List.isChain_iff_pairwise] at hdown
  exact List.pairwise_reverse.mpr hdown

def heldIndex : Planned → Option ℕ
  | .held index _ _ => some index
  | .new _ => none

def heldIndices (plan : List Planned) : List ℕ := plan.filterMap heldIndex

@[simp] lemma heldIndices_nil : heldIndices [] = [] := rfl

@[simp] lemma heldIndices_append (p q : List Planned) :
    heldIndices (p ++ q) = heldIndices p ++ heldIndices q := List.filterMap_append

@[simp] lemma heldIndices_held (index : ℕ) (refresh : Option ℕ) (rekey : Bool) (p : List Planned) :
    heldIndices (.held index refresh rekey :: p) = index :: heldIndices p := rfl

@[simp] lemma heldIndices_new (authority : ℕ) (p : List Planned) :
    heldIndices (.new authority :: p) = heldIndices p := rfl

@[simp] lemma heldIndices_map_new (l : List ℕ) : heldIndices (l.map .new) = [] := by
  induction l with
  | nil => rfl
  | cons n l ih => simpa using ih

namespace Alignment

variable (a : Alignment)

@[simp] lemma heldIndices_heldBetween (first last : ℕ) :
    heldIndices (heldBetween first last) = List.range' first (last - first) := by
  simp only [heldBetween, heldIndices, List.filterMap_map]
  exact List.filterMap_some

lemma heldIndices_heldRow (index : ℕ) (p : List Planned) :
    heldIndices (heldRow index :: p) = index :: heldIndices p := rfl

lemma sharedRows_fst : a.sharedRows.Pairwise fun x y => x.1 < y.1 := by
  rw [sharedRows, List.pairwise_filterMap]
  have hidx : a.held.zipIdx.Pairwise fun x y => x.2 < y.2 := by
    rw [← List.pairwise_map (f := Prod.snd) (R := (· < ·)), List.zipIdx_map_snd]
    exact List.pairwise_lt_range'
  refine hidx.imp fun {x y} hlt b hb c hc => ?_
  simp only [Option.map_eq_some_iff] at hb hc
  obtain ⟨-, -, rfl⟩ := hb
  obtain ⟨-, -, rfl⟩ := hc
  exact hlt

lemma sharedRows_lt (h : pair ∈ a.sharedRows) : pair.1 < a.held.length := by
  simp only [sharedRows, List.mem_filterMap, Option.map_eq_some_iff] at h
  obtain ⟨⟨row, index⟩, hmem, -, -, rfl⟩ := h
  exact (List.mk_mem_zipIdx_iff_getElem?.mp hmem) |> fun h => (List.getElem?_eq_some_iff.mp h).1

end Alignment

end CiaoHost.Session
