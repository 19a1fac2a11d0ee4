import Mathlib.Tactic

/-! Numbered updates that count only when they are next: however they are delivered, the state is
one that some first part of them leads to. -/

namespace CiaoHost.Lib.Sequenced

variable {σ δ : Type} (step : σ → δ → σ) (rank : σ → ℕ) (number : δ → ℕ)

def Chain : σ → List δ → Prop
  | _, [] => True
  | s, d :: rest => number d = rank s + 1 ∧ rank (step s d) = rank s + 1 ∧ Chain (step s d) rest

variable {step rank number} {s : σ} {log : List δ} {d : δ} {k : ℕ}

section

variable (h : Chain step rank number s log)

include h

lemma Chain.rank_take (hk : k ≤ log.length) :
    rank ((log.take k).foldl step s) = rank s + k := by
  induction log generalizing s k with
  | nil => simp [Nat.le_zero.mp hk]
  | cons d rest ih =>
    cases k with
    | zero => rfl
    | succ k =>
      rw [List.take_succ_cons, List.foldl_cons, ih h.2.2 (Nat.le_of_succ_le_succ hk), h.2.1]
      omega

lemma Chain.number_get (hd : log[k]? = some d) : number d = rank s + k + 1 := by
  induction log generalizing s k with
  | nil => simp at hd
  | cons e rest ih =>
    cases k with
    | zero =>
      obtain rfl : e = d := by simpa using hd
      exact h.1
    | succ k =>
      rw [ih h.2.2 (by simpa using hd), h.2.1]
      omega

lemma Chain.out_of_turn (hk : k ≤ log.length) (hd : d ∈ log)
    (hnext : log[k]? ≠ some d) : number d ≠ rank ((log.take k).foldl step s) + 1 := by
  obtain ⟨j, hj⟩ := List.mem_iff_getElem?.mp hd
  rw [h.number_get hj, h.rank_take hk]
  intro heq
  obtain rfl : j = k := by omega
  exact hnext hj

end

variable (hinert : ∀ s d, number d ≠ rank s + 1 → step s d = s)

include hinert in
theorem Chain.deliver (h : Chain step rank number s log) {delivery : List δ} (hmem : ∀ d ∈ delivery, d ∈ log)
    (hk : k ≤ log.length) :
    ∃ j, k ≤ j ∧ j ≤ log.length ∧ delivery.foldl step ((log.take k).foldl step s) = (log.take j).foldl step s := by
  induction delivery generalizing k with
  | nil => exact ⟨k, le_rfl, hk, rfl⟩
  | cons d rest ih =>
    have hrest : ∀ d ∈ rest, d ∈ log := fun e he => hmem e (List.mem_cons_of_mem d he)
    by_cases hnext : log[k]? = some d
    · have hlt : k < log.length := (List.getElem?_eq_some_iff.mp hnext).1
      obtain ⟨j, hkj, hj, heq⟩ := ih hrest hlt
      refine ⟨j, by omega, hj, ?_⟩
      rw [← heq, List.take_add_one, hnext, List.foldl_append]
      rfl
    · rw [List.foldl_cons, hinert _ d (h.out_of_turn hk (hmem d List.mem_cons_self) hnext)]
      exact ih hrest hk

end CiaoHost.Lib.Sequenced
