import Mathlib.Tactic

/-! Deterministic systems driven by inputs: reachable states, invariants of runs whose every step
is allowed, and runs given by a list of inputs. -/

namespace CiaoHost.Lib.Runs

variable {σ ι : Type}

/-- The states reached from `start` by steps that are each allowed where they are taken. -/
inductive Reaches (step : σ → ι → σ) (allowed : σ → ι → Prop) (start : σ) : σ → Prop
  | refl : Reaches step allowed start start
  | tail {s : σ} (i : ι) : Reaches step allowed start s → allowed s i →
      Reaches step allowed start (step s i)

variable {step : σ → ι → σ} {allowed : σ → ι → Prop} {start : σ}

lemma Reaches.invariant {P : σ → Prop} (h0 : P start)
    (hstep : ∀ s i, P s → allowed s i → P (step s i)) {s : σ}
    (h : Reaches step allowed start s) : P s := by
  induction h with
  | refl => exact h0
  | tail i _ ha ih => exact hstep _ i ih ha

def Allowed (step : σ → ι → σ) (allowed : σ → ι → Prop) : σ → List ι → Prop
  | _, [] => True
  | s, i :: is => allowed s i ∧ Allowed step allowed (step s i) is

instance [∀ s i, Decidable (allowed s i)] : ∀ (s : σ) (is : List ι), Decidable (Allowed step allowed s is)
  | _, [] => .isTrue trivial
  | s, i :: is =>
    have : Decidable (Allowed step allowed (step s i) is) := instDecidableAllowed (step s i) is
    inferInstanceAs (Decidable (_ ∧ _))

lemma Reaches.of_run {is : List ι} {s : σ} (h : Reaches step allowed start s)
    (ha : Allowed step allowed s is) : Reaches step allowed start (is.foldl step s) := by
  induction is generalizing s with
  | nil => exact h
  | cons i is ih => exact ih (h.tail i ha.1) ha.2

end CiaoHost.Lib.Runs
