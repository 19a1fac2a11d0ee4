import Mathlib.Tactic

/-! Validators that answer `Except ε Unit` and stop at their first refusal. -/

namespace CiaoHost.Lib.Checks

variable {ε α : Type}

def refuseIf (e : ε) (p : Prop) [Decidable p] : Except ε Unit :=
  if p then .error e else .ok ()

@[simp] lemma refuseIf_ok (e : ε) (p : Prop) [Decidable p] :
    refuseIf e p = .ok () ↔ ¬ p := by
  unfold refuseIf
  split <;> simp_all

@[simp] lemma bind_ok (a b : Except ε Unit) :
    (a >>= fun _ => b) = .ok () ↔ a = .ok () ∧ b = .ok () := by
  cases a with
  | error e | ok u => simp [bind, Except.bind]

def each (check : α → Except ε Unit) : List α → Except ε Unit
  | [] => .ok ()
  | x :: xs => do
    check x
    each check xs

@[simp] lemma each_ok (check : α → Except ε Unit) (xs : List α) :
    each check xs = .ok () ↔ ∀ x ∈ xs, check x = .ok () := by
  induction xs with
  | nil => simp [each]
  | cons x xs ih => simp [each, ih]

def whenSome (check : α → Except ε Unit) : Option α → Except ε Unit
  | none => .ok ()
  | some x => check x

@[simp] lemma whenSome_ok (check : α → Except ε Unit) (o : Option α) :
    whenSome check o = .ok () ↔ ∀ x, o = some x → check x = .ok () := by
  cases o <;> simp [whenSome]

def eachDistinct {κ : Type} [DecidableEq κ] (key : α → κ) (check : α → Except ε Unit) (repeated : ε) :
    List κ → List α → Except ε Unit
  | _, [] => .ok ()
  | seen, x :: xs => do
    check x
    refuseIf repeated (key x ∈ seen)
    eachDistinct key check repeated (key x :: seen) xs

lemma eachDistinct_ok {κ : Type} [DecidableEq κ] (key : α → κ) (check : α → Except ε Unit) (repeated : ε)
    (seen : List κ) (xs : List α) : eachDistinct key check repeated seen xs = .ok () ↔
      (∀ x ∈ xs, check x = .ok ()) ∧ (xs.map key).Nodup ∧ ∀ x ∈ xs, key x ∉ seen := by
  induction xs generalizing seen with
  | nil => simp [eachDistinct]
  | cons x xs ih =>
    simp only [eachDistinct, bind_ok, refuseIf_ok, ih, List.mem_cons, forall_eq_or_imp, not_or, List.map_cons,
      List.nodup_cons, List.mem_map, not_exists, not_and]
    constructor
    · rintro ⟨hcheck, hseen, hall, hnodup, hfresh⟩
      exact ⟨⟨hcheck, hall⟩, ⟨fun y hy => (hfresh y hy).1, hnodup⟩, hseen, fun y hy => (hfresh y hy).2⟩
    · rintro ⟨⟨hcheck, hall⟩, ⟨hfirst, hnodup⟩, hseen, hrest⟩
      exact ⟨hcheck, hseen, hall, hnodup, fun y hy => ⟨hfirst y hy, hrest y hy⟩⟩

end CiaoHost.Lib.Checks
