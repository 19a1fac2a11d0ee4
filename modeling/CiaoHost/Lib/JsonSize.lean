import CiaoHost.Lib.Text
import CiaoHost.Lib.Saturating
import Mathlib.Data.Nat.Digits.Lemmas

/-! Sizes of compact JSON documents, built up by the constructors of the document. -/

namespace CiaoHost.Lib.JsonSize

open Text Saturating

def str (s : String) : ℕ := jsonLen s + 2

def num (n : ℕ) : ℕ := max 1 (Nat.digits 10 n).length

def bool (b : Bool) : ℕ := if b then 4 else 5

def arr (items : List ℕ) : ℕ := 1 + max 1 (items.map (· + 1)).sum

def field (f : String × ℕ) : ℕ := str f.1 + 1 + f.2

def obj (fields : List (String × ℕ)) : ℕ := arr (fields.map field)

def opt (key : String) (value : Option ℕ) : List (String × ℕ) :=
  (value.map fun n => (key, n)).toList

lemma le_arr {items : List ℕ} {n : ℕ} (h : n ∈ items) : n ≤ arr items := by
  have hle := List.single_le_sum (by simp) _ (List.mem_map_of_mem (f := (· + 1)) h)
  unfold arr
  omega

lemma le_obj {fields : List (String × ℕ)} {f : String × ℕ} (h : f ∈ fields) : f.2 ≤ obj fields := by
  have hle : field f ≤ obj fields := le_arr (List.mem_map_of_mem h)
  unfold field at hle
  omega

lemma num_le {n : ℕ} (h : n ≤ u64Max) : num n ≤ 20 := by
  have hd : (Nat.digits 10 n).length ≤ 20 :=
    (Nat.digits_length_le_iff (by norm_num) n).mpr (by unfold u64Max at h; omega)
  unfold num
  omega

lemma bool_le (b : Bool) : bool b ≤ 5 := by
  cases b <;> decide

end CiaoHost.Lib.JsonSize
