import Mathlib.Tactic

/-! UTF-8 text measured in bytes, and the longest prefix of it that keeps within a budget. -/

namespace CiaoHost.Lib.Text

def weight (w : Char → ℕ) (cs : List Char) : ℕ := (cs.map w).sum

def takeWithin (w : Char → ℕ) : ℕ → List Char → List Char
  | _, [] => []
  | n, c :: cs => if w c ≤ n then c :: takeWithin w (n - w c) cs else []

variable {w : Char → ℕ}

@[simp] lemma weight_nil : weight w [] = 0 := rfl

@[simp] lemma weight_cons (c : Char) (cs : List Char) : weight w (c :: cs) = w c + weight w cs := by
  simp [weight]

@[simp] lemma weight_append (xs ys : List Char) : weight w (xs ++ ys) = weight w xs + weight w ys := by
  simp [weight]

@[simp] lemma weight_replicate (n : ℕ) (c : Char) : weight w (List.replicate n c) = n * w c := by
  simp [weight]

lemma takeWithin_isPrefix (n : ℕ) (cs : List Char) : takeWithin w n cs <+: cs := by
  induction cs generalizing n with
  | nil => simp [takeWithin]
  | cons c cs ih =>
    simp only [takeWithin]
    split
    · exact (List.prefix_cons_inj c).mpr (ih _)
    · exact List.nil_prefix

lemma weight_takeWithin (n : ℕ) (cs : List Char) : weight w (takeWithin w n cs) ≤ n := by
  induction cs generalizing n with
  | nil => simp [takeWithin]
  | cons c cs ih =>
    simp only [takeWithin]
    split
    · have hn := ih (n - w c)
      simp only [weight_cons]
      omega
    · simp

variable {xs cs : List Char} {n : ℕ} {s : String}

variable {ys : List Char}

lemma weight_prefix_le (h : xs <+: ys) : weight w xs ≤ weight w ys := by
  obtain ⟨zs, rfl⟩ := h
  simp

lemma takeWithin_eq_self (h : weight w cs ≤ n) : takeWithin w n cs = cs := by
  induction cs generalizing n with
  | nil => rfl
  | cons c cs ih =>
    simp only [weight_cons] at h
    simp only [takeWithin, if_pos (show w c ≤ n by omega)]
    rw [ih (by omega)]

lemma takeWithin_length_lt (h : n < weight w cs) : (takeWithin w n cs).length < cs.length := by
  have hp := takeWithin_isPrefix (w := w) n cs
  refine lt_of_le_of_ne hp.length_le fun he => ?_
  have hw := weight_takeWithin (w := w) n cs
  rw [hp.eq_of_length he] at hw
  omega

lemma prefix_takeWithin (h : xs <+: cs) (hn : weight w xs ≤ n) : xs <+: takeWithin w n cs := by
  induction xs generalizing n cs with
  | nil => exact List.nil_prefix
  | cons x xs ih =>
    obtain ⟨ys, rfl⟩ := h
    rw [weight_cons] at hn
    rw [List.cons_append, takeWithin, if_pos (by omega)]
    exact (List.prefix_cons_inj x).mpr (ih (List.prefix_append xs ys) (by omega))

lemma takeWithin_takeWithin (n m : ℕ) (cs : List Char) :
    takeWithin w n (takeWithin w m cs) = takeWithin w (min n m) cs := by
  induction cs generalizing n m with
  | nil => rfl
  | cons c cs ih =>
    by_cases hm : w c ≤ m
    · by_cases hn : w c ≤ n
      · have hmin : min n m - w c = min (n - w c) (m - w c) := by omega
        rw [takeWithin, if_pos hm, takeWithin, if_pos hn, takeWithin, if_pos (by omega), ih, hmin]
      · rw [takeWithin, if_pos hm, takeWithin, if_neg hn, takeWithin, if_neg (by omega)]
    · rw [takeWithin, if_neg hm, takeWithin, takeWithin, if_neg (by omega)]

lemma takeWithin_weight_append (hw : ∀ c, 0 < w c) (xs ys : List Char) :
    takeWithin w (weight w xs) (xs ++ ys) = xs := by
  induction xs with
  | nil =>
    cases ys with
    | nil => rfl
    | cons c ys =>
      have hc := hw c
      simp [takeWithin, show ¬ w c ≤ 0 by omega]
  | cons c xs ih => simp [takeWithin, ih]

lemma takeWithin_weight_of_prefixed (hw : ∀ c, 0 < w c) (h : xs <+: ys) : takeWithin w (weight w xs) ys = xs := by
  obtain ⟨zs, rfl⟩ := h
  exact takeWithin_weight_append hw xs zs

def byteLen (s : String) : ℕ := weight Char.utf8Size s.toList

/-- The longest prefix of at most `n` bytes that ends between characters. -/
def cut (s : String) (n : ℕ) : String := String.ofList (takeWithin Char.utf8Size n s.toList)

@[simp] lemma byteLen_empty : byteLen "" = 0 := rfl

@[simp] lemma byteLen_append (s t : String) : byteLen (s ++ t) = byteLen s + byteLen t := by
  simp [byteLen]

@[simp] lemma byteLen_ofList (cs : List Char) : byteLen (String.ofList cs) = weight Char.utf8Size cs := by
  simp [byteLen]

lemma byteLen_cut (s : String) (n : ℕ) : byteLen (cut s n) ≤ n := by
  simpa [cut] using weight_takeWithin n s.toList

lemma byteLen_cut_le (s : String) (n : ℕ) : byteLen (cut s n) ≤ byteLen s := by
  simpa [cut, byteLen] using weight_prefix_le (takeWithin_isPrefix n s.toList)

lemma cut_eq_self (h : byteLen s ≤ n) : cut s n = s := by
  simp [cut, takeWithin_eq_self h]

def isWhiteSpace (c : Char) : Bool :=
  (9 ≤ c.toNat && c.toNat ≤ 13) || (0x2000 ≤ c.toNat && c.toNat ≤ 0x200a) ||
    c.toNat ∈ [0x20, 0x85, 0xa0, 0x1680, 0x2028, 0x2029, 0x202f, 0x205f, 0x3000]

def trimStart (s : String) : List Char := s.toList.dropWhile isWhiteSpace

def trim (s : String) : List Char := ((trimStart s).reverse.dropWhile isWhiteSpace).reverse

def jsonEscapedLen (c : Char) : ℕ :=
  if c ∈ ['"', '\\', '\n', '\r', '\t', '\x08', '\x0c'] then 2
  else if c.toNat < 32 then 6
  else c.utf8Size

def jsonLen (s : String) : ℕ := weight jsonEscapedLen s.toList

lemma jsonEscapedLen_pos (c : Char) : 0 < jsonEscapedLen c := by
  unfold jsonEscapedLen
  have hc := c.utf8Size_pos
  split
  · omega
  · split <;> omega

lemma jsonEscapedLen_le (c : Char) : jsonEscapedLen c ≤ 6 * c.utf8Size := by
  unfold jsonEscapedLen
  have hc := c.utf8Size_pos
  split
  · omega
  · split <;> omega

lemma jsonLen_le (s : String) : jsonLen s ≤ 6 * byteLen s := by
  unfold jsonLen byteLen
  induction s.toList with
  | nil => simp
  | cons c cs ih =>
    have hc := jsonEscapedLen_le c
    simp only [weight_cons]
    omega

def jsonPrefixWithin (s : String) (budget : ℕ) : ℕ :=
  weight Char.utf8Size (takeWithin jsonEscapedLen budget s.toList)

lemma cut_jsonPrefix (s : String) (budget : ℕ) :
    cut s (jsonPrefixWithin s budget) = String.ofList (takeWithin jsonEscapedLen budget s.toList) := by
  simp only [cut, jsonPrefixWithin]
  rw [takeWithin_weight_of_prefixed Char.utf8Size_pos (takeWithin_isPrefix _ _)]

lemma weight_takeWithin_lt {v : Char → ℕ} (hv : ∀ c, 0 < v c)
    (h : n < weight w cs) : weight v (takeWithin w n cs) < weight v cs := by
  obtain ⟨rest, hrest⟩ := takeWithin_isPrefix (w := w) n cs
  have hlen := takeWithin_length_lt h
  have hsum : weight v cs = weight v (takeWithin w n cs) + weight v rest := by
    rw [← weight_append, hrest]
  cases rest with
  | nil =>
    rw [List.append_nil] at hrest
    exact absurd (congrArg List.length hrest) hlen.ne
  | cons c rest =>
    have hc := hv c
    rw [weight_cons] at hsum
    omega

variable {budget : ℕ}

lemma byteLen_cut_jsonPrefix_lt (h : budget < jsonLen s) :
    byteLen (cut s (jsonPrefixWithin s budget)) < byteLen s := by
  rw [cut_jsonPrefix, byteLen_ofList]
  exact weight_takeWithin_lt Char.utf8Size_pos h

lemma cut_jsonPrefix_shorter (h : budget < jsonLen s) :
    (cut s (jsonPrefixWithin s budget)).toList.length < s.toList.length := by
  rw [cut_jsonPrefix]
  simpa using takeWithin_length_lt h

end CiaoHost.Lib.Text
