import Mathlib.Tactic

/-! Base64 with the URL-safe alphabet and without padding: the decoder takes back what the encoder wrote,
and no text whose last symbol carries bits of its own. -/

namespace CiaoHost.Lib.Base64

def alphabet : List Char :=
  "ABCDEFGHIJKLMNOPQRSTUVWXYZabcdefghijklmnopqrstuvwxyz0123456789-_".toList

def symbol (sextet : ℕ) : Char := alphabet.getD sextet 'A'

def value? (c : Char) : Option ℕ := alphabet.findIdx? (· = c)

def encode : List UInt8 → List Char
  | [] => []
  | [a] => [symbol (a.toNat / 4), symbol (a.toNat % 4 * 16)]
  | [a, b] => [symbol (a.toNat / 4), symbol (a.toNat % 4 * 16 + b.toNat / 16), symbol (b.toNat % 16 * 4)]
  | a :: b :: c :: rest =>
    symbol (a.toNat / 4) :: symbol (a.toNat % 4 * 16 + b.toNat / 16) :: symbol (b.toNat % 16 * 4 + c.toNat / 64) ::
      symbol (c.toNat % 64) :: encode rest

def decode : List Char → Option (List UInt8)
  | [] => some []
  | [_] => none
  | [w, x] => do
    let w ← value? w
    let x ← value? x
    if x % 16 = 0 then some [.ofNat (w * 4 + x / 16)] else none
  | [w, x, y] => do
    let w ← value? w
    let x ← value? x
    let y ← value? y
    if y % 4 = 0 then some [.ofNat (w * 4 + x / 16), .ofNat (x % 16 * 16 + y / 4)] else none
  | w :: x :: y :: z :: rest => do
    let w ← value? w
    let x ← value? x
    let y ← value? y
    let z ← value? z
    let bytes ← decode rest
    some (.ofNat (w * 4 + x / 16) :: .ofNat (x % 16 * 16 + y / 4) :: .ofNat (y % 4 * 64 + z) :: bytes)

lemma value?_symbol {sextet : ℕ} (h : sextet < 64) : value? (symbol sextet) = some sextet := by
  have hall : ∀ s : Fin 64, value? (symbol s) = some s.val := by decide +kernel
  exact hall ⟨sextet, h⟩

lemma symbol_ne_padding {sextet : ℕ} (h : sextet < 64) : symbol sextet ≠ '=' := by
  have hall : ∀ s : Fin 64, symbol s ≠ '=' := by decide +kernel
  exact hall ⟨sextet, h⟩

lemma ofNat_eq {n : ℕ} {byte : UInt8} (h : n = byte.toNat) : UInt8.ofNat n = byte := by
  rw [h]
  exact UInt8.ofNat_toNat

theorem decode_encode (bytes : List UInt8) : decode (encode bytes) = some bytes := by
  induction bytes using encode.induct with
  | case1 => rfl
  | case2 a =>
    have ha := a.toNat_lt
    rw [encode, decode, value?_symbol (by omega), value?_symbol (by omega)]
    simp only [Option.bind_eq_bind, Option.bind_some]
    rw [if_pos (by omega), ofNat_eq (by omega : _ = a.toNat)]
  | case3 a b =>
    have ha := a.toNat_lt
    have hb := b.toNat_lt
    rw [encode, decode, value?_symbol (by omega), value?_symbol (by omega), value?_symbol (by omega)]
    simp only [Option.bind_eq_bind, Option.bind_some]
    rw [if_pos (by omega), ofNat_eq (by omega : _ = a.toNat), ofNat_eq (by omega : _ = b.toNat)]
  | case4 a b c rest ih =>
    have ha := a.toNat_lt
    have hb := b.toNat_lt
    have hc := c.toNat_lt
    rw [encode, decode, value?_symbol (by omega), value?_symbol (by omega), value?_symbol (by omega),
      value?_symbol (by omega), ih]
    simp only [Option.bind_eq_bind, Option.bind_some]
    rw [ofNat_eq (by omega : _ = a.toNat), ofNat_eq (by omega : _ = b.toNat), ofNat_eq (by omega : _ = c.toNat)]

lemma padding_not_mem_encode (bytes : List UInt8) : '=' ∉ encode bytes := by
  induction bytes using encode.induct with
  | case1 => simp [encode]
  | case2 a =>
    have ha := a.toNat_lt
    rw [encode]
    simp only [List.mem_cons, List.not_mem_nil, or_false, not_or]
    exact ⟨(symbol_ne_padding (by omega)).symm, (symbol_ne_padding (by omega)).symm⟩
  | case3 a b =>
    have ha := a.toNat_lt
    have hb := b.toNat_lt
    rw [encode]
    simp only [List.mem_cons, List.not_mem_nil, or_false, not_or]
    exact ⟨(symbol_ne_padding (by omega)).symm, (symbol_ne_padding (by omega)).symm, (symbol_ne_padding (by omega)).symm⟩
  | case4 a b c rest ih =>
    have ha := a.toNat_lt
    have hb := b.toNat_lt
    have hc := c.toNat_lt
    rw [encode]
    simp only [List.mem_cons, not_or]
    exact ⟨(symbol_ne_padding (by omega)).symm, (symbol_ne_padding (by omega)).symm, (symbol_ne_padding (by omega)).symm,
      (symbol_ne_padding (by omega)).symm, ih⟩

lemma encode_ne_nil {bytes : List UInt8} (h : bytes ≠ []) : encode bytes ≠ [] := by
  cases bytes with
  | nil => exact absurd rfl h
  | cons a rest =>
    match rest with
    | [] | [_] | _ :: _ :: _ => simp [encode]

end CiaoHost.Lib.Base64
