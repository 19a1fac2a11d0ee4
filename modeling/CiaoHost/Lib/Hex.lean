import CiaoHost.Lib.Text

/-! Words of 32 hexadecimal digits. -/

namespace CiaoHost.Lib.Hex

open Text

def hexDigit (n : ℕ) : Char := "0123456789abcdef".toList.getD n '0'

def hex32 (n : ℕ) : String := String.ofList ((List.range 32).map fun i => hexDigit (n / 16 ^ (31 - i) % 16))

lemma hexDigit_ascii : ∀ n < 16, (hexDigit n).isAlphanum ∧ (hexDigit n).utf8Size = 1 := by
  decide

lemma digit_lt (n i : ℕ) : n / 16 ^ (31 - i) % 16 < 16 := Nat.mod_lt _ (by decide)

lemma byteLen_hex32 (n : ℕ) : byteLen (hex32 n) = 32 := by
  have hsizes : ((List.range 32).map fun i => hexDigit (n / 16 ^ (31 - i) % 16)).map Char.utf8Size =
      (List.range 32).map fun _ => 1 := by
    rw [List.map_map]
    exact List.map_congr_left fun i _ => (hexDigit_ascii _ (digit_lt n i)).2
  rw [hex32, byteLen_ofList, weight, hsizes]
  decide

lemma isAlphanum_of_mem_hex32 {n : ℕ} {c : Char} (h : c ∈ (hex32 n).toList) : c.isAlphanum := by
  rw [hex32, String.toList_ofList] at h
  obtain ⟨i, -, rfl⟩ := List.mem_map.mp h
  exact (hexDigit_ascii _ (digit_lt n i)).1

end CiaoHost.Lib.Hex
