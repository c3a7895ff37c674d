import Mathlib.Data.List.Basic
import Mathlib.Order.Basic

/-!
# Glean.Proofs.Text.Bytes

The order of texts is the order of their bytes in UTF-8 (`bytes_lt_iff`).  A character is
spelled as a leading byte, which says how many are to follow, and trailing bytes with six
bits of the code point each.  Of two characters the one with the greater code point has the
greater leading byte, or they have the same and the trailing bytes decide.
-/

namespace Glean.Text

/-- The bytes of a text in UTF-8. -/
def bytes (s : String) : List UInt8 := s.toUTF8.data.toList

theorem bytes_eq_flatMap (s : String) : bytes s = s.toList.flatMap String.utf8EncodeChar := by
  rw [bytes, String.toUTF8_eq_toByteArray, ← String.utf8Encode_toList, List.utf8Encode,
    List.data_toByteArray]

/-! ## Trailing bytes -/

/-- What is left of a code point when six bits are taken `k` times. -/
def high : Nat → Nat → Nat
  | 0, n => n
  | k + 1, n => high k (n / 64)

/-- The `k` trailing bytes of a code point. -/
def trail : Nat → Nat → List UInt8
  | 0, _ => []
  | k + 1, n => trail k (n / 64) ++ [UInt8.ofNat (n % 64 + 0x80)]

theorem cons_lt_cons {a b : Nat} (ha : a < 256) (hb : b < 256) {s t : List UInt8}
    (h : a < b ∨ a = b ∧ s < t) : UInt8.ofNat a :: s < UInt8.ofNat b :: t := by
  rw [List.cons_lt_cons_iff, UInt8.lt_iff_toNat_lt, UInt8.toNat_ofNat', UInt8.toNat_ofNat',
    Nat.mod_eq_of_lt ha, Nat.mod_eq_of_lt hb]
  exact h.imp_right fun ⟨hab, hst⟩ => ⟨by rw [hab], hst⟩

theorem high_le_high (k : Nat) {m n : Nat} (h : m ≤ n) : high k m ≤ high k n := by
  induction k generalizing m n with
  | zero => exact h
  | succ k ih => exact ih (Nat.div_le_div_right h)

/-- Where code points differ only in their trailing bytes, these are in the same order. -/
theorem trail_append_lt {k m n : Nat} (h : m < n) (hhigh : high k m = high k n)
    (s t : List UInt8) : trail k m ++ s < trail k n ++ t := by
  induction k generalizing m n s t with
  | zero => exact absurd hhigh (Nat.ne_of_lt h)
  | succ k ih =>
      rw [trail, trail, List.append_assoc, List.append_assoc]
      by_cases hdiv : m / 64 = n / 64
      · rw [hdiv]
        have hlast : UInt8.ofNat (m % 64 + 0x80) :: s < UInt8.ofNat (n % 64 + 0x80) :: t :=
          cons_lt_cons (by omega) (by omega) (.inl (by omega))
        exact List.append_left_lt hlast
      · exact ih (by omega) hhigh _ _

/-! ## Characters -/

/-- The number of trailing bytes of a code point, and what is added to the leading one. -/
inductive Spelled (n : Nat) : Nat → Nat → Prop where
  | one (le : n ≤ 0x7f) : Spelled n 0 0
  | two (gt : 0x7f < n) (le : n ≤ 0x7ff) : Spelled n 1 0xc0
  | three (gt : 0x7ff < n) (le : n ≤ 0xffff) : Spelled n 2 0xe0
  | four (gt : 0xffff < n) (lt : n < 0x110000) : Spelled n 3 0xf0

theorem code_lt (c : Char) : c.val.toNat < 0x110000 := by
  have hvalid := c.valid
  simp only [UInt32.isValidChar, Nat.isValidChar] at hvalid
  omega

/-- A character is spelled as its leading byte and its trailing ones. -/
theorem exists_spelled (c : Char) : ∃ k mark, Spelled c.val.toNat k mark ∧
    String.utf8EncodeChar c =
      UInt8.ofNat (high k c.val.toNat + mark) :: trail k c.val.toNat := by
  have hlt := code_lt c
  rw [String.utf8EncodeChar]
  generalize c.val.toNat = n at hlt ⊢
  -- the divisors are powers of 64, and the remainders taken of the leading part change nothing
  have h₁ : n / 4096 = n / 64 / 64 := by omega
  have h₂ : n / 262144 = n / 64 / 64 / 64 := by omega
  by_cases hone : n ≤ 0x7f
  · exact ⟨0, 0, .one hone, by simp [hone, high, trail]⟩
  · by_cases htwo : n ≤ 0x7ff
    · have hhead : n / 64 % 32 = n / 64 := by omega
      exact ⟨1, 0xc0, .two (by omega) htwo, by simp [hone, htwo, high, trail, hhead]⟩
    · by_cases hthree : n ≤ 0xffff
      · have hhead : n / 64 / 64 % 16 = n / 64 / 64 := by omega
        exact ⟨2, 0xe0, .three (by omega) hthree,
          by simp only [hone, htwo, hthree, high, trail, h₁, hhead, if_true, if_false,
            List.nil_append, List.cons_append]⟩
      · have hhead : n / 64 / 64 / 64 % 8 = n / 64 / 64 / 64 := by omega
        exact ⟨3, 0xf0, .four (by omega) hlt,
          by simp only [hone, htwo, hthree, high, trail, h₁, h₂, hhead, if_false,
            List.nil_append, List.cons_append]⟩

/-- The leading byte is greater for the greater code point, or the number of bytes is the same. -/
theorem Spelled.lead_lt_or_same {m n k l a b : Nat} (hm : Spelled m k a) (hn : Spelled n l b)
    (h : m < n) : high k m + a < high l n + b ∨ k = l ∧ a = b := by
  cases hm <;> cases hn <;> simp [high] <;> omega

theorem Spelled.lead_lt {n k a : Nat} (h : Spelled n k a) : high k n + a < 256 := by
  cases h <;> simp only [high] <;> omega

/-- The bytes of characters are in the order of the characters, whatever stands behind them. -/
theorem utf8EncodeChar_append_lt {c d : Char} (h : c < d) (s t : List UInt8) :
    String.utf8EncodeChar c ++ s < String.utf8EncodeChar d ++ t := by
  obtain ⟨k, a, hc, hcbytes⟩ := exists_spelled c
  obtain ⟨l, b, hd, hdbytes⟩ := exists_spelled d
  have hlt : c.val.toNat < d.val.toNat := h
  rw [hcbytes, hdbytes, List.cons_append, List.cons_append]
  refine cons_lt_cons hc.lead_lt hd.lead_lt ?_
  obtain hlead | ⟨rfl, rfl⟩ := hc.lead_lt_or_same hd hlt
  · exact .inl hlead
  · obtain hhigh | hhigh := Nat.lt_or_eq_of_le (high_le_high k (Nat.le_of_lt hlt))
    · exact .inl (by omega)
    · exact .inr ⟨by rw [hhigh], trail_append_lt hlt hhigh s t⟩

/-! ## Texts -/

/-- The first characters that differ decide, and so do the first bytes in these. -/
theorem flatMap_lt_of_lt {cs ds : List Char} (h : cs < ds) :
    cs.flatMap String.utf8EncodeChar < ds.flatMap String.utf8EncodeChar := by
  induction cs generalizing ds with
  | nil =>
      cases ds with
      | nil => exact absurd h (List.lt_irrefl [])
      | cons d ds =>
          obtain ⟨byte, more, hbytes⟩ := List.exists_cons_of_ne_nil
            (String.utf8EncodeChar_ne_nil (c := d))
          rw [List.flatMap_nil, List.flatMap_cons, hbytes]
          exact List.nil_lt_cons _ _
  | cons c cs ih =>
      cases ds with
      | nil => exact absurd h (List.not_lt_nil _)
      | cons d ds =>
          rw [List.flatMap_cons, List.flatMap_cons]
          obtain hcd | ⟨rfl, hrest⟩ := List.cons_lt_cons_iff.1 h
          · exact utf8EncodeChar_append_lt hcd _ _
          · exact List.append_left_lt (ih hrest)

theorem bytes_lt_of_lt {a b : String} (h : a < b) : bytes a < bytes b := by
  rw [bytes_eq_flatMap, bytes_eq_flatMap]
  exact flatMap_lt_of_lt h

/-- Texts are in the order of their bytes. -/
theorem bytes_lt_iff {a b : String} : bytes a < bytes b ↔ a < b := by
  refine ⟨fun h => ?_, bytes_lt_of_lt⟩
  by_cases hab : a < b
  · exact hab
  · by_cases hba : b < a
    · exact absurd h (List.lt_asymm (bytes_lt_of_lt hba))
    · obtain rfl := String.le_antisymm (String.not_lt.1 hba) (String.not_lt.1 hab)
      exact absurd h (List.lt_irrefl _)

end Glean.Text
