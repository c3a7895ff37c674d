import Glean.Text.Lowercase

/-!
# Glean.Proofs.Text.Lowercase

Lower case and ASCII.  In a text of ASCII characters lower-casing changes the letters `A` to
`Z` only.  Any other character leaves something behind that is beyond ASCII, wherever it
stands, but for the Kelvin sign, which becomes the letter `k`.  So a word of ASCII characters
without a `k` is the lower-case form of those texts only that differ from it in the case of
ASCII letters (`lowercase_eq_iff`).
-/

namespace Glean.Text

/-! ## The table -/

namespace CaseRun

/-- The run of the letters `A` to `Z`. -/
def capitals : CaseRun := ⟨0x41, 0x5a, 1, 32⟩

/-- The run is the Kelvin sign by itself, which becomes a `k`. -/
def Kelvin (r : CaseRun) : Prop := r.first = 0x212a ∧ r.last = 0x212a ∧ r.offset = -8383

/-- The characters of a run and their lower-case forms lie beyond ASCII, and these forms are
characters. -/
def Beyond (r : CaseRun) : Prop :=
  128 ≤ r.first ∧ 128 ≤ r.first + r.offset ∧
    (r.last + r.offset < 0xd800 ∨ 0xdfff < r.first + r.offset ∧ r.last + r.offset < 0x110000)

instance (r : CaseRun) : Decidable r.Kelvin := by
  unfold Kelvin; infer_instance

instance (r : CaseRun) : Decidable r.Beyond := by
  unfold Beyond; infer_instance

theorem covers_iff {r : CaseRun} {n : Nat} :
    r.covers n = true ↔ (r.first ≤ n ∧ n ≤ r.last) ∧ (n - r.first) % r.step = 0 := by
  simp [covers]

theorem covers_capitals_iff {n : Nat} : capitals.covers n = true ↔ 65 ≤ n ∧ n ≤ 90 := by
  rw [covers_iff]
  exact and_iff_left (Nat.mod_one _)

end CaseRun

theorem caseRuns_eq : caseRuns = CaseRun.capitals :: caseRuns.tail := rfl

/-- But for the letters `A` to `Z` and the Kelvin sign all runs lie beyond ASCII. -/
theorem kelvin_or_beyond_of_mem : ∀ r ∈ caseRuns.tail, r.Kelvin ∨ r.Beyond := by
  decide +kernel

/-- In ASCII only the letters `A` to `Z` have a lower-case form. -/
theorem find?_caseRuns_of_ascii {n : Nat} (h : n < 128) :
    caseRuns.find? (·.covers n) = if 65 ≤ n ∧ n ≤ 90 then some .capitals else none := by
  have htail : caseRuns.tail.find? (·.covers n) = none := by
    rw [List.find?_eq_none]
    intro r hr hcovers
    have hfirst := (CaseRun.covers_iff.1 hcovers).1
    obtain ⟨hkelvin, -⟩ | ⟨hbeyond, -⟩ := kelvin_or_beyond_of_mem r hr <;> omega
  rw [caseRuns_eq]
  split
  · next hcapital => exact List.find?_cons_of_pos (CaseRun.covers_capitals_iff.2 hcapital)
  · next hother =>
      rw [← htail]
      exact List.find?_cons_of_neg (mt CaseRun.covers_capitals_iff.1 hother)

/-! ## Characters -/

/-- Beyond ASCII, or the `k` that may come from there. -/
def Foreign (c : Char) : Prop := 128 ≤ c.toNat ∨ c = 'k'

instance (c : Char) : Decidable (Foreign c) := by
  unfold Foreign; infer_instance

theorem toLower_of_not_ascii {c : Char} (h : 128 ≤ c.toNat) : c.toLower = c := by
  refine dif_neg fun hcapital => ?_
  have hlast : c.toNat ≤ 90 := hcapital.2
  omega

theorem lowercaseChar_of_ascii {c : Char} (h : c.toNat < 128) :
    lowercaseChar c = [c.toLower] := by
  have hall : ∀ n < 128, (Char.ofNat n).toLower =
      if 65 ≤ n ∧ n ≤ 90 then Char.ofNat (n + 32) else Char.ofNat n := by decide
  have hlower := hall c.toNat h
  have hdotted : c ≠ '\u0130' := by
    rintro rfl
    exact absurd h (by decide)
  rw [Char.ofNat_toNat] at hlower
  rw [lowercaseChar, if_neg hdotted, find?_caseRuns_of_ascii h, hlower]
  by_cases hcapital : 65 ≤ c.toNat ∧ c.toNat ≤ 90
  · rw [if_pos hcapital, if_pos hcapital]
    rfl
  · rw [if_neg hcapital, if_neg hcapital]

/-- A character beyond ASCII leaves something foreign behind. -/
theorem exists_foreign_lowercaseChar {c : Char} (h : 128 ≤ c.toNat) :
    ∃ d ∈ lowercaseChar c, Foreign d := by
  rw [lowercaseChar]
  split
  · exact ⟨'\u0307', by simp, .inl (by decide)⟩
  · split
    · next r hfound =>
        refine ⟨_, List.mem_singleton.2 rfl, ?_⟩
        have hcovers : r.covers c.toNat = true := by simpa using List.find?_some hfound
        obtain ⟨hfrom, hto⟩ := (CaseRun.covers_iff.1 hcovers).1
        have hmem := List.mem_of_find?_eq_some hfound
        rw [caseRuns_eq, List.mem_cons] at hmem
        obtain rfl | htail := hmem
        · have hlast : c.toNat ≤ 90 := hto
          omega
        · obtain ⟨hfirst, hlast, hoffset⟩ | ⟨-, hcode, hvalid⟩ := kelvin_or_beyond_of_mem r htail
          · have hcode : ((c.toNat : Int) + r.offset).toNat = 0x6b := by omega
            rw [hcode]
            exact .inr rfl
          · have hcharacter : ((c.toNat : Int) + r.offset).toNat.isValidChar := by
              unfold Nat.isValidChar
              omega
            have hform : (Char.ofNat ((c.toNat : Int) + r.offset).toNat).toNat =
                ((c.toNat : Int) + r.offset).toNat := by
              rw [Char.ofNat, dif_pos hcharacter]
              rfl
            refine .inl ?_
            omega
    · exact ⟨c, List.mem_singleton.2 rfl, .inl h⟩

/-! ## Places -/

theorem lowercaseAt_of_ascii {c : Char} (h : c.toNat < 128) (before after : List Char) :
    lowercaseAt before c after = [c.toLower] := by
  have hsigma : c ≠ '\u03a3' := by
    rintro rfl
    exact absurd h (by decide)
  rw [lowercaseAt, if_neg hsigma, lowercaseChar_of_ascii h]

/-- Either small sigma is beyond ASCII, so it does not matter here which of them stands for a
capital one. -/
theorem exists_foreign_lowercaseAt {c : Char} (h : 128 ≤ c.toNat) (before after : List Char) :
    ∃ d ∈ lowercaseAt before c after, Foreign d := by
  rw [lowercaseAt]
  split
  · refine ⟨_, List.mem_singleton.2 rfl, .inl ?_⟩
    split <;> decide
  · exact exists_foreign_lowercaseChar h

/-- A capital sigma is the final one behind a letter and before none. -/
example : lowercase "\u039f\u03a3 \u03a3\u0391" = "\u03bf\u03c2 \u03c3\u03b1" := by decide +kernel

/-! ## Texts -/

theorem lowercaseFrom_of_ascii {cs : List Char} (h : ∀ c ∈ cs, c.toNat < 128)
    (before : List Char) : lowercaseFrom before cs = cs.map Char.toLower := by
  induction cs generalizing before with
  | nil => rfl
  | cons c cs ih =>
      have hc := lowercaseAt_of_ascii (h c List.mem_cons_self) before cs
      rw [lowercaseFrom, hc, ih fun d hd => h d (List.mem_cons_of_mem c hd)]
      rfl

theorem exists_foreign_lowercaseFrom {cs : List Char} {c : Char} (hc : c ∈ cs)
    (h : 128 ≤ c.toNat) (before : List Char) : ∃ d ∈ lowercaseFrom before cs, Foreign d := by
  induction cs generalizing before with
  | nil => contradiction
  | cons first cs ih =>
      rw [lowercaseFrom]
      obtain rfl | hrest := List.mem_cons.1 hc
      · obtain ⟨d, hd, hforeign⟩ := exists_foreign_lowercaseAt h before cs
        exact ⟨d, List.mem_append_left _ hd, hforeign⟩
      · obtain ⟨d, hd, hforeign⟩ := ih hrest (first :: before)
        exact ⟨d, List.mem_append_right _ hd, hforeign⟩

theorem mem_asciiLower {s : String} {c : Char} (hc : c ∈ s.toList) (h : 128 ≤ c.toNat) :
    c ∈ (asciiLower s).toList := by
  rw [asciiLower, String.toList_ofList, List.mem_map]
  exact ⟨c, hc, toLower_of_not_ascii h⟩

/-- A word without foreign characters is the lower-case form of what differs from it in the
case of ASCII letters, and of nothing else. -/
theorem lowercase_eq_iff {word : String} (hword : ∀ c ∈ word.toList, ¬ Foreign c) (s : String) :
    lowercase s = word ↔ asciiLower s = word := by
  -- beyond ASCII neither side holds, as both forms of the text then have a foreign character
  by_cases hascii : ∀ c ∈ s.toList, c.toNat < 128
  · rw [lowercase, asciiLower, lowercaseFrom_of_ascii hascii]
  · obtain ⟨c, hc, hbeyond⟩ : ∃ c ∈ s.toList, 128 ≤ c.toNat := by simpa using hascii
    obtain ⟨d, hd, hforeign⟩ := exists_foreign_lowercaseFrom hc hbeyond []
    have hkept := mem_asciiLower hc hbeyond
    constructor
    · rintro rfl
      exact absurd hforeign (hword d (by simpa [lowercase] using hd))
    · rintro rfl
      exact absurd (.inl hbeyond) (hword c hkept)

end Glean.Text
