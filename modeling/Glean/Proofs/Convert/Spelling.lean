import Glean.Convert
import Glean.Proofs.Text.Lowercase

/-!
# Glean.Proofs.Convert.Spelling

The spellings of true and false.  A text is lowered by the whole of Unicode before it is
looked up, but none of the spellings can come from a character beyond ASCII; so a text is a
spelling exactly if it differs from it in the case of ASCII letters alone.
-/

namespace Glean

/-- No spelling has a character that lower-casing makes of one beyond ASCII. -/
theorem not_foreign_of_mem_words :
    ∀ word ∈ trueWords ++ falseWords, ∀ c ∈ word.toList, ¬ Text.Foreign c := by
  -- as a Boolean test: a quantifier over characters would be decided by going through them all
  have hall : (trueWords ++ falseWords).all (fun word =>
      word.toList.all fun c => decide (¬ Text.Foreign c)) = true := by decide
  intro word hword c hc
  have hword := List.all_eq_true.1 hall word hword
  exact of_decide_eq_true (List.all_eq_true.1 hword c hc)

/-- The spellings are in lower case. -/
theorem asciiLower_of_mem_words :
    ∀ word ∈ trueWords ++ falseWords, Text.asciiLower word = word := by
  decide

/-- A text is lowered to a spelling exactly if it is this spelling in some ASCII case. -/
theorem lowercase_mem_iff {words : List String} (h : words ⊆ trueWords ++ falseWords)
    (s : String) : Text.lowercase s ∈ words ↔
      ∃ word ∈ words, Text.equalsIgnoringAsciiCase s word = true := by
  have heq : ∀ word ∈ words,
      (Text.lowercase s = word ↔ Text.equalsIgnoringAsciiCase s word = true) := by
    intro word hword
    rw [Text.lowercase_eq_iff (not_foreign_of_mem_words word (h hword)),
      Text.equalsIgnoringAsciiCase, asciiLower_of_mem_words word (h hword), beq_iff_eq]
  constructor
  · intro hmem
    exact ⟨_, hmem, (heq _ hmem).1 rfl⟩
  · rintro ⟨word, hword, hsame⟩
    rwa [(heq word hword).2 hsame]

/-! ## Readings -/

theorem not_mem_trueWords_of_mem : ∀ word ∈ falseWords, word ∉ trueWords := by
  decide

section Outcomes

variable {s : String}

theorem convert_bool_eq (s : String) : Target.bool.convert s =
    if Text.lowercase (Text.trim s) ∈ trueWords then .ok true
    else if Text.lowercase (Text.trim s) ∈ falseWords then .ok false
    else .error (.invalidBool s) := by
  have hread : readBool s = if Text.lowercase (Text.trim s) ∈ trueWords then some true
      else if Text.lowercase (Text.trim s) ∈ falseWords then some false else none := rfl
  rw [Target.convert, hread]
  by_cases htrue : Text.lowercase (Text.trim s) ∈ trueWords
  · rw [if_pos htrue, if_pos htrue]
  · rw [if_neg htrue, if_neg htrue]
    by_cases hfalse : Text.lowercase (Text.trim s) ∈ falseWords
    · rw [if_pos hfalse, if_pos hfalse]
    · rw [if_neg hfalse, if_neg hfalse]

theorem convert_bool_true_iff :
    Target.bool.convert s = .ok true ↔ Text.lowercase (Text.trim s) ∈ trueWords := by
  rw [convert_bool_eq]
  split
  · next htrue => simp [htrue]
  · next htrue => split <;> simp [htrue]

theorem convert_bool_false_iff :
    Target.bool.convert s = .ok false ↔ Text.lowercase (Text.trim s) ∈ falseWords := by
  have hdisjoint := not_mem_trueWords_of_mem (Text.lowercase (Text.trim s))
  rw [convert_bool_eq]
  split
  · next htrue => simpa using fun hfalse => hdisjoint hfalse htrue
  · split
    · next hfalse => simp [hfalse]
    · next hfalse => simp [hfalse]

theorem convert_bool_error_iff {e : ParseError} : Target.bool.convert s = .error e ↔
    e = .invalidBool s ∧ Text.lowercase (Text.trim s) ∉ trueWords ++ falseWords := by
  rw [convert_bool_eq, List.mem_append]
  split
  · next htrue => simp [htrue]
  · next htrue =>
      split
      · next hfalse => simp [hfalse]
      · next hfalse => simp [htrue, hfalse, eq_comm]

end Outcomes

/-- **True and false are read by their spellings**: a text is true, or false, exactly if,
without the blanks around it, it is one of the spellings but for the case of ASCII letters;
any other text is an error that quotes it.  In particular no text is read that has a
character beyond ASCII, though some of these have ASCII letters in their lower case. -/
theorem Target.convert_bool (s : String) :
    (Target.bool.convert s = .ok true ↔ ∃ word ∈ ["true", "1", "yes", "on"],
      Text.equalsIgnoringAsciiCase (Text.trim s) word = true) ∧
    (Target.bool.convert s = .ok false ↔ ∃ word ∈ ["false", "0", "no", "off", ""],
      Text.equalsIgnoringAsciiCase (Text.trim s) word = true) ∧
    (∀ e, Target.bool.convert s = .error e ↔ e = .invalidBool s ∧
      ∀ word ∈ ["true", "1", "yes", "on", "false", "0", "no", "off", ""],
        Text.equalsIgnoringAsciiCase (Text.trim s) word = false) ∧
    ∀ c ∈ (Text.trim s).toList, 128 ≤ c.toNat →
      Target.bool.convert s = .error (.invalidBool s) := by
  have hall := lowercase_mem_iff (List.Subset.refl (trueWords ++ falseWords)) (Text.trim s)
  have hnone : Text.lowercase (Text.trim s) ∉ trueWords ++ falseWords ↔
      ∀ word ∈ trueWords ++ falseWords,
        Text.equalsIgnoringAsciiCase (Text.trim s) word = false := by
    rw [hall]
    simp only [not_exists, not_and, Bool.not_eq_true]
  refine ⟨?_, ?_, fun e => ?_, fun c hc hbeyond => ?_⟩
  · rw [convert_bool_true_iff]
    exact lowercase_mem_iff (List.subset_append_left trueWords falseWords) _
  · rw [convert_bool_false_iff]
    exact lowercase_mem_iff (List.subset_append_right trueWords falseWords) _
  · rw [convert_bool_error_iff, hnone]
    rfl
  · refine convert_bool_error_iff.2 ⟨rfl, hnone.2 fun word hword => ?_⟩
    rw [Text.equalsIgnoringAsciiCase, asciiLower_of_mem_words word hword, beq_eq_false_iff_ne]
    rintro rfl
    exact not_foreign_of_mem_words _ hword c (Text.mem_asciiLower hc hbeyond) (.inl hbeyond)

namespace Spelling

/-- A spelling is read in any case and between blanks.  A text with a Kelvin sign is not,
though it is ASCII in lower case. -/
theorem convert_bool_kelvin :
    Target.bool.convert " On\t" = .ok true ∧
    ('\u212a' ∈ (Text.trim " o\u212a\n").toList ∧ 128 ≤ '\u212a'.toNat ∧
      Text.lowercase (Text.trim " o\u212a\n") = "ok" ∧
      Target.bool.convert " o\u212a\n" = .error (.invalidBool " o\u212a\n")) := by
  obtain ⟨htrue, -⟩ := Target.convert_bool " On\t"
  obtain ⟨-, -, -, hbeyond⟩ := Target.convert_bool " o\u212a\n"
  have hmem : '\u212a' ∈ (Text.trim " o\u212a\n").toList := by decide
  exact ⟨htrue.2 ⟨"on", by decide, by decide⟩, hmem, by decide, by decide +kernel,
    hbeyond _ hmem (by decide)⟩

end Spelling

end Glean
