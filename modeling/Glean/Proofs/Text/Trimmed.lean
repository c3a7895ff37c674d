import Mathlib.Data.List.TakeWhile
import Glean.Text.Blank

/-!
# Glean.Proofs.Text.Trimmed

Blanks around a text.  Trimming takes off whatever blanks are added in front of a text or
behind it (`trimList_padded`), and whether a text is blank does not depend on them
(`isBlankText_padded`).
-/

namespace Glean.Text

/-! ## Characters -/

theorem trimList_append_left {before : List Char} (h : before.all isBlank = true)
    (cs : List Char) : trimList (before ++ cs) = trimList cs := by
  rw [trimList, trimList, List.dropWhile_append_of_pos (List.all_eq_true.1 h)]

theorem trimList_append_right {after : List Char} (h : after.all isBlank = true)
    (cs : List Char) : trimList (cs ++ after) = trimList cs := by
  have hback : ∀ c ∈ after.reverse, isBlank c = true := by simpa using h
  rw [trimList, trimList, List.dropWhile_append]
  split
  · next hblank =>
      rw [List.isEmpty_iff] at hblank
      rw [hblank, List.dropWhile_eq_nil_iff.2 (List.all_eq_true.1 h)]
  · rw [List.reverse_append, List.dropWhile_append_of_pos hback]

/-- Characters none of which is blank are left as they are. -/
theorem trimList_eq_self {cs : List Char} (h : ∀ c ∈ cs, isBlank c = false) :
    trimList cs = cs := by
  have hkept {ds : List Char} (hds : ∀ c ∈ ds, isBlank c = false) : ds.dropWhile isBlank = ds :=
    List.dropWhile_eq_self_iff.2 fun hne => by simp [hds _ (List.getElem_mem hne)]
  have hback : ∀ c ∈ cs.reverse, isBlank c = false := by simpa using h
  rw [trimList, hkept h, hkept hback, List.reverse_reverse]

/-! ## Texts -/

variable {before after : String}

theorem trimList_padded (hbefore : isBlankText before = true) (hafter : isBlankText after = true)
    (s : String) : trimList (before ++ s ++ after).toList = trimList s.toList := by
  rw [String.toList_append, String.toList_append, trimList_append_right hafter,
    trimList_append_left hbefore]

theorem trim_padded (hbefore : isBlankText before = true) (hafter : isBlankText after = true)
    (s : String) : trim (before ++ s ++ after) = trim s := by
  rw [trim, trim, trimList_padded hbefore hafter]

theorem isBlankText_padded (hbefore : isBlankText before = true)
    (hafter : isBlankText after = true) (s : String) :
    isBlankText (before ++ s ++ after) = isBlankText s := by
  rw [isBlankText] at hbefore hafter ⊢
  simp [isBlankText, hbefore, hafter]

end Glean.Text
