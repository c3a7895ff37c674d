import Glean.Proofs.Text.Separate
import Glean.Text.Ascii
import Glean.Text.Quoted

/-!
# Glean.Proofs.Text.Quoted

Text between quotes is told by what is written, and ends at its second quote whatever stands
behind it (`separate_quoteList`).  The escapes of characters are separate, and none begins
like the closing quote.
-/

namespace Glean.Text

/-! ## Code points -/

theorem isSome_hexValue?_of_mem {n : Nat} {c : Char} (h : c ∈ hexDigits n) :
    (hexValue? c).isSome = true := by
  induction n using Nat.strongRecOn with
  | ind n ih =>
      rw [hexDigits, Nat.toDigits_eq_if (by decide)] at h
      by_cases hsmall : n < 16
      · rw [if_pos hsmall, List.mem_singleton] at h
        rw [h, hexValue?_digitChar n hsmall]
        rfl
      · rw [if_neg hsmall, List.mem_append, List.mem_singleton] at h
        rcases h with h | h
        · exact ih (n / 16) (by omega) h
        · rw [h, hexValue?_digitChar (n % 16) (Nat.mod_lt n (by decide))]
          rfl

/-- The digits of a number denote it. -/
theorem hexNumber_hexDigits (n : Nat) : hexNumber (hexDigits n) = n := by
  induction n using Nat.strongRecOn with
  | ind n ih =>
      rw [hexDigits, Nat.toDigits_eq_if (by decide)]
      by_cases hsmall : n < 16
      · rw [if_pos hsmall]
        simp [hexNumber, hexValue?_digitChar n hsmall]
      · have hhigh := ih (n / 16) (by omega)
        have hlow := hexValue?_digitChar (n % 16) (Nat.mod_lt n (by decide))
        rw [hexNumber, hexDigits] at hhigh
        rw [if_neg hsmall, hexNumber, List.foldl_append, hhigh]
        simp [hlow]
        omega

/-! ## Characters -/

/-- The characters with an escape of two letters, each with the second of them. -/
def shortEscapes : List (Char × Char) :=
  [('"', '"'), ('\\', '\\'), ('\n', 'n'), ('\r', 'r'), ('\t', 't'), ('\x00', '0')]

/-- What can be written for a character between quotes. -/
inductive Quoted (c : Char) : List Char → Prop where
  | plain (quote : c ≠ '"') (backslash : c ≠ '\\') : Quoted c [c]
  | short {letter : Char} (listed : (c, letter) ∈ shortEscapes) : Quoted c ['\\', letter]
  | code : Quoted c ('\\' :: 'u' :: '\x7b' :: (hexDigits c.toNat ++ ['\x7d']))

theorem quoted_quoteChar (c : Char) : Quoted c (quoteChar c) := by
  unfold quoteChar
  split
  · next h => subst h; exact .short (by decide)
  split
  · next h => subst h; exact .short (by decide)
  split
  · next h => subst h; exact .short (by decide)
  split
  · next h => subst h; exact .short (by decide)
  split
  · next h => subst h; exact .short (by decide)
  split
  · next h =>
      obtain rfl : c = '\x00' := Char.toNat_inj.1 h
      exact .short (by decide)
  split
  · next quote backslash _ _ _ _ _ => exact .plain quote backslash
  · exact .code

/-- The letter of a short escape tells the character. -/
theorem shortEscapes_inj {c d letter : Char} (hc : (c, letter) ∈ shortEscapes)
    (hd : (d, letter) ∈ shortEscapes) : c = d := by
  have hall : ∀ p ∈ shortEscapes, ∀ q ∈ shortEscapes, p.2 = q.2 → p.1 = q.1 := by decide
  exact hall _ hc _ hd rfl

theorem ne_of_mem_shortEscapes {c letter : Char} (h : (c, letter) ∈ shortEscapes) :
    letter ≠ 'u' := by
  have hall : ∀ p ∈ shortEscapes, p.2 ≠ 'u' := by decide
  exact hall _ h

/-- Code points in braces tell the character and where they end. -/
theorem eq_of_code {c d : Char} {s t : List Char}
    (heq : hexDigits c.toNat ++ '\x7d' :: s = hexDigits d.toNat ++ '\x7d' :: t) :
    c = d ∧ s = t := by
  have hrun := eq_of_run (p := fun x => (hexValue? x).isSome) (fun _ => isSome_hexValue?_of_mem)
    (fun _ => isSome_hexValue?_of_mem) rfl rfl heq
  obtain ⟨hdigits, hrest⟩ := hrun
  injection hrest with _ hst
  have hcode : c.toNat = d.toNat := by
    rw [← hexNumber_hexDigits c.toNat, hdigits, hexNumber_hexDigits]
  exact ⟨Char.toNat_inj.1 hcode, hst⟩

/-- What is written for a character is separate. -/
theorem Quoted.eq_of_append {c d : Char} {u v : List Char} (hc : Quoted c u) (hd : Quoted d v)
    {s t : List Char} (heq : u ++ s = v ++ t) : c = d ∧ s = t := by
  cases hc with
  | plain quote backslash =>
      cases hd with
      | plain _ _ =>
          injection heq with hcd hst
          exact ⟨hcd, hst⟩
      | short _ =>
          injection heq with hcd _
          exact absurd hcd backslash
      | code =>
          injection heq with hcd _
          exact absurd hcd backslash
  | short listed =>
      cases hd with
      | plain _ backslash =>
          injection heq with hcd _
          exact absurd hcd.symm backslash
      | short listed' =>
          injection heq with _ heq
          injection heq with hletter hst
          subst hletter
          exact ⟨shortEscapes_inj listed listed', hst⟩
      | code =>
          injection heq with _ heq
          injection heq with hletter _
          exact absurd hletter (ne_of_mem_shortEscapes listed)
  | code =>
      cases hd with
      | plain _ backslash =>
          injection heq with hcd _
          exact absurd hcd.symm backslash
      | short listed =>
          injection heq with _ heq
          injection heq with hletter _
          exact absurd hletter.symm (ne_of_mem_shortEscapes listed)
      | code =>
          simp only [List.cons_append, List.append_assoc, List.cons.injEq, true_and,
            List.nil_append] at heq
          exact eq_of_code heq

theorem separate_quoteChar (c : Char) : Separate quoteChar c :=
  fun d _ _ heq => (quoted_quoteChar c).eq_of_append (quoted_quoteChar d) heq

/-! ## Text -/

theorem quoteChar_ne_quote (c : Char) (s t : List Char) : quoteChar c ++ s ≠ '"' :: t := by
  intro heq
  generalize hu : quoteChar c = u at heq
  have hc : Quoted c u := hu ▸ quoted_quoteChar c
  cases hc with
  | plain quote _ =>
      injection heq with hquote _
      exact quote hquote
  | short _ | code =>
      injection heq with hquote _
      exact absurd hquote (by decide)

/-- Text between quotes is separate. -/
theorem separate_quoteList (cs : List Char) : Separate quoteList cs := by
  intro ds s t heq
  rw [quoteList, quoteList, List.append_assoc, List.append_assoc] at heq
  injection heq with _ hinside
  exact eq_of_closed (P := fun _ => True) (E := fun _ => True) (fun _ _ => trivial)
    (fun c _ => ⟨trivial, (separate_quoteChar c).before⟩) (fun c _ => quoteChar_ne_quote c)
    (fun _ _ => trivial) hinside

end Glean.Text
