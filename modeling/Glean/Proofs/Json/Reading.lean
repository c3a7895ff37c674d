import Mathlib.Tactic.SplitIfs
import Glean.Json.Document
import Glean.Json.Shape

/-!
# Glean.Proofs.Json.Reading

What readers make of compact text.  `Reads r before x after` says that `r` yields `x`
wherever the text goes on with `before`, and leaves it to go on with `after`; at which line
and column that is does not matter.  Such facts compose (`Reads.bind`), so every reader has
one lemma, which says what it makes of the text that is written for it.

Strings are read back character by character: whatever a character is escaped as is one
piece (`reads_piece`).
-/

namespace Glean.Json

/-- Where every element contributes something, the whole is no shorter than the elements are
many. -/
theorem length_le_length_flatMap {α β : Type} {f : α → List β} (h : ∀ x, f x ≠ []) (xs : List α) :
    xs.length ≤ (xs.flatMap f).length := by
  induction xs with
  | nil => exact Nat.zero_le _
  | cons x rest ih =>
      have hpos := List.length_pos_iff.2 (h x)
      rw [List.flatMap_cons, List.length_append, List.length_cons]
      omega

namespace Reader

variable {α β : Type}

/-! ## Readers -/

/-- Wherever the text goes on with `before`, the reader yields `x` and leaves `after`. -/
def Reads (r : Reader α) (before : List Char) (x : α) (after : List Char) : Prop :=
  ∀ c : Cursor, c.rest = before → ∃ c', r c = .ok (x, c') ∧ c'.rest = after

namespace Reads

variable {r : Reader α} {f : α → Reader β} {s t u : List Char} {x : α} {y : β}

theorem pure (x : α) (t : List Char) : Reads (Pure.pure x) t x t :=
  fun c hc => ⟨c, rfl, hc⟩

theorem pure_of_eq {x y : α} (h : x = y) (t : List Char) : Reads (Pure.pure x) t y t :=
  h ▸ .pure x t

/-- What a reader yields, and what it leaves, is decided by the text. -/
theorem unique (h : Reads r s x t) {x' : α} (h' : Reads r s x' u) : x = x' ∧ t = u := by
  obtain ⟨c, hc, hrest⟩ := h ⟨s, 1, 0⟩ rfl
  obtain ⟨c', hc', hrest'⟩ := h' ⟨s, 1, 0⟩ rfl
  rw [hc] at hc'
  injection hc' with hpair
  injection hpair with hx hcursor
  exact ⟨hx, by rw [← hrest, ← hrest', hcursor]⟩

theorem bind (h : Reads r s x t) (hf : Reads (f x) t y u) : Reads (r >>= f) s y u := by
  intro c hc
  obtain ⟨c', hr, hc'⟩ := h c hc
  obtain ⟨c'', hr', hc''⟩ := hf c' hc'
  refine ⟨c'', ?_, hc''⟩
  change (r c).bind (fun p => f p.1 p.2) = _
  rw [hr]
  exact hr'

theorem map {k : α → β} (h : Reads r s x t) : Reads (k <$> r) s (k x) t := by
  rw [← bind_pure_comp]
  exact h.bind (.pure (k x) t)

/-- A reader that looks at its place first reads what it reads at any such place. -/
theorem of_get {f : Cursor → Reader β} (h : ∀ c : Cursor, c.rest = s → Reads (f c) s y u) :
    Reads (get >>= f) s y u :=
  fun c hc => h c hc c hc

theorem of_set (c : Cursor) (s : List Char) : Reads (set c) s ⟨⟩ c.rest :=
  fun _ _ => ⟨c, rfl, rfl⟩

theorem of_modify {k : Cursor → Cursor} (h : ∀ c : Cursor, c.rest = s → (k c).rest = t) :
    Reads (modify k) s ⟨⟩ t :=
  fun c hc => ⟨k c, rfl, h c hc⟩

end Reads

/-! ## Characters -/

theorem reads_peek (c : Char) (t : List Char) : Reads peek? (c :: t) (some c) (c :: t) := by
  refine .of_get fun cursor hc => ?_
  rw [hc]
  exact .pure (some c) _

theorem reads_peek_nil : Reads peek? [] none [] := by
  refine .of_get fun cursor hc => ?_
  rw [hc]
  exact .pure none _

theorem reads_advance (c : Char) (t : List Char) : Reads advance (c :: t) () t := by
  refine .of_modify fun cursor hc => ?_
  rw [Cursor.advance, hc]
  split <;> simp_all

/-- A character that is no blank is not skipped. -/
theorem skipSpace_rest {c : Char} (h : Cursor.isSpace c = false) {cursor : Cursor}
    {t : List Char} (hc : cursor.rest = c :: t) : cursor.skipSpace.rest = c :: t := by
  have hbreak : c ≠ '\n' := by
    rintro rfl
    cases h
  rw [Cursor.skipSpace, hc, Cursor.skipSpace.go, if_neg hbreak, if_neg (by simp [h])]

theorem reads_token {c : Char} (h : Cursor.isSpace c = false) (t : List Char) :
    Reads token? (c :: t) (some c) (c :: t) :=
  (Reads.of_modify fun _ hc => skipSpace_rest h hc).bind (reads_peek c t)

theorem reads_token_nil : Reads token? [] none [] :=
  (Reads.of_modify fun cursor hc => by rw [Cursor.skipSpace, hc, Cursor.skipSpace.go]).bind
    reads_peek_nil

theorem reads_valueStart {c : Char} (h : Cursor.isSpace c = false) (t : List Char) :
    Reads valueStart (c :: t) c (c :: t) :=
  (reads_token h t).bind (.pure c _)

theorem reads_keyword (word t : List Char) : Reads (keyword word) (word ++ t) () t := by
  induction word with
  | nil => exact .pure () t
  | cons c word ih =>
      refine (reads_peek c (word ++ t)).bind ?_
      simp only [if_true]
      exact (reads_advance c (word ++ t)).bind ih

/-! ## Escapes -/

/-- Four hexadecimal digits are read as the number that they denote. -/
theorem reads_fourDigits {x y z w : Char} (t : List Char)
    (h : [x, y, z, w].all (fun d => (Text.hexValue? d).isSome) = true) :
    Reads fourDigits (x :: y :: z :: w :: t) (Text.hexNumber [x, y, z, w]) t := by
  refine .of_get fun cursor hc => ?_
  rw [hc]
  simp only [h, if_true]
  exact (Reads.of_set _ _).bind (.pure _ t)

/-- A character below the surrogates is read back from its number. -/
theorem reads_numericEscape {c x y z w : Char} (t : List Char) (h : c.toNat < 0xd800)
    (hdigits : [x, y, z, w].all (fun d => (Text.hexValue? d).isSome) = true)
    (hnumber : Text.hexNumber [x, y, z, w] = c.toNat) :
    Reads numericEscape (x :: y :: z :: w :: t) c t := by
  have hlow : isLowSurrogate c.toNat = false := by
    simp only [isLowSurrogate, Bool.and_eq_false_iff, decide_eq_false_iff_not]
    omega
  have hhigh : isHighSurrogate c.toNat = false := by
    simp only [isHighSurrogate, Bool.and_eq_false_iff, decide_eq_false_iff_not]
    omega
  refine (reads_fourDigits t hdigits).bind ?_
  rw [hnumber]
  simp only [hlow, hhigh, Bool.false_eq_true, if_false, Char.ofNat_toNat]
  exact .pure c t

/-- The digits of a control character, behind two zeros, denote it. -/
theorem hexNumber_control {n : Nat} (h : n < 0x20) :
    ∃ z w, (if n < 0x10 then '0' :: Nat.toDigits 16 n else Nat.toDigits 16 n) = [z, w] ∧
      ['0', '0', z, w].all (fun d => (Text.hexValue? d).isSome) = true ∧
      Text.hexNumber ['0', '0', z, w] = n := by
  have hzero : Text.hexValue? '0' = some 0 := rfl
  have hone : Text.hexValue? '1' = some 1 := rfl
  by_cases hsmall : n < 0x10
  · refine ⟨'0', n.digitChar, ?_, ?_, ?_⟩
    · rw [if_pos hsmall, Nat.toDigits_of_lt_base hsmall]
    · simp [hzero, Text.hexValue?_digitChar n hsmall]
    · simp [Text.hexNumber, hzero, Text.hexValue?_digitChar n hsmall]
  · have hlow : n % 16 < 16 := Nat.mod_lt n (by decide)
    refine ⟨'1', (n % 16).digitChar, ?_, ?_, ?_⟩
    · rw [if_neg hsmall, Nat.toDigits_of_base_le (by decide) (by omega),
        show n / 16 = 1 by omega]
      rfl
    · simp [hzero, hone, Text.hexValue?_digitChar _ hlow]
    · simp [Text.hexNumber, hzero, hone, Text.hexValue?_digitChar _ hlow]
      omega

/-- A character is escaped by a letter that stands for it, or by its number if it is a
control, or else stands for itself. -/
theorem escapeChar_cases (c : Char) :
    (∃ y, escapeChar c = ['\\', y] ∧ y ≠ 'u' ∧ shortEscape? y = some c) ∨
      (∃ z w, escapeChar c = ['\\', 'u', '0', '0', z, w] ∧ c.toNat < 0x20 ∧
        ['0', '0', z, w].all (fun d => (Text.hexValue? d).isSome) = true ∧
        Text.hexNumber ['0', '0', z, w] = c.toNat) ∨
      (escapeChar c = [c] ∧ c ≠ '"' ∧ c ≠ '\\' ∧ 0x20 ≤ c.toNat) := by
  generalize htext : escapeChar c = text
  rw [escapeChar] at htext
  split_ifs at htext with hquote hslash hb hf hn hr ht hsmall hcontrol <;> subst htext
  · exact .inl ⟨'"', rfl, by decide, by rw [hquote]; rfl⟩
  · exact .inl ⟨'\\', rfl, by decide, by rw [hslash]; rfl⟩
  · obtain rfl : c = '\x08' := Char.toNat_inj.1 hb
    exact .inl ⟨'b', rfl, by decide, rfl⟩
  · obtain rfl : c = '\x0c' := Char.toNat_inj.1 hf
    exact .inl ⟨'f', rfl, by decide, rfl⟩
  · exact .inl ⟨'n', rfl, by decide, hn ▸ rfl⟩
  · exact .inl ⟨'r', rfl, by decide, hr ▸ rfl⟩
  · exact .inl ⟨'t', rfl, by decide, ht ▸ rfl⟩
  · obtain ⟨z, w, hzw, hdigits, hnumber⟩ := hexNumber_control (by omega : c.toNat < 0x20)
    rw [if_pos hsmall] at hzw
    refine .inr (.inl ⟨z, w, ?_, by omega, hdigits, hnumber⟩)
    rw [← hzw]
    rfl
  · obtain ⟨z, w, hzw, hdigits, hnumber⟩ := hexNumber_control hcontrol
    rw [if_neg hsmall] at hzw
    refine .inr (.inl ⟨z, w, ?_, hcontrol, hdigits, hnumber⟩)
    rw [← hzw]
    rfl
  · exact .inr (.inr ⟨rfl, hquote, hslash, Nat.le_of_not_lt hcontrol⟩)

/-! ## Strings -/

/-- What a character is escaped as is one piece. -/
theorem reads_piece (c : Char) (t : List Char) : Reads piece (escapeChar c ++ t) (some c) t := by
  rcases escapeChar_cases c with ⟨y, htext, hy, hshort⟩ | ⟨z, w, htext, hlt, hdigits, hnumber⟩ |
    ⟨htext, hquote, hslash, hle⟩
  · rw [htext]
    refine (reads_peek '\\' _).bind ((reads_advance '\\' _).bind ((reads_peek y _).bind ?_))
    split
    · next hnone => cases hnone
    · next hu =>
        injection hu with hu
        exact absurd hu hy
    · next x hx =>
        injection hx with hx
        subst hx
        simp only [hshort]
        exact (reads_advance y t).bind (.pure (some c) t)
  · rw [htext]
    refine (reads_peek '\\' _).bind ((reads_advance '\\' _).bind ((reads_peek 'u' _).bind ?_))
    exact (reads_advance 'u' _).bind
      (Reads.map (reads_numericEscape t (by omega) hdigits hnumber))
  · rw [htext]
    refine (reads_peek c _).bind ?_
    split
    · next hnone => cases hnone
    · next hx =>
        injection hx with hx
        exact absurd hx hquote
    · next hx =>
        injection hx with hx
        exact absurd hx hslash
    · next x hx =>
        injection hx with hx
        subst hx
        rw [if_neg (Nat.not_lt_of_le hle)]
        exact (reads_advance c t).bind (.pure (some c) t)

theorem reads_piece_quote (t : List Char) : Reads piece ('"' :: t) none t :=
  (reads_peek '"' t).bind ((reads_advance '"' t).bind (.pure none t))

theorem escapeChar_ne_nil (c : Char) : escapeChar c ≠ [] := by
  rcases escapeChar_cases c with ⟨y, htext, -⟩ | ⟨z, w, htext, -⟩ | ⟨htext, -⟩ <;> simp [htext]

/-- The pieces up to the quote are the characters that have been escaped. -/
theorem reads_pieces {bound : Nat} {s : List Char} (h : s.length < bound) (seen t : List Char) :
    Reads (pieces bound seen) (s.flatMap escapeChar ++ '"' :: t) (seen.reverse ++ s) t := by
  induction s generalizing bound seen with
  | nil =>
      cases bound with
      | zero => cases h
      | succ bound =>
          rw [List.append_nil]
          exact (reads_piece_quote t).bind (.pure seen.reverse t)
  | cons c rest ih =>
      cases bound with
      | zero => cases h
      | succ bound =>
          have hrest := ih (Nat.lt_of_succ_lt_succ h) (c :: seen)
          rw [List.reverse_cons, List.append_assoc] at hrest
          rw [List.flatMap_cons, List.append_assoc]
          exact (reads_piece c _).bind hrest

theorem reads_string (s : String) (t : List Char) :
    Reads string (s.toList.flatMap escapeChar ++ '"' :: t) s t := by
  refine .of_get fun cursor hc => ?_
  have hbound : s.toList.length < cursor.rest.length + 1 := by
    have hle := length_le_length_flatMap escapeChar_ne_nil s.toList
    rw [hc, List.length_append]
    omega
  refine (reads_pieces hbound [] t).bind ?_
  rw [List.reverse_nil, List.nil_append, String.ofList_toList]
  exact .pure s t

/-- A string is read back from its JSON text. -/
theorem reads_text (expected s : String) (t : List Char) :
    Reads (text expected) (stringText s ++ t) s t := by
  have htext : stringText s ++ t = '"' :: (s.toList.flatMap escapeChar ++ '"' :: t) := by
    simp [stringText]
  rw [htext]
  exact (reads_valueStart rfl _).bind ((reads_advance '"' _).bind (reads_string s t))

end Reader

end Glean.Json
