import Mathlib.Data.List.TakeWhile
import Glean.Proofs.Convert.Blanks

/-!
# Glean.Proofs.Number.Integer

Whole numbers in decimal.  A text denotes a number of a type if it is an optional sign and
digits (`IntegerType.Denotes`), and it reads as the number that it denotes, if the type has
it.  A number is read digit by digit, upwards or downwards, and the range is looked at behind
every digit (`ReadsWithin`); so the digits that follow the sign decide whether a number is
too large or too small, whatever stands behind them (`IntegerType.RunsOut`).
-/

namespace Glean

/-! ## Digits -/

theorem digit?_of_isDigit {c : Char} (h : c.isDigit = true) :
    digit? c = some (c.toNat - '0'.toNat) := by
  rw [Char.isDigit, Bool.and_eq_true, decide_eq_true_eq, decide_eq_true_eq] at h
  exact if_pos h

theorem digit?_of_not_isDigit {c : Char} (h : c.isDigit = false) : digit? c = none := by
  refine if_neg fun hrange => ?_
  rw [Char.isDigit, Bool.and_eq_false_iff, decide_eq_false_iff_not, decide_eq_false_iff_not] at h
  exact h.elim (absurd hrange.1) (absurd hrange.2)

theorem isBlank_of_isDigit {c : Char} (h : c.isDigit = true) : Text.isBlank c = false := by
  have hall : ∀ n < 58, 48 ≤ n → Text.isBlank (Char.ofNat n) = false := by decide
  rw [Char.isDigit, Bool.and_eq_true, decide_eq_true_eq, decide_eq_true_eq] at h
  have hrange : 48 ≤ c.toNat ∧ c.toNat ≤ 57 := h
  have hblank := hall c.toNat (by omega) hrange.1
  rwa [Char.ofNat_toNat] at hblank

/-- Further digits only make a number larger. -/
theorem le_ofDigitChars (cs : List Char) (n : Nat) : n ≤ Nat.ofDigitChars 10 cs n := by
  induction cs generalizing n with
  | nil => exact Nat.le_refl n
  | cons c cs ih =>
      rw [Nat.ofDigitChars_cons]
      have hnext := ih (10 * n + (c.toNat - '0'.toNat))
      omega

/-! ## Reading digit by digit -/

/-- A reader takes one digit after another into a number that must not pass a limit. -/
structure ReadsWithin (read : Int → List Char → Except IntegerError Int) (value : Nat → Int)
    (limit : Nat) (beyond : IntegerError) : Prop where
  nil (n : Nat) : read (value n) [] = .ok (value n)
  other (n : Nat) {c : Char} (h : c.isDigit = false) (rest : List Char) :
    read (value n) (c :: rest) = .error .invalidDigit
  digit (n : Nat) {c : Char} (h : c.isDigit = true) (rest : List Char) :
    read (value n) (c :: rest) =
      if 10 * n + (c.toNat - '0'.toNat) ≤ limit then
        read (value (10 * n + (c.toNat - '0'.toNat))) rest
      else .error beyond

/-- A reader gives up at the first character that is no digit, unless the digits before it
are too many already. -/
theorem ReadsWithin.read_eq {read : Int → List Char → Except IntegerError Int}
    {value : Nat → Int} {limit : Nat} {beyond : IntegerError}
    (hread : ReadsWithin read value limit beyond) {n : Nat} (hn : n ≤ limit) (cs : List Char) :
    read (value n) cs =
      if Nat.ofDigitChars 10 (cs.takeWhile Char.isDigit) n ≤ limit then
        if cs.all Char.isDigit then .ok (value (Nat.ofDigitChars 10 cs n))
        else .error .invalidDigit
      else .error beyond := by
  -- on the characters; the number read so far stays within the limit
  induction cs generalizing n with
  | nil =>
      rw [hread.nil, List.takeWhile_nil, Nat.ofDigitChars_nil, if_pos hn]
      rfl
  | cons c cs ih =>
      cases hc : c.isDigit with
      | false =>
          rw [hread.other n hc, List.takeWhile_cons_of_neg (by simp [hc]), Nat.ofDigitChars_nil,
            if_pos hn, List.all_cons, hc]
          rfl
      | true =>
          rw [hread.digit n hc, List.takeWhile_cons_of_pos hc, Nat.ofDigitChars_cons,
            List.all_cons, hc, Bool.true_and, Nat.ofDigitChars_cons]
          split
          · next hnext => exact ih hnext
          · next hnext =>
              -- the reader has stopped, while the run of digits may go on, which only adds to it
              have hmore := le_ofDigitChars (cs.takeWhile Char.isDigit)
                (10 * n + (c.toNat - '0'.toNat))
              rw [if_neg (by omega)]

/-- Where no digit stands nothing is read. -/
theorem ReadsWithin.read_eq_invalidDigit {read : Int → List Char → Except IntegerError Int}
    {value : Nat → Int} {limit : Nat} {beyond : IntegerError}
    (hread : ReadsWithin read value limit beyond) (n : Nat) {cs : List Char} (hcs : cs ≠ [])
    (hnone : ∀ c rest, cs = c :: rest → c.isDigit = false) :
    read (value n) cs = .error .invalidDigit := by
  obtain ⟨c, rest, rfl⟩ := List.exists_cons_of_ne_nil hcs
  exact hread.other n (hnone c rest rfl) rest

namespace IntegerType

theorem least_nonpos (t : IntegerType) : t.least ≤ 0 := by
  rw [least]
  split <;> omega

theorem greatest_nonneg (t : IntegerType) : 0 ≤ t.greatest := by
  have hpos (k : Nat) : 0 < Nat.pow 2 k := Nat.two_pow_pos k
  have hsigned := hpos (t.bits - 1)
  have hunsigned := hpos t.bits
  rw [greatest]
  split <;> omega

theorem readsWithin_readUp (t : IntegerType) :
    ReadsWithin t.readUp (fun n => n) t.greatest.toNat .tooLarge where
  nil n := rfl
  other n c h rest := by rw [readUp, digit?_of_not_isDigit h]
  digit n c h rest := by
    have hgreatest := t.greatest_nonneg
    have hnext : (n : Int) * 10 + (c.toNat - '0'.toNat : Nat) =
        (10 * n + (c.toNat - '0'.toNat) : Nat) := by omega
    have hlimit : ((10 * n + (c.toNat - '0'.toNat) : Nat) : Int) ≤ t.greatest ↔
        10 * n + (c.toNat - '0'.toNat) ≤ t.greatest.toNat := by omega
    rw [readUp, digit?_of_isDigit h]
    simp only [hnext, hlimit]

theorem readsWithin_readDown (t : IntegerType) :
    ReadsWithin t.readDown (fun n => -n) (-t.least).toNat .tooSmall where
  nil n := rfl
  other n c h rest := by rw [readDown, digit?_of_not_isDigit h]
  digit n c h rest := by
    have hleast := t.least_nonpos
    have hnext : -(n : Int) * 10 - (c.toNat - '0'.toNat : Nat) =
        -(10 * n + (c.toNat - '0'.toNat) : Nat) := by omega
    have hlimit : t.least ≤ -((10 * n + (c.toNat - '0'.toNat) : Nat) : Int) ↔
        10 * n + (c.toNat - '0'.toNat) ≤ (-t.least).toNat := by omega
    rw [readDown, digit?_of_isDigit h]
    simp only [hnext, hlimit]

end IntegerType

/-! ## Signs -/

/-- What may stand in front of the digits. -/
inductive Sign where
  | absent
  | plus
  | minus
deriving DecidableEq

namespace Sign

def text : Sign → List Char
  | .absent => []
  | .plus => ['+']
  | .minus => ['-']

/-- The number with this sign. -/
def apply : Sign → Nat → Int
  | .minus, n => -n
  | .absent, n | .plus, n => n

theorem ne_of_isDigit {c : Char} (h : c.isDigit = true) : c ≠ '+' ∧ c ≠ '-' := by
  constructor <;> rintro rfl <;> contradiction

/-- A sign is told by what is written, and so is what follows it, if this is a digit. -/
theorem text_append_inj {sign other : Sign} {c d : Char} {cs ds : List Char}
    (hc : c.isDigit = true) (hd : d.isDigit = true)
    (h : sign.text ++ c :: cs = other.text ++ d :: ds) :
    sign = other ∧ c :: cs = d :: ds := by
  have hsignC := ne_of_isDigit hc
  have hsignD := ne_of_isDigit hd
  cases sign <;> cases other <;> grind [text]

end Sign

/-! ## Readings -/

namespace IntegerType

/-- The type has numbers with the sign. -/
def Allows (t : IntegerType) (sign : Sign) : Prop := sign = .minus → t.signed = true

/-- The characters are a sign that the type has and digits, which denote the number. -/
def Denotes (t : IntegerType) (cs : List Char) (n : Int) : Prop :=
  ∃ sign digits, t.Allows sign ∧ cs = sign.text ++ digits ∧ digits ≠ [] ∧
    (∀ c ∈ digits, c.isDigit = true) ∧ n = sign.apply (Nat.ofDigitChars 10 digits 0)

/-- The digits that follow the sign denote a number that the type lacks, whatever stands
behind them. -/
def RunsOut (t : IntegerType) (sign : Sign) (cs : List Char) : Prop :=
  t.Allows sign ∧ ∃ body, cs = sign.text ++ body ∧
    ¬ t.Contains (sign.apply (Nat.ofDigitChars 10 (body.takeWhile Char.isDigit) 0))

/-- What a number with the sign is that its type lacks. -/
def beyond : Sign → IntegerError
  | .minus => .tooSmall
  | .absent | .plus => .tooLarge

/-- What is read behind a sign. -/
def reading (t : IntegerType) (sign : Sign) (body : List Char) : Except IntegerError Int :=
  if t.Contains (sign.apply (Nat.ofDigitChars 10 (body.takeWhile Char.isDigit) 0)) then
    if body.all Char.isDigit then .ok (sign.apply (Nat.ofDigitChars 10 body 0))
    else .error .invalidDigit
  else .error (beyond sign)

theorem readUp_eq (t : IntegerType) {sign : Sign} (hsign : sign ≠ .minus) (body : List Char) :
    t.readUp 0 body = t.reading sign body := by
  have hleast := t.least_nonpos
  have hgreatest := t.greatest_nonneg
  have hup := t.readsWithin_readUp.read_eq (Nat.zero_le _) body
  have hcontains (n : Nat) : t.Contains (sign.apply n) ↔ n ≤ t.greatest.toNat := by
    cases sign with
    | minus => contradiction
    | absent | plus => rw [Sign.apply, Contains]; omega
  rw [reading]
  simp only [hcontains]
  cases sign with
  | minus => contradiction
  | absent | plus => exact hup

theorem readDown_eq (t : IntegerType) (body : List Char) :
    t.readDown 0 body = t.reading .minus body := by
  have hleast := t.least_nonpos
  have hgreatest := t.greatest_nonneg
  have hdown := t.readsWithin_readDown.read_eq (Nat.zero_le _) body
  have hcontains (n : Nat) : t.Contains (Sign.minus.apply n) ↔ n ≤ (-t.least).toNat := by
    rw [Sign.apply, Contains]
    omega
  rw [reading]
  simp only [hcontains]
  exact hdown

/-- A sign and at least one digit are read digit by digit. -/
theorem read_of_isDigit {t : IntegerType} {sign : Sign} (hallows : t.Allows sign) {c : Char}
    (hc : c.isDigit = true) (rest : List Char) :
    t.read (sign.text ++ c :: rest) = t.reading sign (c :: rest) := by
  cases sign with
  | absent =>
      obtain ⟨hplus, hminus⟩ := Sign.ne_of_isDigit hc
      rw [← t.readUp_eq (by decide)]
      show t.read (c :: rest) = t.readUp 0 (c :: rest)
      rw [read]
      -- a digit is none of the shapes that `read` looks for first
      case x_1 => exact nofun
      case x_2 | x_3 => rintro ⟨⟩; contradiction
      case x_4 | x_5 => rintro digits ⟨⟩; contradiction
  | plus => exact t.readUp_eq (by decide) (c :: rest)
  | minus =>
      rw [← t.readDown_eq]
      exact if_pos (hallows rfl)

/-- Without a digit behind the sign nothing is read. -/
theorem read_of_not_isDigit {t : IntegerType} {cs : List Char} (hcs : cs ≠ [])
    (hnone : ∀ sign c rest, t.Allows sign → cs = sign.text ++ c :: rest → c.isDigit = false) :
    t.read cs = .error .invalidDigit := by
  rw [read.eq_def]
  split
  · contradiction
  · rfl
  · rfl
  · next digits hdigits =>
      refine t.readsWithin_readUp.read_eq_invalidDigit 0 hdigits fun c rest h => ?_
      exact hnone .plus c rest nofun (by rw [h]; rfl)
  · next digits hdigits =>
      split
      · next hsigned =>
          refine t.readsWithin_readDown.read_eq_invalidDigit 0 hdigits fun c rest h => ?_
          exact hnone .minus c rest (fun _ => hsigned) (by rw [h]; rfl)
      · rfl
  · exact t.readsWithin_readUp.read_eq_invalidDigit 0 hcs fun c rest => hnone .absent c rest nofun

/-! ## What is read -/

/-- What is wrong with characters that do not read as a number of the type. -/
def Fails (t : IntegerType) (cs : List Char) : IntegerError → Prop
  | .empty => cs = []
  | .tooLarge => ∃ sign, sign ≠ .minus ∧ t.RunsOut sign cs
  | .tooSmall => t.RunsOut .minus cs
  | .invalidDigit => cs ≠ [] ∧ (∀ sign, ¬ t.RunsOut sign cs) ∧
      ∀ n, ¬ (t.Denotes cs n ∧ t.Contains n)

/-- A number can only run out of its type if there are digits. -/
theorem RunsOut.exists_isDigit {t : IntegerType} {sign : Sign} {cs : List Char}
    (h : t.RunsOut sign cs) :
    ∃ c rest, c.isDigit = true ∧ cs = sign.text ++ c :: rest ∧
      ¬ t.Contains (sign.apply (Nat.ofDigitChars 10 ((c :: rest).takeWhile Char.isDigit) 0)) := by
  obtain ⟨hallows, body, rfl, hout⟩ := h
  have hzero : t.Contains (sign.apply 0) := by
    have hleast := t.least_nonpos
    have hgreatest := t.greatest_nonneg
    cases sign <;> exact ⟨hleast, hgreatest⟩
  cases body with
  | nil => exact absurd hzero hout
  | cons c rest =>
      cases hc : c.isDigit with
      | true => exact ⟨c, rest, hc, rfl, hout⟩
      | false =>
          rw [List.takeWhile_cons_of_neg (by simp [hc])] at hout
          exact absurd hzero hout

section Begins

variable {t : IntegerType} {sign : Sign} {c : Char} {rest : List Char}

/-- What the characters denote is told by their sign and the rest. -/
theorem denotes_iff_of_isDigit (hallows : t.Allows sign) (hc : c.isDigit = true) {n : Int} :
    t.Denotes (sign.text ++ c :: rest) n ↔
      (c :: rest).all Char.isDigit = true ∧ n = sign.apply (Nat.ofDigitChars 10 (c :: rest) 0) := by
  constructor
  · rintro ⟨other, digits, -, htext, hne, hdigits, rfl⟩
    obtain ⟨d, ds, rfl⟩ := List.exists_cons_of_ne_nil hne
    obtain ⟨rfl, hbody⟩ := Sign.text_append_inj hc (hdigits d List.mem_cons_self) htext
    rw [hbody]
    exact ⟨List.all_eq_true.2 hdigits, rfl⟩
  · rintro ⟨hall, rfl⟩
    exact ⟨sign, c :: rest, hallows, rfl, List.cons_ne_nil c rest, List.all_eq_true.1 hall, rfl⟩

/-- A number runs out of the type behind its own sign only. -/
theorem runsOut_iff_of_isDigit (hallows : t.Allows sign) (hc : c.isDigit = true) {other : Sign} :
    t.RunsOut other (sign.text ++ c :: rest) ↔ other = sign ∧
      ¬ t.Contains (sign.apply (Nat.ofDigitChars 10 ((c :: rest).takeWhile Char.isDigit) 0)) := by
  constructor
  · intro h
    obtain ⟨d, ds, hd, htext, hout⟩ := h.exists_isDigit
    obtain ⟨rfl, hbody⟩ := Sign.text_append_inj hc hd htext
    rw [hbody]
    exact ⟨rfl, hout⟩
  · rintro ⟨rfl, hout⟩
    exact ⟨hallows, c :: rest, rfl, hout⟩

/-- A reading behind a sign is the number that the characters denote, if the type has it. -/
theorem reading_eq_ok_iff (hallows : t.Allows sign) (hc : c.isDigit = true) {n : Int} :
    t.reading sign (c :: rest) = .ok n ↔
      t.Denotes (sign.text ++ c :: rest) n ∧ t.Contains n := by
  rw [denotes_iff_of_isDigit hallows hc, reading]
  cases hall : (c :: rest).all Char.isDigit with
  | false => split <;> simp
  | true =>
      have hrun : (c :: rest).takeWhile Char.isDigit = c :: rest :=
        List.takeWhile_eq_self_iff.2 (List.all_eq_true.1 hall)
      rw [hrun]
      split
      · next hin => simpa [eq_comm] using fun h : n = _ => h ▸ hin
      · next hout => simpa using fun h : n = _ => h ▸ hout

/-- A reading behind a sign fails for what is wrong with the characters. -/
theorem reading_eq_error_iff (hallows : t.Allows sign) (hc : c.isDigit = true)
    {cause : IntegerError} :
    t.reading sign (c :: rest) = .error cause ↔ t.Fails (sign.text ++ c :: rest) cause := by
  have hok (n : Int) : t.reading sign (c :: rest) = .ok n ↔
      t.Denotes (sign.text ++ c :: rest) n ∧ t.Contains n := reading_eq_ok_iff hallows hc
  have hrunsOut (other : Sign) : t.RunsOut other (sign.text ++ c :: rest) ↔ other = sign ∧
      ¬ t.Contains (sign.apply (Nat.ofDigitChars 10 ((c :: rest).takeWhile Char.isDigit) 0)) :=
    runsOut_iff_of_isDigit hallows hc
  have hne : sign.text ++ c :: rest ≠ [] := by simp
  by_cases hin : t.Contains
      (sign.apply (Nat.ofDigitChars 10 ((c :: rest).takeWhile Char.isDigit) 0))
  · have hreading : t.reading sign (c :: rest) =
        if (c :: rest).all Char.isDigit then
          .ok (sign.apply (Nat.ofDigitChars 10 (c :: rest) 0))
        else .error .invalidDigit := if_pos hin
    cases cause with
    | empty => rw [hreading]; split <;> simp [Fails, hne]
    | tooLarge => rw [hreading]; split <;> simp [Fails, hrunsOut, hin]
    | tooSmall => rw [hreading]; split <;> simp [Fails, hrunsOut, hin]
    | invalidDigit =>
        simp only [Fails, ← hok, hrunsOut, hin]
        rw [hreading]
        split <;> simp [hne]
  · have hreading : t.reading sign (c :: rest) = .error (beyond sign) := if_neg hin
    rw [hreading]
    cases cause with
    | empty => cases sign <;> simp [Fails, beyond, hne]
    | tooLarge => cases sign <;> simp [Fails, beyond, hrunsOut, hin]
    | tooSmall => cases sign <;> simp [Fails, beyond, hrunsOut, hin]
    | invalidDigit => cases sign <;> simp [Fails, beyond, hrunsOut, hin]

end Begins

section Read

variable {t : IntegerType} {cs : List Char}

/-- Characters begin with a sign and a digit, or nothing can be read. -/
theorem begins_or_read_eq (t : IntegerType) (cs : List Char) :
    (∃ sign c rest, t.Allows sign ∧ c.isDigit = true ∧ cs = sign.text ++ c :: rest) ∨
      (∀ n, ¬ t.Denotes cs n) ∧ (∀ sign, ¬ t.RunsOut sign cs) ∧
        t.read cs = .error (if cs = [] then .empty else .invalidDigit) := by
  by_cases hbegins :
      ∃ sign c rest, t.Allows sign ∧ c.isDigit = true ∧ cs = sign.text ++ c :: rest
  · exact .inl hbegins
  · refine .inr ⟨?_, ?_, ?_⟩
    · rintro n ⟨sign, digits, hallows, htext, hne, hdigits, -⟩
      obtain ⟨c, rest, rfl⟩ := List.exists_cons_of_ne_nil hne
      exact hbegins ⟨sign, c, rest, hallows, hdigits c List.mem_cons_self, htext⟩
    · intro sign hout
      obtain ⟨c, rest, hc, htext, -⟩ := hout.exists_isDigit
      exact hbegins ⟨sign, c, rest, hout.1, hc, htext⟩
    · split
      · next hnil => rw [hnil, read]
      · next hne =>
          refine read_of_not_isDigit hne fun sign c rest hallows htext => ?_
          by_contra hc
          exact hbegins ⟨sign, c, rest, hallows, by simpa using hc, htext⟩

/-- Characters read as the number that they denote, if the type has it. -/
theorem read_eq_ok_iff {n : Int} : t.read cs = .ok n ↔ t.Denotes cs n ∧ t.Contains n := by
  obtain ⟨sign, c, rest, hallows, hc, rfl⟩ | ⟨hdenotes, -, hread⟩ := begins_or_read_eq t cs
  · rw [read_of_isDigit hallows hc, reading_eq_ok_iff hallows hc]
  · simp [hread, hdenotes]

/-- Characters that read as no number fail for what is wrong with them. -/
theorem read_eq_error_iff {cause : IntegerError} :
    t.read cs = .error cause ↔ t.Fails cs cause := by
  obtain ⟨sign, c, rest, hallows, hc, rfl⟩ | ⟨hdenotes, hout, hread⟩ := begins_or_read_eq t cs
  · rw [read_of_isDigit hallows hc, reading_eq_error_iff hallows hc]
  · rw [hread]
    cases cause with
    | empty => split <;> simp_all [Fails]
    | tooLarge => split <;> simp [Fails, hout]
    | tooSmall => split <;> simp [Fails, hout]
    | invalidDigit => split <;> simp_all [Fails]

end Read

/-! ## Decimal text -/

/-- The decimal text of a number of the type denotes it. -/
theorem denotes_toString {t : IntegerType} {n : Int} (hn : t.Contains n) :
    t.Denotes (toString n).toList n := by
  have hdigits (m : Nat) : ∀ c ∈ Nat.toDigits 10 m, c.isDigit = true :=
    fun c hc => Nat.isDigit_of_mem_toDigits (by decide) (by decide) hc
  have hvalue (m : Nat) : Nat.ofDigitChars 10 (Nat.toDigits 10 m) 0 = m :=
    Nat.ofDigitChars_toDigits (by decide) (by decide)
  cases n with
  | ofNat m =>
      refine ⟨.absent, Nat.toDigits 10 m, nofun, ?_, Nat.toDigits_ne_nil, hdigits m, ?_⟩
      · exact Nat.toList_repr
      · rw [hvalue]
        rfl
  | negSucc m =>
      refine ⟨.minus, Nat.toDigits 10 (m + 1), fun _ => ?_, ?_, Nat.toDigits_ne_nil,
        hdigits (m + 1), ?_⟩
      · have hleast := hn.1
        rw [least] at hleast
        split at hleast
        · next hsigned => exact hsigned
        · omega
      · show ("-" ++ Nat.repr (m + 1)).toList = _
        rw [String.toList_append, Nat.toList_repr]
        rfl
      · rw [hvalue]
        rfl

theorem Denotes.not_blank {t : IntegerType} {cs : List Char} {n : Int} (h : t.Denotes cs n) :
    ∀ c ∈ cs, Text.isBlank c = false := by
  obtain ⟨sign, digits, -, rfl, -, hdigits, -⟩ := h
  intro c hc
  rcases List.mem_append.1 hc with hsign | hdigit
  · cases sign with
    | absent => contradiction
    | plus | minus =>
        rw [Sign.text, List.mem_singleton] at hsign
        rw [hsign]
        rfl
  · exact isBlank_of_isDigit (hdigits c hdigit)

end IntegerType

/-- **Whole numbers are read by their grammar**: a text is a number of the type exactly if,
without the blanks around it, it is a sign that the type has and digits, which denote this
number, and the type has it.  Any other text is the error that says what is wrong with it.
The decimal text of a number of the type reads as this number, whatever blanks are around
it. -/
theorem Target.convert_integer (t : IntegerType) (s : String) :
    (∀ n, (Target.integer t).convert s = .ok n ↔
      t.Denotes (Text.trimList s.toList) n ∧ t.Contains n) ∧
    (∀ e, (Target.integer t).convert s = .error e ↔
      ∃ cause, e = .invalidNumber s cause ∧ t.Fails (Text.trimList s.toList) cause) ∧
    ∀ n before after, t.Contains n → Text.isBlankText before = true →
      Text.isBlankText after = true →
      (Target.integer t).convert (before ++ toString n ++ after) = .ok n := by
  have hok (s : String) (n : Int) : (Target.integer t).convert s = .ok n ↔
      t.read (Text.trimList s.toList) = .ok n := by
    rw [Target.convert, mapError_eq_ok_iff]
  refine ⟨fun n => ?_, fun e => ?_, fun n before after hn hbefore hafter => ?_⟩
  · rw [hok, IntegerType.read_eq_ok_iff]
  · simp only [Target.convert, mapError_eq_error_iff, IntegerType.read_eq_error_iff, and_comm]
  · have hdenotes := IntegerType.denotes_toString hn
    rw [hok, Text.trimList_padded hbefore hafter, Text.trimList_eq_self hdenotes.not_blank,
      IntegerType.read_eq_ok_iff]
    exact ⟨hdenotes, hn⟩

namespace Integer

/-- The least number of 32 bits is read between blanks; the next number above the greatest is
too large whatever stands behind it, and a minus sign without digits is no number. -/
theorem convert_integer_least :
    (IntegerType.Contains ⟨32, true⟩ (-2147483648) ∧ Text.isBlankText "\t" = true ∧
      Text.isBlankText "\u3000\n" = true ∧
      (Target.integer ⟨32, true⟩).convert
        ("\t" ++ toString (-2147483648 : Int) ++ "\u3000\n") = .ok (-2147483648 : Int)) ∧
    (Target.integer ⟨32, true⟩).convert " 2147483648x" =
      .error (.invalidNumber " 2147483648x" .tooLarge) ∧
    (Target.integer ⟨32, true⟩).convert "- 1" =
      .error (.invalidNumber "- 1" .invalidDigit) := by
  have hleast : IntegerType.Contains ⟨32, true⟩ (-2147483648) := by decide
  obtain ⟨-, -, hpadded⟩ := Target.convert_integer ⟨32, true⟩ ""
  obtain ⟨-, hlarge, -⟩ := Target.convert_integer ⟨32, true⟩ " 2147483648x"
  refine ⟨⟨hleast, by decide, by decide, ?_⟩, (hlarge _).2 ⟨.tooLarge, rfl, ?_⟩, rfl⟩
  · exact hpadded _ _ _ hleast (by decide) (by decide)
  · exact ⟨.absent, by decide, nofun, "2147483648x".toList, rfl, by decide⟩

end Integer

end Glean
