import Glean.Convert
import Glean.Proofs.Text.Trimmed

/-!
# Glean.Proofs.Convert.Blanks

Blanks and typed readings.  What a text reads as does not depend on the blanks around it; an
error does, but only in the text that it quotes (`ReadAlike`).  Options add one reading, the
outermost `none`, and only for blank text: below any number of them any other text reads as
it does without them, so no layer but the outermost is ever empty (`Target.Filled`).
-/

namespace Glean

/-! ## Outcomes whose errors are put in other words -/

theorem mapError_eq_ok_iff {α ε δ : Type} {x : Except ε α} {f : ε → δ} {a : α} :
    x.mapError f = .ok a ↔ x = .ok a := by
  cases x with
  | ok b => constructor <;> rintro ⟨⟩ <;> rfl
  | error e => exact ⟨nofun, nofun⟩

theorem mapError_eq_error_iff {α ε δ : Type} {x : Except ε α} {f : ε → δ} {d : δ} :
    x.mapError f = .error d ↔ ∃ e, x = .error e ∧ d = f e := by
  cases x with
  | ok a => exact ⟨nofun, nofun⟩
  | error e =>
      constructor
      · intro h
        cases h
        exact ⟨e, rfl, rfl⟩
      · rintro ⟨_, ⟨⟩, rfl⟩
        rfl

/-! ## Readings that come to the same -/

/-- What is wrong with a text, apart from the text itself. -/
inductive Misreading where
  | number (cause : IntegerError)
  | float (cause : FloatError)
  | bool

/-- The error that quotes a text. -/
def Misreading.quoting (text : String) : Misreading → ParseError
  | .number cause => .invalidNumber text cause
  | .float cause => .invalidFloat text cause
  | .bool => .invalidBool text

/-- Readings of two texts have the same value, or fail for the same reason, each quoting its
own text. -/
inductive ReadAlike (s t : String) {α : Type} :
    Except ParseError α → Except ParseError α → Prop where
  | value (x : α) : ReadAlike s t (.ok x) (.ok x)
  | fault (m : Misreading) : ReadAlike s t (.error (m.quoting s)) (.error (m.quoting t))

namespace ReadAlike

variable {s t : String} {α β : Type}

theorem map {x y : Except ParseError α} (h : ReadAlike s t x y) (f : α → β) :
    ReadAlike s t (x.map f) (y.map f) := by
  cases h with
  | value a => exact .value (f a)
  | fault m => exact .fault m

/-- One outcome, whose failures quote different texts. -/
theorem mapError {ε : Type} (x : Except ε α) (reason : ε → Misreading) :
    ReadAlike s t (x.mapError fun e => (reason e).quoting s)
      (x.mapError fun e => (reason e).quoting t) := by
  cases x with
  | ok a => exact .value a
  | error e => exact .fault (reason e)

end ReadAlike

/-- Blanks around a text do not change its reading. -/
theorem Target.readAlike_padded {before after : String}
    (hbefore : Text.isBlankText before = true) (hafter : Text.isBlankText after = true)
    (target : Target) (s : String) :
    ReadAlike (before ++ s ++ after) s (target.convert (before ++ s ++ after))
      (target.convert s) := by
  -- each layer of options looks for blanks by itself, and hands the whole text on
  induction target with
  | integer type =>
      rw [Target.convert, Target.convert, Text.trimList_padded hbefore hafter]
      exact .mapError _ .number
  | float format =>
      rw [Target.convert, Target.convert, Text.trimList_padded hbefore hafter]
      exact .mapError _ .float
  | bool =>
      have hword : readBool (before ++ s ++ after) = readBool s := by
        rw [readBool, readBool, Text.trim_padded hbefore hafter]
      rw [Target.convert, Target.convert, hword]
      cases readBool s with
      | some b => exact .value b
      | none => exact .fault .bool
  | text =>
      rw [Target.convert, Target.convert, Text.trim_padded hbefore hafter]
      exact .value _
  | optional inner ih =>
      rw [Target.convert, Target.convert, Text.isBlankText_padded hbefore hafter]
      cases Text.isBlankText s with
      | true => exact .value none
      | false => exact ih.map some

/-! ## Layers of options -/

/-- A target below a number of options. -/
def Target.options (base : Target) : Nat → Target
  | 0 => base
  | layers + 1 => .optional (base.options layers)

/-- A value below a number of options, all of them there. -/
def Target.somes {base : Target} : (layers : Nat) → base.Val → (base.options layers).Val
  | 0, x => x
  | layers + 1, x => some (Target.somes layers x)

/-- Every option in the value is there. -/
def Target.Filled : (target : Target) → target.Val → Prop
  | .optional _, none => False
  | .optional inner, some x => inner.Filled x
  | .integer _, _ | .float _, _ | .bool, _ | .text, _ => True

theorem Target.convert_optional_of_blank {s : String} (h : Text.isBlankText s = true)
    (inner : Target) : (Target.optional inner).convert s = .ok none := by
  rw [Target.convert, if_pos h]

theorem Target.convert_optional_of_not_blank {s : String} (h : Text.isBlankText s = false)
    (inner : Target) : (Target.optional inner).convert s = (inner.convert s).map some := by
  rw [Target.convert, h]
  rfl

/-- Options do not matter to a text that is not blank. -/
theorem Target.convert_options {s : String} (h : Text.isBlankText s = false) (base : Target)
    (layers : Nat) :
    (base.options layers).convert s = (base.convert s).map (Target.somes layers) := by
  induction layers with
  | zero =>
      show base.convert s = (base.convert s).map id
      cases base.convert s <;> rfl
  | succ layers ih =>
      show (Target.optional (base.options layers)).convert s = _
      rw [Target.convert_optional_of_not_blank h, ih]
      cases base.convert s <;> rfl

/-- A text that is not blank fills every option. -/
theorem Target.filled_of_convert {s : String} (h : Text.isBlankText s = false) {target : Target}
    {x : target.Val} (hx : target.convert s = .ok x) : target.Filled x := by
  induction target with
  | integer _ | float _ | bool | text => exact True.intro
  | optional inner ih =>
      rw [Target.convert_optional_of_not_blank h] at hx
      cases hy : inner.convert s with
      | error cause =>
          rw [hy] at hx
          contradiction
      | ok y =>
          rw [hy] at hx
          cases hx
          exact ih hy

/-- **Blanks around a text do not matter, and options add one reading**: whatever blanks are
put around a text, it reads as the same value or fails for the same reason.  Below one or
more options blank text is the outermost `none`; any other text reads as it does without
them, in as many `some`s, and fails with the same error; and no option below the outermost
is ever empty. -/
theorem Target.convert_blanks (base : Target) (layers : Nat) (s : String) :
    (∀ before after, Text.isBlankText before = true → Text.isBlankText after = true →
      ReadAlike (before ++ s ++ after) s ((base.options layers).convert (before ++ s ++ after))
        ((base.options layers).convert s)) ∧
    (Text.isBlankText s = true → (base.options (layers + 1)).convert s = .ok none) ∧
    (Text.isBlankText s = false →
      (base.options (layers + 1)).convert s =
        (base.convert s).map (Target.somes (layers + 1))) ∧
    ∀ x, (base.options (layers + 1)).convert s = .ok (some x) →
      (base.options layers).Filled x := by
  refine ⟨fun before after hbefore hafter => ?_, fun hblank => ?_, fun hfull => ?_,
    fun x hx => ?_⟩
  · exact Target.readAlike_padded hbefore hafter _ s
  · exact Target.convert_optional_of_blank hblank _
  · exact Target.convert_options hfull base (layers + 1)
  · cases hblank : Text.isBlankText s with
    | true =>
        have hnone := Target.convert_optional_of_blank hblank (base.options layers)
        exact absurd (hx.symm.trans hnone) nofun
    | false =>
        have hfilled : (base.options (layers + 1)).Filled (some x) :=
          Target.filled_of_convert hblank hx
        exact hfilled

namespace Blanks

/-- A whole number of 32 bits with a sign. -/
def whole : Target := .integer ⟨32, true⟩

/-- Below two options a number reads as it does without them, whatever stands around it, a
bare line break is the outermost `none`, though it is no number, and a word is the error that
it is without them. -/
theorem convert_blanks_whole :
    ((Text.isBlankText "\t" = true ∧ Text.isBlankText "\u3000" = true ∧
      ReadAlike ("\t" ++ "-7" ++ "\u3000") "-7"
        ((whole.options 2).convert ("\t" ++ "-7" ++ "\u3000")) ((whole.options 2).convert "-7")) ∧
      (whole.options 2).convert "-7" = .ok (some (some (-7 : Int))) ∧
      (whole.options 1).Filled (some (-7 : Int))) ∧
    (Text.isBlankText "\n" = true ∧ (whole.options 2).convert "\n" = .ok none ∧
      whole.convert "\n" = .error (.invalidNumber "\n" .empty)) ∧
    Text.isBlankText " seven" = false ∧
      (whole.options 2).convert " seven" = .error (.invalidNumber " seven" .invalidDigit) := by
  obtain ⟨-, -, hfull, hfilled⟩ := Target.convert_blanks whole 1 "-7"
  obtain ⟨-, hblank, -⟩ := Target.convert_blanks whole 1 "\n"
  obtain ⟨-, -, hword, -⟩ := Target.convert_blanks whole 1 " seven"
  have hseven : (whole.options 2).convert "-7" = .ok (some (some (-7 : Int))) := hfull (by decide)
  obtain ⟨hpadded, -⟩ := Target.convert_blanks whole 2 "-7"
  exact ⟨⟨⟨by decide, by decide, hpadded _ _ (by decide) (by decide)⟩, hseven, hfilled _ hseven⟩,
    ⟨by decide, hblank (by decide), by rfl⟩, by decide, hword (by decide)⟩

end Blanks

end Glean
