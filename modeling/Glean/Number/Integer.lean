/-!
# Glean.Number.Integer

Reading a decimal integer into a fixed range.  A text is an optional sign and
one or more ASCII digits; a minus sign belongs to the signed types only.  The
range is checked after every digit, so a number that has already left its
range is reported as such whatever follows it.
-/

namespace Glean

/-! ## Integer types -/

/-- An integer type: how many bits it has and whether it has a sign. -/
structure IntegerType where
  bits : Nat
  signed : Bool
deriving DecidableEq, Repr

namespace IntegerType

/-- The least value of the type. -/
def least (t : IntegerType) : Int := if t.signed then -(Nat.pow 2 (t.bits - 1) : Int) else 0

/-- The greatest value of the type. -/
def greatest (t : IntegerType) : Int :=
  if t.signed then Nat.pow 2 (t.bits - 1) - 1 else Nat.pow 2 t.bits - 1

/-- Whether the number is a value of the type. -/
def Contains (t : IntegerType) (n : Int) : Prop := t.least ≤ n ∧ n ≤ t.greatest

instance (t : IntegerType) (n : Int) : Decidable (t.Contains n) := by
  unfold Contains; infer_instance

end IntegerType

/-! ## Errors -/

/-- Why a text is no integer of a type. -/
inductive IntegerError where
  | empty
  | invalidDigit
  | tooLarge
  | tooSmall
deriving DecidableEq, Repr

/-- The wording of an integer error. -/
def IntegerError.message : IntegerError → String
  | .empty => "cannot parse integer from empty string"
  | .invalidDigit => "invalid digit found in string"
  | .tooLarge => "number too large to fit in target type"
  | .tooSmall => "number too small to fit in target type"

/-! ## Reading -/

/-- The value of an ASCII digit. -/
def digit? (c : Char) : Option Nat :=
  if '0' ≤ c ∧ c ≤ '9' then some (c.toNat - '0'.toNat) else none

namespace IntegerType

/-- Read digits upwards from `acc`, failing at the first digit that leaves the type. -/
def readUp (t : IntegerType) (acc : Int) : List Char → Except IntegerError Int
  | [] => .ok acc
  | c :: rest =>
    match digit? c with
    | none => .error .invalidDigit
    | some d =>
      let next := acc * 10 + d
      if next ≤ t.greatest then t.readUp next rest else .error .tooLarge

/-- Read digits downwards from `acc`, failing at the first digit that leaves the type. -/
def readDown (t : IntegerType) (acc : Int) : List Char → Except IntegerError Int
  | [] => .ok acc
  | c :: rest =>
    match digit? c with
    | none => .error .invalidDigit
    | some d =>
      let next := acc * 10 - d
      if t.least ≤ next then t.readDown next rest else .error .tooSmall

/-- Read a whole text as a number of the type. -/
def read (t : IntegerType) : List Char → Except IntegerError Int
  | [] => .error .empty
  | ['+'] => .error .invalidDigit
  | ['-'] => .error .invalidDigit
  | '+' :: digits => t.readUp 0 digits
  | '-' :: digits => if t.signed then t.readDown 0 digits else .error .invalidDigit
  | digits => t.readUp 0 digits

end IntegerType

end Glean
