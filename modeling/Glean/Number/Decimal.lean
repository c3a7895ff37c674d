import Glean.Text.Lowercase
import Glean.Number.Integer

/-!
# Glean.Number.Decimal

Decimal floating point text and the binary number nearest to it.

A literal is an optional sign and either one of the words `inf`, `infinity`
and `nan` (in any ASCII case) or digits with at most one point among them,
at least one digit in all, and an optional exponent.  Its value is the exact
rational `coefficient * 10 ^ exponent`; rounding goes to the nearest number of
the format and a tie goes to the even neighbour, all in whole numbers.
-/

namespace Glean

/-! ## Formats -/

/-- A binary interchange format: `precision` significant bits (the hidden one
included) and an exponent field of `exponentBits` bits. -/
structure FloatFormat where
  precision : Nat
  exponentBits : Nat
deriving DecidableEq, Repr

namespace FloatFormat

/-- Single precision. -/
def binary32 : FloatFormat := ⟨24, 8⟩

/-- Double precision. -/
def binary64 : FloatFormat := ⟨53, 11⟩

/-- The exponent bias. -/
def bias (f : FloatFormat) : Int := Nat.pow 2 (f.exponentBits - 1) - 1

/-- The exponent of the last bit of a subnormal number. -/
def leastExponent (f : FloatFormat) : Int := 1 - f.bias - (f.precision - 1 : Nat)

/-- The exponent of the last bit of the largest numbers. -/
def greatestExponent (f : FloatFormat) : Int := f.bias - (f.precision - 1 : Nat)

end FloatFormat

/-! ## Numbers -/

/-- A floating point number; a finite one is `significand * 2 ^ exponent`. -/
inductive FloatNumber where
  | nan
  | infinite (negative : Bool)
  | finite (negative : Bool) (significand : Nat) (exponent : Int)
deriving DecidableEq, Repr

/-- The bit pattern of a number in a format: sign, exponent field, fraction. -/
def FloatNumber.bits (f : FloatFormat) : FloatNumber → Nat
  | .nan => exponentField + Nat.pow 2 (f.precision - 2)
  | .infinite negative => sign negative + exponentField
  | .finite negative m e =>
    if m < Nat.pow 2 (f.precision - 1) then sign negative + m
    else sign negative + ((e - f.leastExponent).toNat + 1) * Nat.pow 2 (f.precision - 1) +
      (m - Nat.pow 2 (f.precision - 1))
where
  /-- The exponent field of what is no finite number, in its place. -/
  exponentField : Nat := (Nat.pow 2 f.exponentBits - 1) * Nat.pow 2 (f.precision - 1)
  /-- The sign bit in its place. -/
  sign (negative : Bool) : Nat :=
    if negative then Nat.pow 2 (f.precision - 1 + f.exponentBits) else 0

/-! ## Rounding -/

/-- The whole number nearest to `num / den`, the even one of two. -/
def roundQuotient (num den : Nat) : Nat :=
  let q := num / den
  let twice := 2 * (num % den)
  if twice < den then q else if den < twice then q + 1 else if q % 2 = 0 then q else q + 1

/-- The number of the format nearest to the positive rational `num / den`. -/
def FloatFormat.roundPositive (f : FloatFormat) (negative : Bool) (num den : Nat) : FloatNumber :=
  -- the exponent that leaves a quotient of about `precision` bits, or one more
  let guess : Int := (Nat.log2 num : Int) - Nat.log2 den - f.precision
  let e := max guess f.leastExponent
  let scaled (e : Int) : Nat × Nat :=
    if e < 0 then (num * Nat.pow 2 (-e).toNat, den) else (num, den * Nat.pow 2 e.toNat)
  let (n, d) := scaled e
  let (n, d, e) :=
    if n / d < Nat.pow 2 f.precision then (n, d, e)
    else let (n, d) := scaled (e + 1); (n, d, e + 1)
  let m := roundQuotient n d
  let (m, e) := if m = Nat.pow 2 f.precision then (Nat.pow 2 (f.precision - 1), e + 1) else (m, e)
  if f.greatestExponent < e then .infinite negative else .finite negative m e

/-! ## Literals -/

/-- A decimal literal: the exact value is `coefficient * 10 ^ exponent`. -/
structure DecimalLiteral where
  coefficient : Nat
  exponent : Int
deriving DecidableEq, Repr

/-- Exponents beyond this many decimal orders of magnitude overflow or vanish in every format. -/
def decimalHorizon : Int := 400

/-- The number of the format nearest to a literal. -/
def FloatFormat.round (f : FloatFormat) (negative : Bool) (x : DecimalLiteral) : FloatNumber :=
  if x.coefficient = 0 then .finite negative 0 f.leastExponent
  else
    let magnitude : Int := (Nat.toDigits 10 x.coefficient).length + x.exponent
    if decimalHorizon < magnitude then .infinite negative
    else if magnitude < -decimalHorizon then .finite negative 0 f.leastExponent
    else if x.exponent < 0 then
      f.roundPositive negative x.coefficient (Nat.pow 10 (-x.exponent).toNat)
    else f.roundPositive negative (x.coefficient * Nat.pow 10 x.exponent.toNat) 1

/-- Why a text is no floating point number. -/
inductive FloatError where
  | empty
  | invalid
deriving DecidableEq, Repr

/-- The wording of a floating point error. -/
def FloatError.message : FloatError → String
  | .empty => "cannot parse float from empty string"
  | .invalid => "invalid float literal"

/-- Whether the character is an ASCII digit. -/
def isDigit (c : Char) : Bool := (digit? c).isSome

/-- The number that a row of digits denotes. -/
def digitsValue (cs : List Char) : Nat :=
  cs.foldl (fun acc c => acc * 10 + (digit? c).getD 0) 0

/-- Read an exponent after its letter: an optional sign and at least one digit, to the end. -/
def readExponent (cs : List Char) : Option Int :=
  let (negative, digits) :=
    match cs with
    | '+' :: rest => (false, rest)
    | '-' :: rest => (true, rest)
    | _ => (false, cs)
  if digits.isEmpty || !digits.all isDigit then none
  else some (if negative then -(digitsValue digits : Int) else digitsValue digits)

/-- Read an unsigned literal to its end. -/
def DecimalLiteral.read (cs : List Char) : Option DecimalLiteral :=
  let (whole, rest) := cs.span isDigit
  let (fraction, rest) :=
    match rest with
    | '.' :: rest => rest.span isDigit
    | _ => ([], rest)
  if whole.isEmpty && fraction.isEmpty then none
  else
    let literal : DecimalLiteral := ⟨digitsValue (whole ++ fraction), -(fraction.length : Int)⟩
    match rest with
    | [] => some literal
    | c :: rest =>
      if c = 'e' ∨ c = 'E' then
        (readExponent rest).map fun e => { literal with exponent := literal.exponent + e }
      else none

/-- Read a whole text as a number of the format. -/
def FloatFormat.read (f : FloatFormat) (cs : List Char) : Except FloatError FloatNumber :=
  let (negative, body) :=
    match cs with
    | '+' :: rest => (false, rest)
    | '-' :: rest => (true, rest)
    | _ => (false, cs)
  if cs.isEmpty then .error .empty
  else
    match DecimalLiteral.read body with
    | some literal => .ok (f.round negative literal)
    | none =>
      let word := String.ofList (body.map Char.toLower)
      if word = "nan" then .ok .nan
      else if word = "inf" ∨ word = "infinity" then .ok (.infinite negative)
      else .error .invalid

end Glean
