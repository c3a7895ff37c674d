import Glean.Number.Arithmetic

/-!
# Glean.Css.Numeric

The numbers of CSS text.  A number is kept as it is written; its value is found
in double precision, digit by digit, and then held in single precision.  Every
step rounds, so a number with many digits can miss the one nearest to it.
-/

namespace Glean.Css

/-- A number as it is written: sign, digits, digits after the point, exponent. -/
structure Numeric where
  sign : Option Char
  whole : List Char
  fraction : Option (List Char)
  exponent : Option Int
deriving DecidableEq, Repr

/-! ## Digits -/

section

variable (f : FloatFormat)

/-- The digit as a number of the format. -/
def digitNumber (c : Char) : FloatNumber := f.ofNat ((digit? c).getD 0)

/-- The number that digits denote: each is added to ten times what stands before it. -/
def wholeNumber (digits : List Char) : FloatNumber :=
  digits.foldl (fun sum c => f.add (f.mul sum (f.ofNat 10)) (digitNumber f c)) (f.ofNat 0)

/-- The number that digits behind a point denote, where `place` is what the
first one counts and each next place is a tenth of it. -/
def fractionNumber (sum place : FloatNumber) : List Char → FloatNumber
  | [] => sum
  | c :: rest =>
    let sum := f.add sum (f.mul (digitNumber f c) place)
    fractionNumber sum (f.mul place (f.powerOfTen (-1))) rest

end

/-! ## Values -/

namespace Numeric

/-- Whether the number is written with a minus sign. -/
def isNegative (n : Numeric) : Bool := n.sign == some '-'

/-- The whole number that is written, held between the bounds of 32 bits;
`none` if there is a point or an exponent. -/
def int? (n : Numeric) : Option Int :=
  if n.fraction.isSome || n.exponent.isSome then none
  else
    let magnitude : Int := digitsValue n.whole
    let bound : Int := Nat.pow 2 31
    some (max (-bound) (min (bound - 1) (if n.isNegative then -magnitude else magnitude)))

/-- The value in double precision. -/
def double (n : Numeric) : FloatNumber :=
  let f := FloatFormat.binary64
  let fraction := fractionNumber f (f.ofNat 0) (f.powerOfTen (-1)) (n.fraction.getD [])
  let magnitude := f.add (wholeNumber f n.whole) fraction
  let signed := if n.isNegative then magnitude.neg else magnitude
  match n.exponent with
  | none => signed
  | some exponent => f.mul signed (f.powerOfTen exponent)

/-- The value in single precision. -/
def single (n : Numeric) : FloatNumber := FloatFormat.binary32.convert n.double

/-- A hundredth of the value in single precision. -/
def singleHundredth (n : Numeric) : FloatNumber :=
  FloatFormat.binary32.convert
    (FloatFormat.binary64.div n.double (FloatFormat.binary64.ofNat 100))

end Numeric

end Glean.Css
