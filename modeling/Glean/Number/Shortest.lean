import Glean.Number.Decimal

/-!
# Glean.Number.Shortest

The shortest decimal that reads back as a given floating point number.  The
reals that round to a number form an interval around it, which holds its ends
iff the significand is even.  For one digit, two digits, and so on, the two
neighbours of the number on that decimal grid are tried; the first grid with a
neighbour inside the interval gives the digits, the nearer one of two.
-/

namespace Glean

/-! ## The interval -/

/-- A positive number and the interval that rounds to it, all over one denominator. -/
structure Rounding where
  value : Nat
  below : Nat
  above : Nat
  denominator : Nat
  /-- Whether the ends of the interval round to the number too. -/
  closed : Bool

/-- The interval that rounds to `m * 2 ^ e`. -/
def FloatFormat.rounding (f : FloatFormat) (m : Nat) (e : Int) : Rounding :=
  -- a quarter of the last place is a whole number of units
  let lower :=
    if m = Nat.pow 2 (f.precision - 1) ∧ f.leastExponent < e then 4 * m - 1 else 4 * m - 2
  let (scale, den) := if e < 2 then (1, Nat.pow 2 (2 - e).toNat) else (Nat.pow 2 (e - 2).toNat, 1)
  ⟨4 * m * scale, lower * scale, (4 * m + 2) * scale, den, m % 2 == 0⟩

/-- Whether `coefficient * 10 ^ exponent` rounds to the number. -/
def Rounding.covers (r : Rounding) (coefficient : Nat) (exponent : Int) : Bool :=
  let (num, den) :=
    if exponent < 0 then (coefficient, Nat.pow 10 (-exponent).toNat)
    else (coefficient * Nat.pow 10 exponent.toNat, 1)
  let x := num * r.denominator
  if r.closed then r.below * den ≤ x && x ≤ r.above * den
  else r.below * den < x && x < r.above * den

/-- The whole multiple of `10 ^ exponent` that is at most the number, and
whether the next one is nearer. -/
def Rounding.floor (r : Rounding) (exponent : Int) : Nat × Bool :=
  let (num, den) :=
    if exponent < 0 then (r.value * Nat.pow 10 (-exponent).toNat, r.denominator)
    else (r.value, r.denominator * Nat.pow 10 exponent.toNat)
  (num / den, den < 2 * (num % den))

/-! ## The search -/

/-- Try the grids from `10 ^ exponent` down to finer ones. -/
def Rounding.search (r : Rounding) : Nat → Int → DecimalLiteral
  | 0, exponent => ⟨(r.floor exponent).1, exponent⟩
  | fuel + 1, exponent =>
    let (low, nextIsNearer) := r.floor exponent
    let hitsLow := 0 < low && r.covers low exponent
    let hitsHigh := r.covers (low + 1) exponent
    if hitsHigh && (nextIsNearer || !hitsLow) then ⟨low + 1, exponent⟩
    else if hitsLow then ⟨low, exponent⟩
    else r.search fuel (exponent - 1)

/-- The shortest decimal that reads back as `m * 2 ^ e`, for a positive `m`. -/
def FloatFormat.shortest (f : FloatFormat) (m : Nat) (e : Int) : DecimalLiteral :=
  let r := f.rounding m e
  let digits (n : Nat) : Int := (Nat.toDigits 10 n).length
  -- one grid above the leading digit is coarse enough
  r.search 800 (digits r.value - digits r.denominator + 1)

/-! ## Text -/

/-- A decimal written with a point only where its digits need one. -/
def DecimalLiteral.positional (x : DecimalLiteral) : List Char :=
  let digits := Nat.toDigits 10 x.coefficient
  if 0 ≤ x.exponent then digits ++ List.replicate x.exponent.toNat '0'
  else
    let places := (-x.exponent).toNat
    let padded := List.replicate (places + 1 - digits.length) '0' ++ digits
    let split := padded.length - places
    padded.take split ++ '.' :: padded.drop split

/-- Drop the trailing zeros of the coefficient, with a bound on their number. -/
def DecimalLiteral.strip : Nat → DecimalLiteral → DecimalLiteral
  | 0, x => x
  | fuel + 1, x =>
    if x.coefficient ≠ 0 ∧ x.coefficient % 10 = 0 then
      strip fuel ⟨x.coefficient / 10, x.exponent + 1⟩
    else x

/-- A number in full: no exponent, and no point unless a fraction follows. -/
def FloatFormat.display (f : FloatFormat) : FloatNumber → String
  | .nan => "NaN"
  | .infinite negative => if negative then "-inf" else "inf"
  | .finite negative m e =>
    let body := if m = 0 then ['0'] else ((f.shortest m e).strip 400).positional
    String.ofList (if negative then '-' :: body else body)

/-- How a number is written that shows it is no integer. -/
structure FloatStyle where
  /-- The least power of ten that is written without an exponent. -/
  least : Int
  /-- Whether an exponent that is not negative has a plus sign. -/
  plus : Bool
deriving DecidableEq, Repr

/-- An exponent behind its letter. -/
def FloatStyle.exponent (s : FloatStyle) (e : Int) : List Char :=
  (if e < 0 then ['-'] else if s.plus then ['+'] else []) ++ Nat.toDigits 10 e.natAbs

/-- A number that shows it is no integer: with a point, or with an exponent
from `1e16` upwards and for small numbers. -/
def FloatFormat.displayExact (f : FloatFormat) (style : FloatStyle) : FloatNumber → String
  | .nan => "NaN"
  | .infinite negative => if negative then "-inf" else "inf"
  | .finite negative m e =>
    let body :=
      if m = 0 then ['0', '.', '0']
      else
        let x := (f.shortest m e).strip 400
        let digits := Nat.toDigits 10 x.coefficient
        let leading : Int := digits.length + x.exponent - 1
        if 16 ≤ leading ∨ leading < style.least then
          let mantissa :=
            match digits with
            | d :: rest => if rest.isEmpty then [d] else d :: '.' :: rest
            | [] => []
          mantissa ++ 'e' :: style.exponent leading
        else if 0 ≤ x.exponent then x.positional ++ ['.', '0']
        else x.positional
    String.ofList (if negative then '-' :: body else body)

end Glean
