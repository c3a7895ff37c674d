import Glean.Number.Decimal

/-!
# Glean.Number.Arithmetic

Arithmetic on floating point numbers.  Each operation takes numbers of any
format, finds the exact result in whole numbers and rounds it once, to the
nearest number of a format, so that a tie goes to the even neighbour.
-/

namespace Glean

/-! ## Exact values -/

/-- `m * 2 ^ e` as a quotient of whole numbers. -/
def dyadic (m : Nat) (e : Int) : Nat × Nat :=
  if e < 0 then (m, Nat.pow 2 (-e).toNat) else (m * Nat.pow 2 e.toNat, 1)

/-- `m * 2 ^ e` counted in units of `2 ^ unit`, which is no coarser. -/
def signedUnits (unit : Int) (negative : Bool) (m : Nat) (e : Int) : Int :=
  let magnitude : Int := (m * Nat.pow 2 (e - unit).toNat : Nat)
  if negative then -magnitude else magnitude

namespace FloatNumber

/-- Whether there is a minus sign, which a zero may have too. -/
def isNegative : FloatNumber → Bool
  | .nan => false
  | .infinite negative => negative
  | .finite negative _ _ => negative

/-- Whether the number is a zero of either sign. -/
def isZero : FloatNumber → Bool
  | .finite _ m _ => m == 0
  | _ => false

/-- Whether the number is neither infinite nor no number at all. -/
def isFinite : FloatNumber → Bool
  | .finite .. => true
  | _ => false

/-- The number with the other sign. -/
def neg : FloatNumber → FloatNumber
  | .nan => .nan
  | .infinite negative => .infinite !negative
  | .finite negative m e => .finite (!negative) m e

end FloatNumber

/-! ## Operations -/

namespace FloatFormat

/-- The number of the format nearest to `num / den`, which may be zero. -/
def nearest (f : FloatFormat) (negative : Bool) (num den : Nat) : FloatNumber :=
  if num = 0 then .finite negative 0 f.leastExponent else f.roundPositive negative num den

/-- The number of the format nearest to a power of ten. -/
def powerOfTen (f : FloatFormat) (exponent : Int) : FloatNumber := f.round false ⟨1, exponent⟩

/-- The number of the format nearest to a whole number. -/
def ofNat (f : FloatFormat) (n : Nat) : FloatNumber := f.nearest false n 1

/-- The number of the format nearest to a number of any format. -/
def convert (f : FloatFormat) : FloatNumber → FloatNumber
  | .finite negative m e =>
    let (num, den) := dyadic m e
    f.nearest negative num den
  | x => x

/-- The sum of two numbers.  Opposite numbers add up to the zero without a minus sign. -/
def add (f : FloatFormat) : FloatNumber → FloatNumber → FloatNumber
  | .nan, _ | _, .nan => .nan
  | .infinite a, .infinite b => if a = b then .infinite a else .nan
  | .infinite a, _ | _, .infinite a => .infinite a
  | .finite a m e, .finite b n k =>
    let unit := min e k
    let sum := signedUnits unit a m e + signedUnits unit b n k
    let (num, den) := dyadic sum.natAbs unit
    f.nearest (if sum = 0 then a && b else sum < 0) num den

/-- The product of two numbers.  Zero times infinity is no number. -/
def mul (f : FloatFormat) : FloatNumber → FloatNumber → FloatNumber
  | .nan, _ | _, .nan => .nan
  | .finite a m e, .finite b n k =>
    let (num, den) := dyadic (m * n) (e + k)
    f.nearest (a != b) num den
  | x, y => if x.isZero || y.isZero then .nan else .infinite (x.isNegative != y.isNegative)

/-- The quotient of two numbers.  Zero by zero and infinity by infinity are no numbers. -/
def div (f : FloatFormat) : FloatNumber → FloatNumber → FloatNumber
  | .nan, _ | _, .nan => .nan
  | .infinite _, .infinite _ => .nan
  | .infinite a, .finite b _ _ => .infinite (a != b)
  | .finite a _ _, .infinite b => f.nearest (a != b) 0 1
  | .finite a m e, .finite b n k =>
    if n = 0 then if m = 0 then .nan else .infinite (a != b)
    else
      let (num, den) := dyadic m (e - k)
      f.nearest (a != b) num (den * n)

end FloatFormat

end Glean
