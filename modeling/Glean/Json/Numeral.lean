import Glean.Json.Cursor
import Glean.Number.Arithmetic

/-!
# Glean.Json.Numeral

Numbers in a JSON text.  No configuration holds one, but a message names the
number that stands where something else was expected.  A numeral without
fraction and exponent is an integer if it fits into 64 bits.  Any other is a
double: as many digits as fit into 64 bits, rounded, and then multiplied or
divided by a rounded power of ten.
-/

namespace Glean.Json

/-! ## Scaling by powers of ten -/

/-- The largest power of ten that is a double. -/
def greatestTen : Nat := 308

/-- A finite double below `10 ^ greatestTen` shifted by decimal places; infinite
if that is out of range.  Nothing is left of it after two of the largest steps. -/
def shiftTen (x : FloatNumber) (exponent : Int) : FloatNumber :=
  let f := FloatFormat.binary64
  if x.isZero then x
  else if greatestTen < exponent then .infinite x.isNegative
  else if 0 ≤ exponent then f.mul x (f.powerOfTen exponent)
  else
    let places := (-exponent).toNat
    if places ≤ greatestTen then f.div x (f.powerOfTen places)
    else if places ≤ 2 * greatestTen then
      f.div (f.div x (f.powerOfTen greatestTen)) (f.powerOfTen (places - greatestTen))
    else f.nearest x.isNegative 0 1

/-! ## Numerals -/

/-- The parts of a numeral as they are written. -/
structure Numeral where
  negative : Bool
  whole : List Char
  fraction : List Char
  /-- Whether the exponent is negative, and its digits. -/
  exponent : Option (Bool × List Char)
deriving DecidableEq, Repr

/-- The greatest number of 64 bits. -/
def significandLimit : Nat := Nat.pow 2 64 - 1

/-- The greatest number of 31 bits. -/
def exponentLimit : Nat := Nat.pow 2 31 - 1

/-- Append digits to a significand until one does not fit; also how many were appended. -/
def appendDigits (significand taken : Nat) : List Char → Nat × Nat
  | [] => (significand, taken)
  | c :: rest =>
    let next := significand * 10 + (digit? c).getD 0
    if next ≤ significandLimit then appendDigits next (taken + 1) rest else (significand, taken)

/-- The number that the digits of an exponent denote, or how many of them are
left after the first one that is too much. -/
def exponentValue (acc : Nat) : List Char → Except Nat Nat
  | [] => .ok acc
  | c :: rest =>
    let next := acc * 10 + (digit? c).getD 0
    if next ≤ exponentLimit then exponentValue next rest else .error rest.length

namespace Numeral

/-- The double nearest to a whole number, with the sign of a numeral. -/
def signed (n : Numeral) (significand : Nat) : FloatNumber :=
  FloatFormat.binary64.nearest n.negative significand 1

/-- A significand shifted by decimal places; out of range only at the end of the numeral. -/
def shifted (n : Numeral) (significand : Nat) (exponent : Int) : Except Nat Found :=
  let x := shiftTen (n.signed significand) exponent
  if x.isFinite then .ok (.float x) else .error 0

/-- What a numeral denotes.  One that is out of range is known to be so before
all of it is read; the error is the number of characters that are left then. -/
def value (n : Numeral) : Except Nat Found :=
  let (whole, taken) := appendDigits 0 0 n.whole
  let dropped := n.whole.length - taken
  if dropped = 0 ∧ n.fraction = [] ∧ n.exponent = none then
    if !n.negative then .ok (.integer whole)
    else if 0 < whole ∧ whole ≤ Nat.pow 2 63 then .ok (.integer (-whole))
    else n.shifted whole 0
  else
    let (significand, places) := appendDigits whole 0 n.fraction
    let scale : Int := dropped - places
    match n.exponent with
    | none => n.shifted significand scale
    | some (down, digits) =>
      match exponentValue 0 digits with
      | .ok e => n.shifted significand (if down then scale - e else scale + e)
      | .error left => if significand = 0 ∨ down then .ok (.float (n.signed 0)) else .error left

end Numeral

/-! ## Reading -/

namespace Reader

/-- At least one digit, which may be missing at the end of the text or otherwise. -/
def someDigits (atEnd : Cause) : Reader (List Char) := do
  match ← digits with
  | [] => failNext (if (← peek?).isNone then atEnd else .invalidNumber)
  | ds => return ds

/-- The digits before the point: a zero stands alone. -/
def wholeDigits (atEnd : Cause) : Reader (List Char) := do
  match ← peek? with
  | some '0' =>
    advance
    match ← peek? with
    | some c => if isDigit c then failNext .invalidNumber else return ['0']
    | none => return ['0']
  | _ => someDigits atEnd

/-- The sign of an exponent, if there is one. -/
def exponentSign : Reader Bool := do
  match ← peek? with
  | some '+' =>
    advance
    return false
  | some '-' =>
    advance
    return true
  | _ => return false

/-- A numeral; `atEnd` is why the end of the text may not come inside it. -/
def numeral (atEnd : Cause) : Reader Numeral := do
  let negative := (← peek?) == some '-'
  if negative then advance
  let whole ← wholeDigits atEnd
  let mut fraction := []
  if (← peek?) == some '.' then
    advance
    fraction ← someDigits atEnd
  let mark ← peek?
  if mark == some 'e' || mark == some 'E' then
    advance
    let down ← exponentSign
    return ⟨negative, whole, fraction, some (down, ← someDigits atEnd)⟩
  return ⟨negative, whole, fraction, none⟩

/-- A number. -/
def number : Reader Found := do
  let n ← numeral .endInValue
  match n.value with
  | .ok x => return x
  | .error left =>
    let c ← get
    throw ⟨.numberOutOfRange, ⟨c.line, c.column - left⟩⟩

end Reader

end Glean.Json
