import Std.Data.HashMap
import Glean.Number.Decimal
import Glean.Text.Ascii
import Glean.Html.Reference.Names

/-!
# Glean.Html.Reference

Character references: an ampersand and a name, or a number in decimal or
hexadecimal.  A name is read as far as some known name goes; inside an
attribute a name without its semicolon does not count if it could go on, so
that the parameters of an address survive.
-/

namespace Glean.Html

open Text (isAsciiLetter hexValue? hexNumber charOfCode)

/-! ## Names -/

/-- The name and the characters of an entry of the table. -/
def readEntry (entry : String) : String × List Char :=
  match entry.splitOn "=" with
  | [name, codes] => (name, (codes.splitOn ",").map fun c => Char.ofNat (hexNumber c.toList))
  | _ => (entry, [])

/-- What the names stand for. -/
def referenceTable : Std.HashMap String (List Char) :=
  Std.HashMap.ofList (referenceNames.flatMap fun line => (line.splitOn " ").map readEntry)

/-- The greatest length of a name. -/
def longestName : Nat := 33

/-- Whether the character can stand in a name, or in an address behind one. -/
def isAlphanumeric (c : Char) : Bool := isAsciiLetter c || isDigit c

/-- The longest known name at the front of a text: whether it has its semicolon,
what it stands for and what follows it. -/
def readName? (table : Std.HashMap String (List Char)) :
    Nat → String → List Char → Option (Bool × List Char × List Char)
  | 0, _, _ => none
  | _ + 1, _, [] => none
  | limit + 1, seen, c :: rest =>
    if c = ';' then (table.get? (seen.push c)).map fun value => (true, value, rest)
    else if isAlphanumeric c then
      let seen := seen.push c
      (readName? table limit seen rest).or ((table.get? seen).map fun value => (false, value, rest))
    else none

/-! ## Numbers -/

/-- What the code points 0x80 to 0x9f are taken for. -/
def controlReplacements : List Nat :=
  [0x20ac, 0x81, 0x201a, 0x0192, 0x201e, 0x2026, 0x2020, 0x2021, 0x02c6, 0x2030, 0x0160, 0x2039,
    0x0152, 0x8d, 0x017d, 0x8f, 0x90, 0x2018, 0x2019, 0x201c, 0x201d, 0x2022, 0x2013, 0x2014,
    0x02dc, 0x2122, 0x0161, 0x203a, 0x0153, 0x9d, 0x017e, 0x0178]

/-- The character of a numeric reference. -/
def numericCharacter (n : Nat) : Char :=
  if 0x80 ≤ n ∧ n ≤ 0x9f then Char.ofNat (controlReplacements.getD (n - 0x80) n)
  else charOfCode n

/-- A numeric reference behind its `#`: whether it has its semicolon, what it
stands for and what follows it. -/
def readNumber? (cs : List Char) : Option (Bool × List Char × List Char) :=
  let (digits, value, rest) :=
    match cs with
    | 'x' :: rest | 'X' :: rest =>
      let (digits, rest) := rest.span fun c => (hexValue? c).isSome
      (digits, hexNumber digits, rest)
    | _ =>
      let (digits, rest) := cs.span isDigit
      (digits, digitsValue digits, rest)
  if digits.isEmpty then none
  else
    match rest with
    | ';' :: rest => some (true, [numericCharacter value], rest)
    | _ => some (false, [numericCharacter value], rest)

/-- Whether a text begins with a numeric reference that lacks its semicolon. -/
def startsOpenNumber : List Char → Bool
  | '&' :: '#' :: rest => (readNumber? rest).any fun (closed, _, _) => !closed
  | _ => false

/-! ## References -/

/-- The reference behind an ampersand: its characters and what follows it.
`none` if the ampersand stands for itself. -/
def readReference? (inAttribute : Bool) (cs : List Char) : Option (List Char × List Char) :=
  match cs with
  | '#' :: rest => (readNumber? rest).map fun (_, value, rest) => (value, rest)
  | _ =>
    match readName? referenceTable longestName "" cs with
    | none => none
    | some (closed, value, rest) =>
      let goesOn :=
        match rest with
        | c :: _ => c == '=' || isAlphanumeric c
        | [] => false
      if inAttribute && !closed && goesOn then none else some (value, rest)

end Glean.Html
