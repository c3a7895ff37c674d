/-!
# Glean.Text.Ascii

Letters and hexadecimal digits, and the characters that code points stand for
where a text spells them out.
-/

namespace Glean.Text

def isAsciiLetter (c : Char) : Bool := ('a' ≤ c && c ≤ 'z') || ('A' ≤ c && c ≤ 'Z')

/-- The value of a hexadecimal digit. -/
def hexValue? (c : Char) : Option Nat :=
  if '0' ≤ c ∧ c ≤ '9' then some (c.toNat - '0'.toNat)
  else if 'a' ≤ c ∧ c ≤ 'f' then some (c.toNat - 'a'.toNat + 10)
  else if 'A' ≤ c ∧ c ≤ 'F' then some (c.toNat - 'A'.toNat + 10)
  else none

/-- A digit has the value that it is written for. -/
theorem hexValue?_digitChar : ∀ n < 16, hexValue? n.digitChar = some n := by
  decide

/-- The number that hexadecimal digits denote. -/
def hexNumber (cs : List Char) : Nat := cs.foldl (fun n c => n * 16 + (hexValue? c).getD 0) 0

/-- What stands for a character that cannot be represented. -/
def replacement : Char := '\ufffd'

/-- The character of a code point, or the replacement for zero and for what is none. -/
def charOfCode (n : Nat) : Char :=
  if n = 0 then replacement else if n.isValidChar then Char.ofNat n else replacement

end Glean.Text
