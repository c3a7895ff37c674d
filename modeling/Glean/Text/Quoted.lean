import Glean.Text.Printable

/-!
# Glean.Text.Quoted

Text in double quotes, the way records and error messages show it: the quote
and the backslash are escaped, the common controls have a short escape, every
other character that would not be visible is written as its code point, and
all else stands as it is.
-/

namespace Glean.Text

/-! ## Escapes -/

/-- The hexadecimal digits of a number, without leading zeros. -/
def hexDigits (n : Nat) : List Char := Nat.toDigits 16 n

/-- A character as it is written between quotes. -/
def quoteChar (c : Char) : List Char :=
  if c = '"' then ['\\', '"']
  else if c = '\\' then ['\\', '\\']
  else if c = '\n' then ['\\', 'n']
  else if c = '\r' then ['\\', 'r']
  else if c = '\t' then ['\\', 't']
  else if c.toNat = 0 then ['\\', '0']
  else if isPrintable c then [c]
  else ['\\', 'u', '\x7b'] ++ hexDigits c.toNat ++ ['\x7d']

/-! ## Quoting -/

/-- The text between double quotes. -/
def quoteList (cs : List Char) : List Char := '"' :: cs.flatMap quoteChar ++ ['"']

/-- The text between double quotes. -/
def quote (s : String) : String := String.ofList (quoteList s.toList)

/-- A single character between single quotes, which are then what is escaped. -/
def quoteSingle (c : Char) : String :=
  let inside :=
    if c = '\x27' then ['\\', '\x27'] else if c = '"' then ['"'] else quoteChar c
  String.ofList ('\x27' :: inside ++ ['\x27'])

end Glean.Text
