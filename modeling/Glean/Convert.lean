import Glean.Text.Blank
import Glean.Text.Lowercase
import Glean.Number.Decimal

/-!
# Glean.Convert

Typed readings of extracted text.  A `Target` names a type, `Target.Val` is
what a text of that type denotes, and `Target.convert` reads it.  Blanks at
both ends never matter; an error keeps the text as it was given.
-/

namespace Glean

/-! ## Targets -/

/-- The types a text can be read as. -/
inductive Target where
  | integer (type : IntegerType)
  | float (format : FloatFormat)
  | bool
  | text
  /-- Blank text is `none`; anything else has to read as the inner target. -/
  | optional (inner : Target)
deriving DecidableEq, Repr

/-- The values of a target. -/
@[reducible] def Target.Val : Target → Type
  | .integer _ => Int
  | .float _ => FloatNumber
  | .bool => Bool
  | .text => String
  | .optional inner => Option inner.Val

/-! ## Errors -/

/-- What a value that is no text is, in the words of an error. -/
inductive ValueKind where
  | nothing
  | text
  | list
  | record
deriving DecidableEq, Repr

/-- The words for a kind of value. -/
def ValueKind.words : ValueKind → String
  | .nothing => "nothing"
  | .text => "text"
  | .list => "a list"
  | .record => "a record"

/-- Why a text, or a value, does not read as a target. -/
inductive ParseError where
  | invalidNumber (text : String) (cause : IntegerError)
  | invalidFloat (text : String) (cause : FloatError)
  | invalidBool (text : String)
  | notText (found : ValueKind)
deriving DecidableEq, Repr

/-- The wording of a parse error. -/
def ParseError.message : ParseError → String
  | .invalidNumber text _ => "Invalid number: " ++ text
  | .invalidFloat text _ => "Invalid float: " ++ text
  | .invalidBool text => "Invalid boolean: " ++ text
  | .notText found => "Expected text, found " ++ found.words

/-! ## Reading -/

/-- The spellings of true, in lower case. -/
def trueWords : List String := ["true", "1", "yes", "on"]

/-- The spellings of false, in lower case; blank text is one of them. -/
def falseWords : List String := ["false", "0", "no", "off", ""]

/-- Read a spelling of true or false, in any case and between any blanks. -/
def readBool (text : String) : Option Bool :=
  let word := Text.lowercase (Text.trim text)
  if word ∈ trueWords then some true else if word ∈ falseWords then some false else none

/-- Read a text as a target. -/
def Target.convert : (t : Target) → String → Except ParseError t.Val
  | .integer type, s => (type.read (Text.trimList s.toList)).mapError (.invalidNumber s)
  | .float format, s => (format.read (Text.trimList s.toList)).mapError (.invalidFloat s)
  | .bool, s =>
    match readBool s with
    | some b => .ok b
    | none => .error (.invalidBool s)
  | .text, s => .ok (Text.trim s)
  | .optional inner, s => if Text.isBlankText s then .ok none else (inner.convert s).map some

end Glean
