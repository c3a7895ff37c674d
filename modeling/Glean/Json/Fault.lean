import Glean.Number.Shortest
import Glean.Text.Quoted

/-!
# Glean.Json.Fault

Why a JSON text cannot be decoded, and where.  Lines count from one; a column
is the number of bytes of the line that have been looked at.
-/

namespace Glean.Json

/-! ## Causes -/

/-- What stands where something else was expected. -/
inductive Found where
  | null
  | bool (value : Bool)
  | integer (value : Int)
  | float (value : FloatNumber)
  | string (content : String)
  | sequence
  | map
deriving DecidableEq, Repr

/-- How a message writes numbers: those below `0.00001` have an exponent. -/
def numberStyle : FloatStyle := { least := -5, plus := true }

/-- What stands there, in the words of a message. -/
def Found.words : Found → String
  | .null => "null"
  | .bool true => "boolean `true`"
  | .bool false => "boolean `false`"
  | .integer value => "integer `" ++ toString value ++ "`"
  | .float value => "floating point `" ++ FloatFormat.binary64.displayExact numberStyle value ++ "`"
  | .string content => "string " ++ Text.quote content
  | .sequence => "sequence"
  | .map => "map"

/-- Why decoding stops. -/
inductive Cause where
  | endInValue
  | endInString
  | endInList
  | endInObject
  | expectedColon
  | expectedListEnd
  | expectedObjectEnd
  | expectedKeyword
  | expectedValue
  | keyNotString
  | trailingComma
  | trailingCharacters
  | invalidNumber
  | numberOutOfRange
  | invalidEscape
  | unpairedSurrogate
  | brokenSurrogatePair
  | controlCharacter
  | tooDeep
  | wrongType (found : Found) (expected : String)
  | wrongLength (length : Nat) (expected : String)
  | unknownWord (word : String) (known : List String)
  | missingKey (key : String)
  | duplicateKey (key : String)
deriving DecidableEq, Repr

/-- A word as messages quote it. -/
def ticked (word : String) : String := "`" ++ word ++ "`"

/-- The wording of a cause. -/
def Cause.message : Cause → String
  | .endInValue => "EOF while parsing a value"
  | .endInString => "EOF while parsing a string"
  | .endInList => "EOF while parsing a list"
  | .endInObject => "EOF while parsing an object"
  | .expectedColon => "expected `:`"
  | .expectedListEnd => "expected `,` or `]`"
  | .expectedObjectEnd => "expected `,` or `\x7d`"
  | .expectedKeyword => "expected ident"
  | .expectedValue => "expected value"
  | .keyNotString => "key must be a string"
  | .trailingComma => "trailing comma"
  | .trailingCharacters => "trailing characters"
  | .invalidNumber => "invalid number"
  | .numberOutOfRange => "number out of range"
  | .invalidEscape => "invalid escape"
  | .unpairedSurrogate => "lone leading surrogate in hex escape"
  | .brokenSurrogatePair => "unexpected end of hex escape"
  | .controlCharacter =>
    "control character (\\u0000-\\u001F) found while parsing a string"
  | .tooDeep => "recursion limit exceeded"
  | .wrongType found expected => "invalid type: " ++ found.words ++ ", expected " ++ expected
  | .wrongLength length expected =>
    "invalid length " ++ toString length ++ ", expected " ++ expected
  | .unknownWord word known =>
    "unknown variant " ++ ticked word ++ ", expected one of " ++
      ", ".intercalate (known.map ticked)
  | .missingKey key => "missing field " ++ ticked key
  | .duplicateKey key => "duplicate field " ++ ticked key

/-! ## Faults -/

/-- A place in a text. -/
structure Position where
  line : Nat
  column : Nat
deriving DecidableEq, Repr

/-- Why decoding stops, and where. -/
structure Fault where
  cause : Cause
  position : Position
deriving DecidableEq, Repr

/-- The wording of a fault. -/
def Fault.message (f : Fault) : String :=
  f.cause.message ++ " at line " ++ toString f.position.line ++
    " column " ++ toString f.position.column

end Glean.Json
