import Glean.Json.Numeral
import Glean.Json.Text

/-!
# Glean.Json.Skip

Values that nobody asks for.  They have to be well formed, but they may nest
as deeply as they like: the brackets that are open are kept in a list.
-/

namespace Glean.Json

/-- What a bracket that is open belongs to. -/
inductive Bracket where
  | list
  | object
deriving DecidableEq, Repr

namespace Bracket

def closing : Bracket → Char
  | .list => ']'
  | .object => '\x7d'

/-- Why neither a comma nor the end may be missing. -/
def unfinished : Bracket → Cause
  | .list => .expectedListEnd
  | .object => .expectedObjectEnd

/-- Why the text may not end. -/
def atEnd : Bracket → Cause
  | .list => .endInList
  | .object => .endInObject

end Bracket

namespace Reader

/-- The colon between a key and its value. -/
def colon : Reader Unit := do
  match ← token? with
  | some ':' => advance
  | some _ => failNext .expectedColon
  | none => failNext .endInObject

/-- Skip the key of a member, in an object, and nothing in a list. -/
def skipKey : Bracket → Reader Unit
  | .list => return
  | .object => do
    match ← token? with
    | some '"' =>
      advance
      skipString
      colon
    | some _ => failNext .keyNotString
    | none => failNext .endInObject

/-- Skip what begins with the next character: all of a simple value, or the
opening bracket of a list or an object. -/
def skipStart : Reader (Option Bracket) := do
  match ← valueStart with
  | 'n' => advance; keyword ['u', 'l', 'l']; return none
  | 't' => advance; keyword ['r', 'u', 'e']; return none
  | 'f' => advance; keyword ['a', 'l', 's', 'e']; return none
  | '"' => advance; skipString; return none
  | '[' => advance; return some .list
  | '\x7b' => advance; return some .object
  | c =>
    if c = '-' || isDigit c then
      let _ ← numeral .invalidNumber
      return none
    else failNext .expectedValue

/-- Skip closing brackets up to where another value has to come, and say which
brackets are open there; `fresh` tells that the innermost one has just been opened. -/
def skipClosing (fresh : Bool) : List Bracket → Reader (List Bracket)
  | [] => return []
  | b :: outer => do
    match ← token? with
    | none => failNext b.atEnd
    | some c =>
      if c = b.closing then
        advance
        skipClosing false outer
      else if fresh then return b :: outer
      else if c = ',' then
        advance
        return b :: outer
      else failNext b.unfinished

/-- Skip a value inside the open brackets and all that follows until they are
closed; `bound` is at least the number of values. -/
def skipInside : Nat → List Bracket → Reader Unit
  | 0, _ => failNext .endInValue
  | bound + 1, around => do
    let inside ←
      match ← skipStart with
      | none => skipClosing false around
      | some b => skipClosing true (b :: around)
    match inside with
    | [] => return
    | b :: outer =>
      skipKey b
      skipInside bound (b :: outer)

/-- Skip a value. -/
def skipValue : Reader Unit := do
  skipInside ((← get).rest.length + 1) []

end Reader

end Glean.Json
