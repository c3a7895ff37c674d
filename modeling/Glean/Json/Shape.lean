import Glean.Json.Skip

/-!
# Glean.Json.Shape

Reading values of a known form: strings, truth values, lists, and objects with
known keys.  A key of an object may be left out if it has a default, may not
be written twice, and is skipped with its value if nobody knows it.  An object
may also be written as the list of its values in the order of its keys.

Whatever opens a bracket takes its contents as an optional reader; it is
absent where brackets nest too deeply.
-/

namespace Glean.Json.Reader

variable {α κ : Type}

/-! ## Simple values -/

/-- What stands next.  Brackets are looked at but not entered. -/
def found : Reader Found := do
  match ← valueStart with
  | 'n' => advance; keyword ['u', 'l', 'l']; return .null
  | 't' => advance; keyword ['r', 'u', 'e']; return .bool true
  | 'f' => advance; keyword ['a', 'l', 's', 'e']; return .bool false
  | '"' => advance; return .string (← string)
  | '[' => return .sequence
  | '\x7b' => return .map
  | c => if c = '-' || isDigit c then number else failNext .expectedValue

/-- Stop because something else was expected. -/
def mismatch (expected : String) : Reader α := do
  let x ← found
  failHere (.wrongType x expected)

/-- A string. -/
def text (expected : String) : Reader String := do
  match ← valueStart with
  | '"' => advance; string
  | _ => mismatch expected

/-- A truth value. -/
def bool : Reader Bool := do
  match ← valueStart with
  | 't' => advance; keyword ['r', 'u', 'e']; return true
  | 'f' => advance; keyword ['a', 'l', 's', 'e']; return false
  | _ => mismatch "a boolean"

/-- The word for nothing. -/
def null : Reader Unit := do
  match ← valueStart with
  | 'n' => advance; keyword ['u', 'l', 'l']
  | _ => mismatch "unit"

/-- A value that may be null. -/
def optional (inner : Reader α) : Reader (Option α) := do
  match ← token? with
  | some 'n' => advance; keyword ['u', 'l', 'l']; return none
  | _ => some <$> inner

/-! ## Lists -/

/-- Enter a bracket unless that is too deep. -/
def enter (inside : Option (Reader α)) : Reader α := do
  match inside with
  | none => failNext .tooDeep
  | some r => advance; r

/-- Whether another item follows; if so, go to it. -/
def anotherItem (first : Bool) : Reader Bool := do
  match ← token? with
  | none => failNext .endInList
  | some ']' => return false
  | some c =>
    if first then return true
    else if c = ',' then
      advance
      match ← token? with
      | some ']' => failNext .trailingComma
      | some _ => return true
      | none => failNext .endInValue
    else failNext .expectedListEnd

/-- The end of a list. -/
def closeList : Reader Unit := do
  match ← token? with
  | none => failNext .endInList
  | some ']' => advance
  | some ',' =>
    advance
    match ← token? with
    | some ']' => failNext .trailingComma
    | _ => failNext .trailingCharacters
  | some _ => failNext .trailingCharacters

/-- The items from here on, behind those in `seen`; `bound` is more than their number. -/
def items (item : Reader α) : Nat → Bool → List α → Reader (List α)
  | 0, _, _ => failNext .endInList
  | bound + 1, first, seen => do
    if ← anotherItem first then
      let x ← item
      items item bound false (x :: seen)
    else return seen.reverse

/-- A list of values. -/
def list (item : Option (Reader α)) : Reader (List α) := do
  match ← valueStart with
  | '[' =>
    enter <| item.map fun item => do
      let xs ← items item ((← get).rest.length + 1) true []
      closeList
      return xs
  | _ => mismatch "a sequence"

/-! ## Objects with known keys -/

/-- Whether another member follows; if so, go to its key. -/
def anotherMember (first : Bool) : Reader Bool := do
  match ← token? with
  | none => failNext .endInObject
  | some '\x7d' => return false
  | some c =>
    if first then
      if c = '"' then return true else failNext .keyNotString
    else if c = ',' then
      advance
      match ← token? with
      | some '"' => return true
      | some '\x7d' => failNext .trailingComma
      | some _ => failNext .keyNotString
      | none => failNext .endInValue
    else failNext .expectedObjectEnd

/-- The end of an object. -/
def closeObject : Reader Unit := do
  match ← token? with
  | none => failNext .endInObject
  | some '\x7d' => advance
  | some ',' => failNext .trailingComma
  | some _ => failNext .trailingCharacters

/-- Stop at the end of what cannot be used, if its closing bracket comes next. -/
def giveUp (closing : Char) (cause : Cause) : Reader α := do
  match ← token? with
  | some c =>
    if c = closing then advance
    failHere cause
  | none => failHere cause

end Glean.Json.Reader

namespace Glean.Json

/-- The form of an object with known keys. -/
structure Shape (κ : Type) where
  /-- What messages call it. -/
  title : String
  /-- The keys, in the order of a list of their values. -/
  keys : List κ
  word : κ → String
  /-- Whether a key may not be left out. -/
  needed : κ → Bool

namespace Shape

open Reader

variable {α κ : Type} [DecidableEq κ]

/-- The key that a word stands for. -/
def key? (s : Shape κ) (word : String) : Option κ := s.keys.find? (s.word · == word)

/-- The first key that has to be there and has not been seen. -/
def lacking (s : Shape κ) (seen : List κ) : Option κ :=
  s.keys.find? fun k => s.needed k && !seen.contains k

/-- Read members up to the end of the object; `read` puts the value of a key
into what has been read.  Yields why that is of no use, if it is not. -/
def members (s : Shape κ) (read : κ → α → Reader α) :
    Nat → Bool → List κ → α → Reader (Except Cause α)
  | 0, _, _, _ => failNext .endInObject
  | bound + 1, first, seen, x => do
    if ← anotherMember first then
      advance
      match s.key? (← Reader.string) with
      | none =>
        colon
        skipValue
        s.members read bound false seen x
      | some k =>
        if seen.contains k then return .error (.duplicateKey (s.word k))
        else
          colon
          let x ← read k x
          s.members read bound false (k :: seen) x
    else
      match s.lacking seen with
      | some k => return .error (.missingKey (s.word k))
      | none => return .ok x

/-- Read values in the order of the keys, as many as there are. -/
def positions (s : Shape κ) (read : κ → α → Reader α) :
    List κ → Bool → List κ → α → Reader (Except Cause α)
  | [], _, _, x => return .ok x
  | k :: keys, first, seen, x => do
    if ← anotherItem first then
      let x ← read k x
      s.positions read keys false (k :: seen) x
    else
      match s.lacking seen with
      | some k =>
        return .error (.wrongLength (s.keys.idxOf k)
          (s.title ++ " with " ++ toString s.keys.length ++ " elements"))
      | none => return .ok x

/-- An object, or the list of its values; `blank` holds the defaults. -/
def read (s : Shape κ) (blank : α) (read : Option (κ → α → Reader α)) : Reader α := do
  match ← valueStart with
  | '\x7b' =>
    enter <| read.map fun read => do
      match ← s.members read ((← get).rest.length + 1) true [] blank with
      | .ok x => closeObject; return x
      | .error cause => giveUp '\x7d' cause
  | '[' =>
    enter <| read.map fun read => do
      match ← s.positions read s.keys true [] blank with
      | .ok x => closeList; return x
      | .error cause => giveUp ']' cause
  | _ => mismatch s.title

end Shape

/-! ## Whole texts -/

/-- Read a text of which nothing may be left over. -/
def Reader.run {α : Type} (r : Reader α) (text : String) : Except Fault α :=
  (whole r).run' (Cursor.ofString text)
where
  /-- A value and the end of the text. -/
  whole (r : Reader α) : Reader α := do
    let x ← r
    match ← token? with
    | none => return x
    | some _ => failNext .trailingCharacters

end Glean.Json
