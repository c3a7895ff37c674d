import Glean.Json.Fault

/-!
# Glean.Json.Cursor

A place in a text that is being read, what is left of the text from there, and
readers, which move such a place along or stop with a fault.
-/

namespace Glean.Json

/-! ## Cursors -/

/-- What is left of a text, and where that begins. -/
structure Cursor where
  rest : List Char
  line : Nat
  column : Nat
deriving DecidableEq, Repr

namespace Cursor

/-- The beginning of a text. -/
def ofString (s : String) : Cursor := ⟨s.toList, 1, 0⟩

def position (c : Cursor) : Position := ⟨c.line, c.column⟩

/-- Past the next character. -/
def advance (c : Cursor) : Cursor :=
  match c.rest with
  | [] => c
  | '\n' :: rest => ⟨rest, c.line + 1, 0⟩
  | x :: rest => ⟨rest, c.line, c.column + x.utf8Size⟩

/-- The place after so many bytes, even inside a character, or the end of the
text if there are fewer. -/
def positionAfter (c : Cursor) (bytes : Nat) : Position :=
  go c.line c.column bytes c.rest
where
  /-- Walk along the characters while they fit. -/
  go (line column bytes : Nat) : List Char → Position
    | [] => ⟨line, column⟩
    | x :: rest =>
      if bytes < x.utf8Size then ⟨line, column + bytes⟩
      else if x = '\n' then go (line + 1) 0 (bytes - 1) rest
      else go line (column + x.utf8Size) (bytes - x.utf8Size) rest

/-- Whether a character may stand between the parts of a document. -/
def isSpace (c : Char) : Bool := c == ' ' || c == '\n' || c == '\t' || c == '\r'

/-- Past the blanks that come next. -/
def skipSpace (c : Cursor) : Cursor := go c.line c.column c.rest
where
  /-- Walk along the blanks. -/
  go (line column : Nat) : List Char → Cursor
    | [] => ⟨[], line, column⟩
    | x :: rest =>
      if x = '\n' then go (line + 1) 0 rest
      else if isSpace x then go line (column + 1) rest
      else ⟨x :: rest, line, column⟩

/-- Past the digits that come next, and those digits. -/
def takeDigits (c : Cursor) : List Char × Cursor :=
  let (digits, rest) := c.rest.span isDigit
  (digits, ⟨rest, c.line, c.column + digits.length⟩)

end Cursor

/-! ## Readers -/

/-- What moves a cursor along and yields something, or stops with a fault. -/
abbrev Reader := StateT Cursor (Except Fault)

namespace Reader

variable {α : Type}

/-- Stop at the place that has been reached. -/
def failHere (cause : Cause) : Reader α := do
  throw ⟨cause, (← get).position⟩

/-- Stop at the next byte, which is what is wrong, or at the end of the text. -/
def failNext (cause : Cause) : Reader α := do
  throw ⟨cause, (← get).positionAfter 1⟩

/-- The next character, which stays where it is. -/
def peek? : Reader (Option Char) := do
  return (← get).rest.head?

/-- Go past the next character. -/
def advance : Reader Unit := modify Cursor.advance

/-- The next character that is no blank, which stays where it is. -/
def token? : Reader (Option Char) := do
  modify Cursor.skipSpace
  peek?

/-- The first character of a value, which stays where it is. -/
def valueStart : Reader Char := do
  match ← token? with
  | some c => return c
  | none => failNext .endInValue

/-- Go past the characters of a keyword. -/
def keyword : List Char → Reader Unit
  | [] => return
  | c :: rest => do
    match ← peek? with
    | none => failNext .endInValue
    | some d =>
      if d = c then
        advance
        keyword rest
      else failNext .expectedKeyword

/-- The digits that come next. -/
def digits : Reader (List Char) := modifyGet Cursor.takeDigits

end Reader

end Glean.Json
