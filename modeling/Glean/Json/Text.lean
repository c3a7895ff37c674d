import Glean.Json.Cursor
import Glean.Text.Ascii

/-!
# Glean.Json.Text

Strings in a JSON text.  They are read piece by piece, a piece being a plain
character or an escape; a code point beyond four digits is escaped as a pair
of surrogates.  A string that nobody asks for is skipped: its escapes have to
be spelled correctly, but they need not denote anything.
-/

namespace Glean.Json.Reader

/-! ## Escapes -/

/-- What a letter after a backslash stands for. -/
def shortEscape? : Char → Option Char
  | '"' => some '"'
  | '\\' => some '\\'
  | '/' => some '/'
  | 'b' => some '\x08'
  | 'f' => some '\x0c'
  | 'n' => some '\n'
  | 'r' => some '\r'
  | 't' => some '\t'
  | _ => none

/-- The number of four hexadecimal digits.  They are looked at four bytes at a time. -/
def fourDigits : Reader Nat := do
  let c ← get
  match c.rest with
  | x :: y :: z :: w :: rest =>
    if [x, y, z, w].all fun d => (Text.hexValue? d).isSome then
      set (⟨rest, c.line, c.column + 4⟩ : Cursor)
      return Text.hexNumber [x, y, z, w]
    else throw ⟨.invalidEscape, c.positionAfter 4⟩
  | short =>
    let enough := 4 ≤ short.foldl (fun n x => n + x.utf8Size) 0
    throw ⟨if enough then .invalidEscape else .endInString, c.positionAfter 4⟩

def isHighSurrogate (n : Nat) : Bool := 0xd800 ≤ n && n < 0xdc00
def isLowSurrogate (n : Nat) : Bool := 0xdc00 ≤ n && n < 0xe000

/-- Go past a character that has to come next inside a surrogate pair. -/
def pairMark (mark : Char) : Reader Unit := do
  match ← peek? with
  | none => failNext .endInString
  | some c => if c = mark then advance else failNext .brokenSurrogatePair

/-- The character that a numeric escape denotes. -/
def numericEscape : Reader Char := do
  let n ← fourDigits
  if isLowSurrogate n then failHere .unpairedSurrogate
  else if isHighSurrogate n then
    pairMark '\\'
    pairMark 'u'
    let low ← fourDigits
    if isLowSurrogate low then
      return Char.ofNat (0x10000 + (n - 0xd800) * 0x400 + (low - 0xdc00))
    else failHere .unpairedSurrogate
  else return Char.ofNat n

/-! ## Strings that are wanted -/

/-- One piece of a string, or none at the quote that ends it. -/
def piece : Reader (Option Char) := do
  match ← peek? with
  | none => failNext .endInString
  | some '"' =>
    advance
    return none
  | some '\\' =>
    advance
    match ← peek? with
    | none => failNext .endInString
    | some 'u' =>
      advance
      some <$> numericEscape
    | some c =>
      match shortEscape? c with
      | some x =>
        advance
        return some x
      | none => failNext .invalidEscape
  | some c =>
    if c.toNat < 0x20 then failNext .controlCharacter
    else
      advance
      return some c

/-- The pieces up to the end of a string, behind those in `seen`; `bound` is
at least their number. -/
def pieces : Nat → List Char → Reader (List Char)
  | 0, _ => failNext .endInString
  | bound + 1, seen => do
    match ← piece with
    | none => return seen.reverse
    | some c => pieces bound (c :: seen)

/-- The rest of a string whose opening quote has been read. -/
def string : Reader String := do
  let bound := (← get).rest.length + 1
  return String.ofList (← pieces bound [])

/-! ## Strings that are not wanted -/

/-- Skip one piece of a string, and tell whether there may be another. -/
def skipPiece : Reader Bool := do
  match ← peek? with
  | none => failNext .endInString
  | some '"' =>
    advance
    return false
  | some '\\' =>
    advance
    match ← peek? with
    | none => failNext .endInString
    | some 'u' =>
      advance
      let _ ← fourDigits
      return true
    | some c =>
      if (shortEscape? c).isSome then
        advance
        return true
      else failNext .invalidEscape
  | some c =>
    if c.toNat < 0x20 then failHere .controlCharacter
    else
      advance
      return true

/-- Skip to the end of a string of at most so many pieces. -/
def skipPieces : Nat → Reader Unit
  | 0 => failNext .endInString
  | bound + 1 => do
    if ← skipPiece then skipPieces bound

/-- Skip the rest of a string whose opening quote has been read. -/
def skipString : Reader Unit := do
  skipPieces ((← get).rest.length + 1)

end Glean.Json.Reader
