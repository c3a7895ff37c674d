import Glean.Css.Numeric
import Glean.Text.Ascii

/-!
# Glean.Css.Token

The tokens of CSS text and how text is cut into them.  Comments are dropped;
a run of white space is one token.  Cutting never fails: an unclosed string or
comment ends with the text, and a string broken by a line end, or a broken
`url(…)`, becomes a token of its own that no selector accepts.
-/

namespace Glean.Css

open Text (isAsciiLetter hexValue? replacement charOfCode)

/-! ## Tokens -/

/-- A token of CSS text. -/
inductive Token where
  | ident (name : String)
  | atKeyword (name : String)
  /-- A hash that is no identifier, such as `#1`. -/
  | hash (name : String)
  | idHash (name : String)
  | quoted (content : String)
  | unquotedUrl (content : String)
  | delim (c : Char)
  | number (n : Numeric)
  | percentage (n : Numeric)
  | dimension (n : Numeric) (unit : String)
  | whiteSpace (run : String)
  | colon
  | semicolon
  | comma
  | includeMatch
  | dashMatch
  | prefixMatch
  | suffixMatch
  | substringMatch
  | commentOpen
  | commentClose
  | function (name : String)
  | openParen
  | openSquare
  | openCurly
  | badUrl (content : String)
  | badString (content : String)
  | closeParen
  | closeSquare
  | closeCurly
deriving DecidableEq, Repr

/-! ## Character classes -/

def isNewline (c : Char) : Bool := c == '\n' || c == '\r' || c == '\x0c'

def isSpace (c : Char) : Bool := c == ' ' || c == '\t' || isNewline c

/-- Whether the character can begin a name by itself. -/
def isNameStart (c : Char) : Bool :=
  isAsciiLetter c || c == '_' || c == '\x00' || 0x80 ≤ c.toNat

/-- Whether the character can stand inside a name by itself. -/
def isNameChar (c : Char) : Bool := isNameStart c || isDigit c || c == '-'

/-- Whether the character may not stand in an unquoted address. -/
def isNonPrintable (c : Char) : Bool :=
  (1 ≤ c.toNat && c.toNat ≤ 8) || c.toNat == 0x0b || (0x0e ≤ c.toNat && c.toNat ≤ 0x1f) ||
    c.toNat == 0x7f

/-! ## Escapes -/

/-- At most `limit` hexadecimal digits: their value and what follows them. -/
def readHex (limit : Nat) (value : Nat) : List Char → Nat × List Char
  | [] => (value, [])
  | c :: rest =>
    match limit, hexValue? c with
    | limit + 1, some d => readHex limit (value * 16 + d) rest
    | _, _ => (value, c :: rest)

/-- Drop one line end, which may be a carriage return and a line feed. -/
def dropNewline : List Char → List Char
  | '\r' :: '\n' :: rest => rest
  | _ :: rest => rest
  | [] => []

/-- Drop the white space character that may follow a hexadecimal escape. -/
def dropOneSpace : List Char → List Char
  | c :: rest => if isSpace c then dropNewline (c :: rest) else c :: rest
  | [] => []

/-- The character an escape stands for, read behind its backslash. -/
def readEscape : List Char → Char × List Char
  | [] => (replacement, [])
  | c :: rest =>
    if (hexValue? c).isSome then
      let (code, rest) := readHex 6 0 (c :: rest)
      (charOfCode code, dropOneSpace rest)
    else if c = '\x00' then (replacement, rest)
    else (c, rest)

/-- Whether the text begins with a line end. -/
def startsNewline : List Char → Bool
  | c :: _ => isNewline c
  | [] => false

/-! ## Names, strings and addresses

Each reader below takes a bound on its steps; the length of the text is enough,
since every step consumes a character. -/

/-- The longest name at the front of the text. -/
def readName : Nat → List Char → List Char × List Char
  | 0, cs => ([], cs)
  | _ + 1, [] => ([], [])
  | fuel + 1, c :: rest =>
    if c = '\\' then
      if startsNewline rest then ([], c :: rest)
      else
        let (e, rest) := readEscape rest
        let (name, rest) := readName fuel rest
        (e :: name, rest)
    else if c = '\x00' then
      let (name, rest) := readName fuel rest
      (replacement :: name, rest)
    else if isNameChar c then
      let (name, rest) := readName fuel rest
      (c :: name, rest)
    else ([], c :: rest)

/-- The content of a string up to its closing quote, and whether a line end broke it. -/
def readString (quote : Char) : Nat → List Char → List Char × Bool × List Char
  | 0, cs => ([], false, cs)
  | _ + 1, [] => ([], false, [])
  | fuel + 1, c :: rest =>
    if c = quote then ([], false, rest)
    else if isNewline c then ([], true, c :: rest)
    else if c = '\\' then
      if rest.isEmpty then ([], false, [])
      else if startsNewline rest then readString quote fuel (dropNewline rest)
      else
        let (e, rest) := readEscape rest
        let (content, broken, rest) := readString quote fuel rest
        (e :: content, broken, rest)
    else
      let (content, broken, rest) := readString quote fuel rest
      ((if c = '\x00' then replacement else c) :: content, broken, rest)

/-- Skip a broken address to its closing bracket; what is skipped is kept as written. -/
def skipBadUrl : Nat → List Char → List Char × List Char
  | 0, cs => ([], cs)
  | _ + 1, [] => ([], [])
  | _ + 1, ')' :: rest => ([], rest)
  | fuel + 1, '\\' :: c :: rest =>
    if c = ')' ∨ c = '\\' then
      let (content, rest) := skipBadUrl fuel rest
      ('\\' :: c :: content, rest)
    else
      let (content, rest) := skipBadUrl fuel (c :: rest)
      ('\\' :: content, rest)
  | fuel + 1, c :: rest =>
    let (content, rest) := skipBadUrl fuel rest
    (c :: content, rest)

/-- How an unquoted address ends. -/
inductive UrlEnd where
  | closed (rest : List Char)
  /-- Something stood in the address that may not. -/
  | broken (rest : List Char)

/-- The white space behind an address, which only the closing bracket may follow. -/
def readUrlEnd : List Char → UrlEnd
  | [] => .closed []
  | ')' :: rest => .closed rest
  | c :: rest => if isSpace c then readUrlEnd rest else .broken rest

/-- The content of an unquoted address and how it ends. -/
def readUrl : Nat → List Char → List Char × UrlEnd
  | 0, cs => ([], .closed cs)
  | _ + 1, [] => ([], .closed [])
  | fuel + 1, c :: rest =>
    if c = ')' then ([], .closed rest)
    else if isSpace c then ([], readUrlEnd (c :: rest))
    else if isNonPrintable c || c = '"' || c = '\x27' || c = '(' then ([], .broken rest)
    else if c = '\\' then
      if startsNewline rest then ([], .broken rest)
      else
        let (e, rest) := readEscape rest
        let (content, ending) := readUrl fuel rest
        (e :: content, ending)
    else
      let (content, ending) := readUrl fuel rest
      ((if c = '\x00' then replacement else c) :: content, ending)

/-- The token behind `url(`; `none` if a quoted address follows, which makes it a function. -/
def readUrlToken? (cs : List Char) : Option (Token × List Char) :=
  match cs.dropWhile isSpace with
  | '"' :: _ => none
  | '\x27' :: _ => none
  | start =>
    match readUrl (start.length + 1) start with
    | (content, .closed rest) => some (.unquotedUrl (String.ofList content), rest)
    | (_, .broken tail) =>
      let read := start.take (start.length - tail.length)
      let (content, rest) := skipBadUrl (tail.length + 1) tail
      some (.badUrl (String.ofList (read ++ content)), rest)

/-! ## Numbers -/

/-- Whether a number begins here: a digit, or a point and a digit. -/
def startsNumber : List Char → Bool
  | '.' :: c :: _ => isDigit c
  | c :: _ => isDigit c
  | [] => false

/-- An exponent: its letter, an optional sign and at least one digit. -/
def readExponentPart? (cs : List Char) : Option (Int × List Char) :=
  match cs with
  | c :: rest =>
    if c = 'e' ∨ c = 'E' then
      let (negative, body) :=
        match rest with
        | '-' :: body => (true, body)
        | '+' :: body => (false, body)
        | _ => (false, rest)
      let (digits, after) := body.span isDigit
      if digits.isEmpty then none
      else some ((if negative then -(digitsValue digits : Int) else digitsValue digits), after)
    else none
  | [] => none

/-- The number at the front of the text. -/
def readNumeric (cs : List Char) : Numeric × List Char :=
  let (sign, cs) :=
    match cs with
    | '+' :: rest => (some '+', rest)
    | '-' :: rest => (some '-', rest)
    | _ => (none, cs)
  let (whole, cs) := cs.span isDigit
  let (fraction, cs) :=
    match cs with
    | '.' :: c :: rest =>
      if isDigit c then
        let (digits, after) := (c :: rest).span isDigit
        (some digits, after)
      else (none, cs)
    | _ => (none, cs)
  match readExponentPart? cs with
  | some (e, rest) => (⟨sign, whole, fraction, some e⟩, rest)
  | none => (⟨sign, whole, fraction, none⟩, cs)

/-! ## Cutting -/

/-- Whether a name begins here. -/
def startsName : List Char → Bool
  | '-' :: c :: _ => isNameStart c || c == '-' || c == '\\'
  | '-' :: [] => false
  | '\\' :: rest => !startsNewline rest
  | c :: _ => isNameStart c
  | [] => false

/-- The name at the front of the text. -/
def takeName (cs : List Char) : String × List Char :=
  let (name, rest) := readName (cs.length + 1) cs
  (String.ofList name, rest)

/-- A name, or a function if a bracket follows it. -/
def readIdentLike (cs : List Char) : Token × List Char :=
  let (name, rest) := takeName cs
  match rest with
  | '(' :: inner =>
    if Text.equalsIgnoringAsciiCase name "url" then
      match readUrlToken? inner with
      | some answer => answer
      | none => (.function name, inner)
    else (.function name, inner)
  | _ => (.ident name, rest)

/-- A number with its unit or percent sign. -/
def readNumberLike (cs : List Char) : Token × List Char :=
  let (n, rest) := readNumeric cs
  match rest with
  | '%' :: rest => (.percentage n, rest)
  | _ =>
    if startsName rest then
      let (unit, rest) := takeName rest
      (.dimension n unit, rest)
    else (.number n, rest)

/-- A string with its quotes. -/
def readQuoted (quote : Char) (cs : List Char) : Token × List Char :=
  let (content, broken, rest) := readString quote (cs.length + 1) cs
  let content := String.ofList content
  (if broken then .badString content else .quoted content, rest)

/-- Skip a comment behind its opening. -/
def skipComment : List Char → List Char
  | [] => []
  | '*' :: '/' :: rest => rest
  | _ :: rest => skipComment rest

/-- The token at the front of a text that holds no comment there. -/
def readToken (c : Char) (rest : List Char) : Token × List Char :=
  let cs := c :: rest
  if isSpace c then
    let (run, rest) := cs.span isSpace
    (.whiteSpace (String.ofList run), rest)
  else if c = '"' ∨ c = '\x27' then readQuoted c rest
  else if (isDigit c || c = '.') && startsNumber cs then readNumberLike cs
  else if (c = '+' || c = '-') && startsNumber rest then readNumberLike cs
  else
    match c, rest with
    | '$', '=' :: rest => (.suffixMatch, rest)
    | '*', '=' :: rest => (.substringMatch, rest)
    | '^', '=' :: rest => (.prefixMatch, rest)
    | '|', '=' :: rest => (.dashMatch, rest)
    | '~', '=' :: rest => (.includeMatch, rest)
    | '-', '-' :: '>' :: rest => (.commentClose, rest)
    | '<', '!' :: '-' :: '-' :: rest => (.commentOpen, rest)
    | '(', rest => (.openParen, rest)
    | ')', rest => (.closeParen, rest)
    | '[', rest => (.openSquare, rest)
    | ']', rest => (.closeSquare, rest)
    | '\x7b', rest => (.openCurly, rest)
    | '\x7d', rest => (.closeCurly, rest)
    | ',', rest => (.comma, rest)
    | ':', rest => (.colon, rest)
    | ';', rest => (.semicolon, rest)
    | '#', rest =>
      if startsName rest then
        let (name, rest) := takeName rest
        (.idHash name, rest)
      else
        match rest with
        | d :: _ =>
          if isDigit d || d == '-' then
            let (name, rest) := takeName rest
            (.hash name, rest)
          else (.delim '#', rest)
        | [] => (.delim '#', rest)
    | '@', rest =>
      if startsName rest then
        let (name, rest) := takeName rest
        (.atKeyword name, rest)
      else (.delim '@', rest)
    | _, _ => if startsName cs then readIdentLike cs else (.delim c, rest)

/-- Cut a text into tokens, with a bound on their number. -/
def cut : Nat → List Char → List Token
  | 0, _ => []
  | _ + 1, [] => []
  | fuel + 1, '/' :: '*' :: rest => cut fuel (skipComment rest)
  | fuel + 1, c :: rest =>
    let (token, rest) := readToken c rest
    token :: cut fuel rest

/-- The tokens of a text. -/
def tokens (text : String) : List Token :=
  let cs := text.toList
  cut (cs.length + 1) cs

end Glean.Css
