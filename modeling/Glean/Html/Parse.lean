import Glean.Html.Construction.Table
import Glean.Html.Token.Lexer

/-!
# Glean.Html.Parse

Documents from HTML text.  Every text is a document: tokens are cut one at a
time, each is handled by the insertion mode that is current, or by the rules
for foreign content, and the modes complete what is left out.
-/

namespace Glean.Html

namespace Build

/-! ## Behind the body and in framesets -/

/-- Behind the body. -/
def afterBody (token : Token) : Build Outcome := do
  match token with
  | .text true _ => inBody token
  | .comment content =>
    appendComment (← rootElement) content
    return .done
  | .startTag t => if t.name == "html" then mergeRoot t else return .again .inBody token
  | .endTag t =>
    if t.name == "html" then
      setMode .afterAfterBody
      return .done
    else return .again .inBody token
  | .eof => return .done
  | _ => return .again .inBody token

/-- Behind the root element. -/
def afterAfterBody (token : Token) : Build Outcome := do
  match token with
  | .text true _ => inBody token
  | .comment content =>
    appendComment Draft.documentId content
    return .done
  | .startTag t => if t.name == "html" then mergeRoot t else return .again .inBody token
  | .eof => return .done
  | _ => return .again .inBody token

/-- In a frameset. -/
def inFrameset (token : Token) : Build Outcome := do
  match token with
  | .text true run => insertText run
  | .comment content => insertComment content
  | .startTag t =>
    match t.name with
    | "html" => return ← mergeRoot t
    | "frameset" => openTag t
    | "frame" => closedTag t
    | "noframes" => return ← headTag t
    | _ => pure ()
  | .endTag t =>
    if t.name == "frameset" && 1 < (← get).stack.length then
      pop
      unless ← currentIs "frameset" do setMode .afterFrameset
  | _ => pure ()
  return .done

/-- Behind a frameset. -/
def afterFrameset (token : Token) : Build Outcome := do
  match token with
  | .text true run => insertText run
  | .comment content => insertComment content
  | .startTag t =>
    match t.name with
    | "html" => return ← mergeRoot t
    | "noframes" => return ← headTag t
    | _ => pure ()
  | .endTag t => if t.name == "html" then setMode .afterAfterFrameset
  | _ => pure ()
  return .done

/-- Behind the root element of a document with a frameset. -/
def afterAfterFrameset (token : Token) : Build Outcome := do
  match token with
  | .text true _ => inBody token
  | .comment content =>
    appendComment Draft.documentId content
    return .done
  | .startTag t =>
    match t.name with
    | "html" => mergeRoot t
    | "noframes" => headTag t
    | _ => return .done
  | _ => return .done

/-! ## One mode or another -/

/-- Handle a token by the rules of a mode. -/
def inMode (mode : Mode) (token : Token) : Build Outcome :=
  match mode with
  | .initial => initial token
  | .beforeHtml => beforeHtml token
  | .beforeHead => beforeHead token
  | .inHead => inHead token
  | .afterHead => afterHead token
  | .inBody => inBody token
  | .inText => inText token
  | .inTable => inTable token
  | .inTableText => inTableText token
  | .inCaption => inCaption token
  | .inColumnGroup => inColumnGroup token
  | .inTableBody => inTableBody token
  | .inRow => inRow token
  | .inCell => inCell token
  | .inSelect => inSelect token
  | .inSelectInTable => inSelectInTable token
  | .inTemplate => inTemplate token
  | .afterBody => afterBody token
  | .inFrameset => inFrameset token
  | .afterFrameset => afterFrameset token
  | .afterAfterBody => afterAfterBody token
  | .afterAfterFrameset => afterAfterFrameset token

/-! ## Foreign content -/

/-- Whether a token is handled by the rules for foreign content. -/
def isForeign (token : Token) : Build Bool := do
  let s ← get
  match s.stack with
  | [] => return false
  | id :: _ =>
    let l := s.draft.label id
    match token with
    | .eof | .doctype _ => return false
    | .text .. | .null => return !(l.isHtml || l.isMathmlText || l.isSvgHtml)
    | .startTag t =>
      return !(l.isHtml || l.isSvgHtml ||
        (l.isMathmlText && t.name != "mglyph" && t.name != "malignmark") ||
        (l.vocabulary == .mathml && l.name == "annotation-xml" && t.name == "svg"))
    | _ => return !l.isHtml

/-- Leave foreign content for a tag that belongs to HTML. -/
def leaveForeign (token : Token) : Build Outcome := do
  popUntilCurrent fun l => l.isHtml || l.isMathmlText || l.isSvgHtml
  inMode (← get).mode token

/-- Insert an element in the vocabulary of the one it stands in. -/
def foreignStartTag (t : Tag) : Build Unit := do
  let l := t.foreignLabel (← currentLabel).vocabulary true
  if t.selfClosing then
    let _ ← insertClosed l
  else
    let _ ← insertElement l

/-- An end tag in foreign content closes the nearest element of its name in any
case; where HTML begins again on the way, the mode decides. -/
def foreignEndTag (t : Tag) : Build Outcome := do
  let s ← get
  walk s.draft true s.stack
where
  /-- The walk from the innermost element outwards. -/
  walk (d : Draft) (first : Bool) : List NodeId → Build Outcome
    | [] => return .done
    | [_] => return .done
    | id :: outer => do
      let l := d.label id
      if !first && l.isHtml then inMode (← get).mode (.endTag t)
      else if Text.equalsIgnoringAsciiCase l.name t.name then
        modify fun s => { s with stack := outer }
        return .done
      else walk d false outer

/-- Handle a token by the rules for foreign content. -/
def inForeign (token : Token) : Build Outcome := do
  match token with
  | .null => insertText "\ufffd"
  | .text blank run =>
    unless blank do forbidFrameset
    insertText run
  | .comment content => insertComment content
  | .startTag t => if t.endsForeign then return ← leaveForeign token else foreignStartTag t
  | .endTag t =>
    if t.name == "br" || t.name == "p" then return ← leaveForeign token
    else return ← foreignEndTag t
  | _ => pure ()
  return .done

/-! ## Tokens -/

/-- Handle a token until some mode uses it up.  The bound on the modes that may
pass it on is never reached: each either uses the token up, closes an element,
or goes on to a later part of the document. -/
def settle : Nat → Token → Build Unit
  | 0, _ => return
  | fuel + 1, token => do
    let outcome ← if ← isForeign token then inForeign token else inMode (← get).mode token
    match outcome with
    | .done => return
    | .again mode token =>
      setMode mode
      settle fuel token

/-- Handle a token that is no text. -/
def accept (token : Token) : Build Unit := do
  let s ← get
  match token with
  | .doctype _ => if s.mode == .initial then settle 1 token
  | _ => settle (4 * s.stack.length + 32) token

/-- Split characters into nulls and runs that are white space or are not. -/
def splitRuns : List Char → List Token
  | [] => []
  | c :: rest =>
    if c = '\x00' then .null :: splitRuns rest
    else
      let blank := isHtmlSpace c
      match splitRuns rest with
      | .text b run :: more =>
        if b == blank then .text b (String.singleton c ++ run) :: more
        else .text blank (String.singleton c) :: .text b run :: more
      | more => .text blank (String.singleton c) :: more

/-- Handle characters, less a line feed in front that is to be dropped. -/
def acceptText (skipNewline : Bool) (cs : List Char) : Build Unit := do
  let cs :=
    match cs with
    | '\n' :: rest => if skipNewline then rest else cs
    | _ => cs
  for token in splitRuns cs do accept token

/-- Handle a piece of the text. -/
def acceptPiece (piece : Piece) : Build Unit := do
  let skipNewline := (← get).skipNewline
  modify fun s => { s with skipNewline := false }
  match piece with
  | .nothing => return
  | .characters cs => acceptText skipNewline cs
  | .token t =>
    match t with
    -- an end tag ends the text it was waited for
    | .endTag _ => modify fun s => { s with content := .data }
    | _ => pure ()
    accept t

/-- A text without the byte order mark in front of it. -/
def dropByteOrderMark : List Char → List Char
  | '\ufeff' :: rest => rest
  | cs => cs

/-- Whether a piece is the end tag of a script that is to run. -/
def endsScript (mode : Mode) : Piece → Bool
  | .token (.endTag t) => mode == .inText && t.name == "script"
  | _ => false

/-- Cut a text into pieces and handle them, down to a bound on their number.
Behind a script reading begins anew, so a byte order mark is dropped there too. -/
def readPieces (limit : Nat) : Nat → List Char → Build Unit
  | 0, _ => return
  | _ + 1, [] => return
  | fuel + 1, cs => do
    let s ← get
    let sections :=
      match s.stack with
      | id :: _ => !(s.draft.label id).isHtml
      | [] => false
    let (piece, rest) := readPiece limit s.content s.contentElement sections cs
    -- a line feed is kept if its reference lacks the semicolon
    if startsOpenNumber cs then modify fun s => { s with skipNewline := false }
    acceptPiece piece
    readPieces limit fuel (if endsScript s.mode piece then dropByteOrderMark rest else rest)

end Build

/-- The document that a text stands for. -/
def parse (text : String) : Document :=
  let cs := normalizeNewlines (Build.dropByteOrderMark text.toList)
  let limit := cs.length + 1
  let build : Build Unit := do
    Build.readPieces limit limit cs
    Build.accept .eof
  (build.run .start).2.draft.finish

end Glean.Html
