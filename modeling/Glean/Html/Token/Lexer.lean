import Glean.Html.Reference
import Glean.Html.Token

/-!
# Glean.Html.Token.Lexer

Cutting HTML text into tokens.  Nothing is an error here: a tag that the text
ends in is dropped, a stray `<` is text, and what looks like a declaration but
is none becomes a comment.  Which characters are markup depends on the element
the text stands in (`Content`), so tokens are cut one at a time.

Readers that call each other in turn take a bound on their steps; the length
of the text is enough, since every step consumes a character.
-/

namespace Glean.Html

open Text (isAsciiLetter replacement)

/-! ## Line ends -/

/-- Turn every line end into a line feed. -/
def normalizeNewlines : List Char → List Char
  | [] => []
  | '\r' :: '\n' :: rest => '\n' :: normalizeNewlines rest
  | '\r' :: rest => '\n' :: normalizeNewlines rest
  | c :: rest => c :: normalizeNewlines rest

/-- The character, or the replacement for a null. -/
def orReplacement (c : Char) : Char := if c = '\x00' then replacement else c

/-! ## Attributes -/

/-- An attribute value up to where `stop` holds, with references read. -/
def readValue (stop : Char → Bool) : Nat → List Char → List Char × List Char
  | 0, cs => ([], cs)
  | _ + 1, [] => ([], [])
  | limit + 1, c :: rest =>
    if stop c then ([], c :: rest)
    else
      match if c = '&' then readReference? true rest else none with
      | some (value, rest) =>
        let (more, rest) := readValue stop limit rest
        (value ++ more, rest)
      | none =>
        let (more, rest) := readValue stop limit rest
        (orReplacement c :: more, rest)

/-- The value behind an equals sign; `none` if the text ends in it. -/
def readAttributeValue? (limit : Nat) (cs : List Char) : Option (String × List Char) :=
  let cs := cs.dropWhile isHtmlSpace
  let quoted (quote : Char) (rest : List Char) : Option (String × List Char) :=
    match readValue (· == quote) limit rest with
    | (value, _ :: rest) => some (String.ofList value, rest)
    | (_, []) => none
  match cs with
  | [] => none
  | '"' :: rest => quoted '"' rest
  | '\x27' :: rest => quoted '\x27' rest
  | '>' :: _ => some ("", cs)
  | _ =>
    let (value, rest) := readValue (fun c => isHtmlSpace c || c == '>') limit cs
    some (String.ofList value, rest)

/-- The name of an attribute, in lower case.  An equals sign can only begin it. -/
def readAttributeName (cs : List Char) : String × List Char :=
  let (first, rest) :=
    match cs with
    | '=' :: rest => (['='], rest)
    | _ => ([], cs)
  let (name, rest) := rest.span fun c => !(isHtmlSpace c || c == '/' || c == '>' || c == '=')
  (String.ofList (first ++ name.map fun c => orReplacement c.toLower), rest)

/-- The attributes of a tag up to its end, and whether a slash closes it; `none`
if the text ends in the tag.  Of two attributes of one name the first counts. -/
def readAttributes? (limit : Nat) :
    Nat → List (String × String) → List Char → Option (List (String × String) × Bool × List Char)
  | 0, _, _ => none
  | fuel + 1, found, cs =>
    match cs.dropWhile isHtmlSpace with
    | [] => none
    | '>' :: rest => some (found, false, rest)
    | '/' :: '>' :: rest => some (found, true, rest)
    | '/' :: rest => readAttributes? limit fuel found rest
    | cs =>
      let (name, rest) := readAttributeName cs
      let add (value : String) : List (String × String) :=
        if found.any (·.1 == name) then found else found ++ [(name, value)]
      match rest.dropWhile isHtmlSpace with
      | '=' :: rest =>
        match readAttributeValue? limit rest with
        | none => none
        | some (value, rest) => readAttributes? limit fuel (add value) rest
      | _ => readAttributes? limit fuel (add "") rest

/-- A tag from its name on; `none` if the text ends in it. -/
def readTag? (limit : Nat) (cs : List Char) : Option (Tag × List Char) :=
  let (name, rest) := cs.span fun c => !(isHtmlSpace c || c == '/' || c == '>')
  (readAttributes? limit limit [] rest).map fun (attributes, selfClosing, rest) =>
    (⟨String.ofList (name.map fun c => orReplacement c.toLower), attributes, selfClosing⟩, rest)

/-! ## Comments -/

/-- How much of the end of a comment has been seen. -/
inductive CommentEnd where
  /-- Nothing since the opening, where `>` and `->` end the comment too. -/
  | start
  | startDash
  | inside
  | dash
  | dashes
  | bang

/-- The rest of a comment behind its opening, and what follows the comment. -/
def readComment : CommentEnd → List Char → List Char × List Char
  | _, [] => ([], [])
  | .start, '-' :: rest => readComment .startDash rest
  | .start, '>' :: rest => ([], rest)
  | .startDash, '-' :: rest => readComment .dashes rest
  | .startDash, '>' :: rest => ([], rest)
  | .inside, '-' :: rest => readComment .dash rest
  | .dash, '-' :: rest => readComment .dashes rest
  | .dashes, '>' :: rest => ([], rest)
  | .dashes, '!' :: rest => readComment .bang rest
  | .dashes, '-' :: rest => add ['-'] (readComment .dashes rest)
  | .bang, '-' :: rest => add ['-', '-', '!'] (readComment .dash rest)
  | .bang, '>' :: rest => ([], rest)
  | .startDash, c :: rest => add ['-', orReplacement c] (readComment .inside rest)
  | .dash, c :: rest => add ['-', orReplacement c] (readComment .inside rest)
  | .dashes, c :: rest => add ['-', '-', orReplacement c] (readComment .inside rest)
  | .bang, c :: rest => add ['-', '-', '!', orReplacement c] (readComment .inside rest)
  | _, c :: rest => add [orReplacement c] (readComment .inside rest)
where
  /-- Put characters in front of the content. -/
  add (cs : List Char) (read : List Char × List Char) : List Char × List Char :=
    (cs ++ read.1, read.2)

/-- A comment that ends at the next `>`. -/
def readBogusComment (cs : List Char) : Token × List Char :=
  let (content, rest) := cs.span (· != '>')
  (.comment (String.ofList (content.map orReplacement)), rest.drop 1)

/-! ## Document types -/

/-- The end of a document type declaration: everything up to `>` is skipped. -/
def skipDoctype (cs : List Char) : List Char := (cs.dropWhile (· != '>')).drop 1

/-- A quoted identifier behind its opening quote; `none` if `>` or the end of the
text breaks it. -/
def readIdentifier (quote : Char) (cs : List Char) : String × Option (List Char) :=
  let (content, rest) := cs.span fun c => c != quote && c != '>'
  let content := String.ofList (content.map orReplacement)
  match rest with
  | c :: after => (content, if c == quote then some after else none)
  | [] => (content, none)

/-- The system identifier and the end of a declaration, where the quote may be missing. -/
def readSystem (d : Doctype) (cs : List Char) : Doctype × List Char :=
  let cs := cs.dropWhile isHtmlSpace
  let identifier (quote : Char) (rest : List Char) : Doctype × List Char :=
    match readIdentifier quote rest with
    | (id, some after) =>
      let after := after.dropWhile isHtmlSpace
      ({ d with systemId := some id, forceQuirks := d.forceQuirks || after.isEmpty },
        skipDoctype after)
    | (id, none) => ({ d with systemId := some id, forceQuirks := true }, skipDoctype rest)
  match cs with
  | '"' :: rest => identifier '"' rest
  | '\x27' :: rest => identifier '\x27' rest
  | _ => ({ d with forceQuirks := true }, skipDoctype cs)

/-- The public identifier and the rest of a declaration. -/
def readPublic (d : Doctype) (cs : List Char) : Doctype × List Char :=
  let cs := cs.dropWhile isHtmlSpace
  let identifier (quote : Char) (rest : List Char) : Doctype × List Char :=
    match readIdentifier quote rest with
    | (id, some after) =>
      let d := { d with publicId := some id }
      match after.dropWhile isHtmlSpace with
      | '>' :: rest => (d, rest)
      | after => readSystem d after
    | (id, none) => ({ d with publicId := some id, forceQuirks := true }, skipDoctype rest)
  match cs with
  | '"' :: rest => identifier '"' rest
  | '\x27' :: rest => identifier '\x27' rest
  | _ => ({ d with forceQuirks := true }, skipDoctype cs)

/-- Whether the text begins with a word in lower case, in any ASCII case. -/
def startsWithWord (word : String) (cs : List Char) : Bool :=
  (cs.take word.length).map Char.toLower == word.toList

/-- A document type declaration behind its keyword. -/
def readDoctype (cs : List Char) : Doctype × List Char :=
  let cs := cs.dropWhile isHtmlSpace
  match cs with
  | [] => (⟨none, none, none, true⟩, [])
  | '>' :: rest => (⟨none, none, none, true⟩, rest)
  | _ =>
    let (name, rest) := cs.span fun c => !(isHtmlSpace c || c == '>')
    let name := String.ofList (name.map fun c => orReplacement c.toLower)
    let d : Doctype := ⟨some name, none, none, false⟩
    match rest.dropWhile isHtmlSpace with
    | [] => ({ d with forceQuirks := true }, [])
    | '>' :: rest => (d, rest)
    | rest =>
      if startsWithWord "public" rest then readPublic d (rest.drop 6)
      else if startsWithWord "system" rest then readSystem d (rest.drop 6)
      else ({ d with forceQuirks := true }, skipDoctype rest)

/-! ## Text -/

/-- Whether markup begins behind a `<`. -/
def startsMarkup : List Char → Bool
  | '/' :: _ :: _ => true
  | '!' :: _ => true
  | '?' :: _ => true
  | c :: _ => isAsciiLetter c
  | [] => false

/-- Whether the end tag of the element `name` begins behind a `<`. -/
def startsEndTag (name : String) : List Char → Bool
  | '/' :: rest =>
    startsWithWord name rest &&
      match rest.drop name.length with
      | c :: _ => isHtmlSpace c || c == '/' || c == '>'
      | [] => false
  | _ => false

/-- Text up to where `stop` holds of a character and what follows it, with references read. -/
def readText (stop : Char → List Char → Bool) : Nat → List Char → List Char × List Char
  | 0, cs => ([], cs)
  | _ + 1, [] => ([], [])
  | limit + 1, c :: rest =>
    if stop c rest then ([], c :: rest)
    else
      match if c = '&' then readReference? false rest else none with
      | some (value, rest) =>
        let (more, rest) := readText stop limit rest
        (value ++ more, rest)
      | none =>
        let (more, rest) := readText stop limit rest
        (orReplacement c :: more, rest)

/-- Text up to where `stop` holds of a character and what follows it. -/
def readRawText (stop : Char → List Char → Bool) : List Char → List Char × List Char
  | [] => ([], [])
  | c :: rest =>
    if stop c rest then ([], c :: rest)
    else
      let (more, rest) := readRawText stop rest
      (orReplacement c :: more, rest)

/-- The content of a character data section, and what follows its end. -/
def readSection : List Char → List Char × List Char
  | [] => ([], [])
  | ']' :: ']' :: '>' :: rest => ([], rest)
  | c :: rest =>
    let (more, rest) := readSection rest
    (c :: more, rest)

/-! ## Scripts -/

/-- Where in a script the text stands.  In a comment the end tag still ends the
script, unless the comment has opened a script of its own. -/
inductive ScriptPlace where
  | plain
  /-- Behind `<`, `<!` or `<!-`. -/
  | opening (seen : Nat)
  /-- In a comment, behind at most two dashes. -/
  | comment (dashes : Nat)
  /-- In a comment, in the name of a tag. -/
  | startName (name : List Char)
  /-- In a script in a comment, behind at most two dashes. -/
  | inner (dashes : Nat)
  /-- In a script in a comment, behind `<`. -/
  | innerLess
  /-- In a script in a comment, in the name of an end tag. -/
  | endName (name : List Char)

namespace ScriptPlace

/-- The place behind a character of plain script. -/
def afterPlain (c : Char) : ScriptPlace := if c = '<' then .opening 1 else .plain

/-- The place behind a character of a comment. -/
def afterComment (dashes : Nat) (c : Char) (rest : List Char) : ScriptPlace :=
  if c = '-' then .comment (min 2 (dashes + 1))
  else if c = '<' then
    match rest with
    | d :: _ => if isAsciiLetter d then .startName [] else .comment 0
    | [] => .comment 0
  else if c = '>' ∧ dashes = 2 then .plain
  else .comment 0

/-- The place behind a character of a script in a comment. -/
def afterInner (dashes : Nat) (c : Char) : ScriptPlace :=
  if c = '-' then .inner (min 2 (dashes + 1))
  else if c = '<' then .innerLess
  else if c = '>' ∧ dashes = 2 then .plain
  else .inner 0

/-- Whether the character ends the name of a tag. -/
def endsName (c : Char) : Bool := isHtmlSpace c || c == '/' || c == '>'

/-- The place behind the next character. -/
def after (c : Char) (rest : List Char) : ScriptPlace → ScriptPlace
  | .plain => afterPlain c
  | .opening 1 => if c = '!' then .opening 2 else afterPlain c
  | .opening 2 => if c = '-' then .opening 3 else afterPlain c
  | .opening _ => if c = '-' then .comment 2 else afterPlain c
  | .comment dashes => afterComment dashes c rest
  | .startName name =>
    if isAsciiLetter c then .startName (name ++ [c.toLower])
    else if endsName c then if name = "script".toList then .inner 0 else .comment 0
    else afterComment 0 c rest
  | .inner dashes => afterInner dashes c
  | .innerLess => if c = '/' then .endName [] else afterInner 0 c
  | .endName name =>
    if isAsciiLetter c then .endName (name ++ [c.toLower])
    else if endsName c then if name = "script".toList then .comment 0 else .inner 0
    else afterInner 0 c

/-- Whether an end tag of the script counts here. -/
def canEnd : ScriptPlace → Bool
  | .plain | .opening _ | .comment _ | .startName _ => true
  | _ => false

end ScriptPlace

/-- The text of a script up to its end tag. -/
def readScript (place : ScriptPlace) : List Char → List Char × List Char
  | [] => ([], [])
  | c :: rest =>
    if c = '<' ∧ place.canEnd ∧ startsEndTag "script" rest then ([], c :: rest)
    else
      let (more, rest) := readScript (place.after c rest) rest
      (orReplacement c :: more, rest)

/-! ## One token -/

/-- What cutting yields: a run of characters, some other token, or nothing at all. -/
inductive Piece where
  | characters (cs : List Char)
  | token (t : Token)
  | nothing

/-- The markup behind a `<` where one begins. -/
def readMarkup (limit : Nat) (sections : Bool) (cs : List Char) : Piece × List Char :=
  match cs with
  | '!' :: '-' :: '-' :: rest =>
    let (content, rest) := readComment .start rest
    (.token (.comment (String.ofList content)), rest)
  | '!' :: rest =>
    if startsWithWord "doctype" rest then
      let (d, rest) := readDoctype (rest.drop 7)
      (.token (.doctype d), rest)
    else if sections && rest.take 7 == "[CDATA[".toList then
      let (content, rest) := readSection (rest.drop 7)
      (.characters content, rest)
    else bogus rest
  | '/' :: '>' :: rest => (.nothing, rest)
  | '/' :: c :: rest =>
    if isAsciiLetter c then
      match readTag? limit (c :: rest) with
      | some (tag, rest) => (.token (.endTag tag), rest)
      | none => (.nothing, [])
    else bogus (c :: rest)
  | '?' :: _ => bogus cs
  | _ =>
    match readTag? limit cs with
    | some (tag, rest) => (.token (.startTag tag), rest)
    | none => (.nothing, [])
where
  /-- A comment that is none. -/
  bogus (cs : List Char) : Piece × List Char :=
    let (t, rest) := readBogusComment cs
    (.token t, rest)

/-- The next piece of a text that is not at its end.  `element` is the element
whose end tag ends the text, if only that does; `sections` says whether
character data sections are known here. -/
def readPiece (limit : Nat) (content : Content) (element : String) (sections : Bool)
    (cs : List Char) : Piece × List Char :=
  match content with
  | .data =>
    match cs with
    | '\x00' :: rest => (.token .null, rest)
    | '<' :: rest => if startsMarkup rest then readMarkup limit sections rest else text cs
    | _ => text cs
  | .escapable =>
    upToEndTag (readText (fun c rest => c == '<' && startsEndTag element rest) limit cs)
  | .raw => upToEndTag (readRawText (fun c rest => c == '<' && startsEndTag element rest) cs)
  | .script => upToEndTag (readScript .plain cs)
  | .plain => (.characters (cs.map orReplacement), [])
where
  /-- Text up to markup or a null. -/
  text (cs : List Char) : Piece × List Char :=
    let (run, rest) :=
      readText (fun c rest => c == '\x00' || (c == '<' && startsMarkup rest)) limit cs
    (.characters run, rest)
  /-- Text, or the end tag if no text stands in front of it. -/
  upToEndTag (read : List Char × List Char) : Piece × List Char :=
    match read with
    | ([], '<' :: rest) => readMarkup limit false rest
    | (run, rest) => (.characters run, rest)

end Glean.Html
