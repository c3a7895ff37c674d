import Glean.Css.Token

/-!
# Glean.Css.Component

Tokens gathered into blocks.  A bracket or a function opens a block that lasts
to the bracket that closes it, or to the end of the text; a closing bracket
that closes nothing stays a token.
-/

namespace Glean.Css

/-! ## Components -/

/-- A token, or a block with the token that opens it. -/
inductive Component where
  | token (t : Token)
  | block (opener : Token) (body : List Component)

/-- The token a component begins with. -/
def Component.head : Component → Token
  | .token t => t
  | .block opener _ => opener

/-- The token that closes what this one opens. -/
def Token.closer? : Token → Option Token
  | .function _ | .openParen => some .closeParen
  | .openSquare => some .closeSquare
  | .openCurly => some .closeCurly
  | _ => none

/-! ## Gathering -/

/-- Gather components up to the token `closer`, with a bound on the steps. -/
def gather (closer : Option Token) : Nat → List Token → List Component × List Token
  | 0, ts => ([], ts)
  | _ + 1, [] => ([], [])
  | fuel + 1, t :: rest =>
    if some t = closer then ([], rest)
    else
      match t.closer? with
      | some inner =>
        let (body, rest) := gather (some inner) fuel rest
        let (siblings, rest) := gather closer fuel rest
        (.block t body :: siblings, rest)
      | none =>
        let (siblings, rest) := gather closer fuel rest
        (.token t :: siblings, rest)

/-- The components of a text. -/
def components (text : String) : List Component :=
  let ts := tokens text
  (gather none (ts.length + 1) ts).1

/-! ## Walking -/

mutual

/-- The number of components, those inside blocks included. -/
def Component.size : Component → Nat
  | .token _ => 1
  | .block _ body => 1 + sizeOfAll body

/-- The number of components in a list, those inside blocks included. -/
def sizeOfAll : List Component → Nat
  | [] => 0
  | c :: rest => c.size + sizeOfAll rest

end

/-- Whether the component is white space. -/
def Component.isSpace : Component → Bool
  | .token (.whiteSpace _) => true
  | _ => false

/-- Drop the white space in front. -/
def skipSpace (cs : List Component) : List Component := cs.dropWhile Component.isSpace

/-- Split at the commas outside blocks; there is always at least one piece. -/
def splitCommas : List Component → List (List Component)
  | [] => [[]]
  | .token .comma :: rest => [] :: splitCommas rest
  | c :: rest =>
    match splitCommas rest with
    | piece :: pieces => (c :: piece) :: pieces
    | [] => [[c]]

end Glean.Css
