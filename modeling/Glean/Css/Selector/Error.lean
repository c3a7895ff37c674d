import Glean.Css.Token
import Glean.Number.Shortest
import Glean.Text.Quoted

/-!
# Glean.Css.Selector.Error

Why a text is no list of selectors, and how that is worded.  The common faults
are named in a sentence; the others are reported as an outline of the fault,
with one line for each of its parts.
-/

namespace Glean.Css

/-- Why a text is no list of selectors. -/
inductive SelectorError where
  /-- A token that fits nowhere. -/
  | unexpectedToken (t : Token)
  /-- The text, or a block in it, ends too early. -/
  | unexpectedEnd
  | emptySelector
  /-- A combinator with no compound selector behind it. -/
  | danglingCombinator
  /-- A pseudo-element, a relational pseudo-class or a combinator where none is allowed. -/
  | invalidState
  | pseudoNeedsName (t : Token)
  | classNeedsName (t : Token)
  | unsupportedPseudo (name : String)
  | unknownNamespace (name : String)
  | namespaceNeedsName (t : Token)
  | attributeNeedsName (t : Token)
  | attributeNamespaceNeedsName (t : Token)
  | attributeNeedsBar (t : Token)
  | attributeNeedsOperator (t : Token)
  | attributeNeedsValue (t : Token)
deriving DecidableEq, Repr

/-! ## Outlines -/

/-- A fault laid out in parts. -/
inductive Outline where
  | leaf (text : String)
  | tuple (name : String) (part : Outline)
  | fields (name : String) (parts : List (String × Outline))

/-- `depth` levels of indentation. -/
def indentation (depth : Nat) : String := String.ofList (List.replicate (4 * depth) ' ')

mutual

/-- An outline whose parts are set one level deeper than `depth`. -/
def Outline.text (depth : Nat) : Outline → String
  | .leaf s => s
  | .tuple name part =>
    name ++ "(\n" ++ indentation (depth + 1) ++ part.text (depth + 1) ++ ",\n" ++
      indentation depth ++ ")"
  | .fields name parts =>
    name ++ " \x7b\n" ++ fieldLines (depth + 1) parts ++ indentation depth ++ "\x7d"

/-- One line for each named part. -/
def fieldLines (depth : Nat) : List (String × Outline) → String
  | [] => ""
  | (name, part) :: rest =>
    indentation depth ++ name ++ ": " ++ part.text depth ++ ",\n" ++ fieldLines depth rest

end

/-! ## Tokens in messages -/

/-- How an outline writes numbers: those below `0.0001` have an exponent. -/
def outlineStyle : FloatStyle := { least := -4, plus := false }

namespace Numeric

/-- The parts of a number in an outline. -/
def outlineParts (n : Numeric) (label : String) (value : FloatNumber) : List (String × Outline) :=
  [("has_sign", .leaf (if n.sign.isSome then "true" else "false")),
    (label, .leaf (FloatFormat.binary32.displayExact outlineStyle value)),
    ("int_value",
      match n.int? with
      | some i => .tuple "Some" (.leaf (toString i))
      | none => .leaf "None")]

/-- A number in a sentence; one with a sign has the sign of its value in front of the value. -/
def words (n : Numeric) (value : FloatNumber) : String :=
  let text := FloatFormat.binary32.display value
  match n.sign with
  | none => text
  | some _ =>
    match value with
    | .finite false (_ + 1) _ | .infinite false => "+" ++ text
    | _ => "-" ++ text

end Numeric

namespace Token

/-- A token in an outline. -/
def outline : Token → Outline
  | .ident s => .tuple "Ident" (quoted s)
  | .atKeyword s => .tuple "AtKeyword" (quoted s)
  | .hash s => .tuple "Hash" (quoted s)
  | .idHash s => .tuple "IDHash" (quoted s)
  | .quoted s => .tuple "QuotedString" (quoted s)
  | .unquotedUrl s => .tuple "UnquotedUrl" (quoted s)
  | .delim c => .tuple "Delim" (.leaf (Text.quoteSingle c))
  | .number n => .fields "Number" (n.outlineParts "value" n.single)
  | .percentage n => .fields "Percentage" (n.outlineParts "unit_value" n.singleHundredth)
  | .dimension n unit =>
    .fields "Dimension" (n.outlineParts "value" n.single ++ [("unit", quoted unit)])
  | .whiteSpace s => .tuple "WhiteSpace" (quoted s)
  | .colon => .leaf "Colon"
  | .semicolon => .leaf "Semicolon"
  | .comma => .leaf "Comma"
  | .includeMatch => .leaf "IncludeMatch"
  | .dashMatch => .leaf "DashMatch"
  | .prefixMatch => .leaf "PrefixMatch"
  | .suffixMatch => .leaf "SuffixMatch"
  | .substringMatch => .leaf "SubstringMatch"
  | .commentOpen => .leaf "CDO"
  | .commentClose => .leaf "CDC"
  | .function s => .tuple "Function" (quoted s)
  | .openParen => .leaf "ParenthesisBlock"
  | .openSquare => .leaf "SquareBracketBlock"
  | .openCurly => .leaf "CurlyBracketBlock"
  | .badUrl s => .tuple "BadUrl" (quoted s)
  | .badString s => .tuple "BadString" (quoted s)
  | .closeParen => .leaf "CloseParenthesis"
  | .closeSquare => .leaf "CloseSquareBracket"
  | .closeCurly => .leaf "CloseCurlyBracket"
where
  /-- A text in quotes. -/
  quoted (s : String) : Outline := .leaf (Text.quote s)

/-- A token in a sentence. -/
def words : Token → String
  | .ident s => s
  | .atKeyword s => "@" ++ s
  | .hash s | .idHash s => "#" ++ s
  | .quoted s => "\"" ++ s ++ "\""
  | .unquotedUrl s => s
  | .delim c => String.singleton c
  | .number n => n.words n.single
  | .percentage n => n.words n.singleHundredth ++ "%"
  | .dimension n unit => n.words n.single ++ unit
  | .whiteSpace _ => " "
  | .colon => ":"
  | .semicolon => ";"
  | .comma => ","
  | .includeMatch => "~="
  | .dashMatch => "|="
  | .prefixMatch => "^="
  | .suffixMatch => "$="
  | .substringMatch => "*="
  | .commentOpen => "<!--"
  | .commentClose => "-->"
  | .function s => s ++ "()"
  | .openParen => "<("
  | .openSquare => "<["
  | .openCurly => "<\x7b"
  | .badUrl s => "<Bad URL " ++ Text.quote s ++ ">"
  | .badString s => "<Bad String " ++ Text.quote s ++ ">"
  | .closeParen => "<)"
  | .closeSquare => "<]"
  | .closeCurly => "<\x7d"

end Token

/-! ## Messages -/

namespace SelectorError

/-- What introduces an outline. -/
def preamble : String := "Unexpected error occurred. Please report this to the developer\n"

/-- The outline of a fault that has no sentence of its own. -/
def outline : SelectorError → Outline
  | .emptySelector => .leaf "EmptySelector"
  | .danglingCombinator => .leaf "DanglingCombinator"
  | .invalidState => .leaf "InvalidState"
  | .classNeedsName t => .tuple "ClassNeedsIdent" t.outline
  | .unsupportedPseudo name => .tuple "UnsupportedPseudoClassOrElement" (.leaf (Text.quote name))
  | .unknownNamespace name => .tuple "ExpectedNamespace" (.leaf (Text.quote name))
  | .namespaceNeedsName t => .tuple "ExplicitNamespaceUnexpectedToken" t.outline
  | .attributeNeedsName t => .tuple "NoQualifiedNameInAttributeSelector" t.outline
  | .attributeNamespaceNeedsName t => .tuple "InvalidQualNameInAttr" t.outline
  | .attributeNeedsBar t => .tuple "ExpectedBarInAttr" t.outline
  | .attributeNeedsOperator t => .tuple "UnexpectedTokenInAttributeSelector" t.outline
  | .attributeNeedsValue t => .tuple "BadValueInAttr" t.outline
  | .unexpectedToken t => .tuple "UnexpectedToken" t.outline
  | .pseudoNeedsName t => .tuple "PseudoElementExpectedIdent" t.outline
  | .unexpectedEnd => .leaf "EndOfInput"

/-- The wording of a selector error. -/
def message : SelectorError → String
  | .unexpectedToken t => "Token " ++ Text.quote t.words ++ " was not expected"
  | .unexpectedEnd => "Unexpected EOL"
  | .pseudoNeedsName t =>
    "Expected identity for pseudoelement, got " ++ Text.quote t.words ++ " instead"
  | e => preamble ++ e.outline.text 0

end SelectorError

end Glean.Css
