import Glean.Css.Selector.Nth

/-!
# Glean.Css.Selector.Parse

Selectors from text.  A list of selectors is split at its commas; each entry
is a chain of compound selectors with combinators between them, and has to be
used up.  The lists of `:is()` and `:where()` forgive: an entry that cannot be
read matches nothing.

The readers that go into blocks take a bound on the depth of the recursion;
the number of components is enough, since every call consumes one or enters a
block.
-/

namespace Glean.Css

/-! ## Names with a namespace -/

/-- What stands in front of the bar of a name. -/
inductive NamePrefix where
  /-- There is no bar. -/
  | implicit
  /-- A bar with nothing in front of it. -/
  | noNamespace
  /-- A star and a bar. -/
  | anyNamespace

/-- The name behind a bar; a star is a name too, but not of an attribute. -/
def readBehindBar (inAttribute : Bool) : Reader (Option String) := do
  let c ← Reader.next
  match c.head with
  | .ident name => return some name
  | t =>
    if inAttribute then throw (.attributeNamespaceNeedsName t)
    else if t = .delim '*' then return none
    else throw (.namespaceNeedsName t)

/-- A name with its namespace, where `none` inside is the star; the outer
`none` says that no name begins here, and nothing is consumed. -/
def readQualifiedName (inAttribute : Bool) : Reader (Option (NamePrefix × Option String)) := do
  match ← Reader.remaining with
  | [] => throw .unexpectedEnd
  | .token (.ident name) :: .token (.delim '|') :: rest =>
    Reader.resume rest
    throw (.unknownNamespace name)
  | .token (.ident name) :: rest =>
    Reader.resume rest
    return some (.implicit, some name)
  | .token (.delim '*') :: .token (.delim '|') :: rest =>
    Reader.resume rest
    return some (.anyNamespace, ← readBehindBar inAttribute)
  | .token (.delim '*') :: rest =>
    Reader.resume rest
    if inAttribute then throw (.attributeNeedsBar (← Reader.next).head)
    else return some (.implicit, none)
  | .token (.delim '|') :: rest =>
    Reader.resume rest
    return some (.noNamespace, ← readBehindBar inAttribute)
  | _ => return none

/-- The conditions of a type selector, none if there is no type selector here.
A name that ends too early counts as no type selector. -/
def readType : Reader (List Simple) := do
  let answer ← tryCatch (readQualifiedName false) fun
    | .unexpectedEnd => return none
    | e => throw e
  match answer with
  | none => return []
  | some (nameKind, name) =>
    let condition : Simple :=
      match name with
      | some name => .type name
      | none => .universal
    match nameKind with
    | .noNamespace => return [.noNamespace, condition]
    | _ => return [condition]

/-! ## Attribute selectors -/

/-- The attributes whose values HTML compares without regard to case. -/
def caselessAttributes : List String :=
  ["accept", "accept-charset", "align", "alink", "axis", "bgcolor", "charset", "checked", "clear",
    "codetype", "color", "compact", "declare", "defer", "dir", "direction", "disabled", "enctype",
    "face", "frame", "hreflang", "http-equiv", "lang", "language", "link", "media", "method",
    "multiple", "nohref", "noresize", "noshade", "nowrap", "readonly", "rel", "rev", "rules",
    "scope", "scrolling", "selected", "shape", "target", "text", "type", "valign", "valuetype",
    "vlink"]

/-- The comparison that a token stands for. -/
def Token.comparison? : Token → Option Comparison
  | .delim '=' => some .equal
  | .includeMatch => some .includes
  | .dashMatch => some .dash
  | .prefixMatch => some .startsWith
  | .suffixMatch => some .endsWith
  | .substringMatch => some .contains
  | _ => none

/-- The flag behind the value of an attribute; without one the name decides. -/
def readCaseRule (name : String) (anyNamespace : Bool) : Reader CaseRule := do
  match skipSpace (← Reader.remaining) with
  | [] =>
    if !anyNamespace && caselessAttributes.contains (Text.asciiLower name) then
      return .insensitiveInHtml
    else return .sensitive
  | c :: rest =>
    Reader.resume rest
    match c.head with
    | .ident flag =>
      match Text.asciiLower flag with
      | "i" => return .insensitive
      | "s" => return .sensitive
      | _ => throw (.unexpectedToken c.head)
    | t => throw (.unexpectedToken t)

/-- What stands between the square brackets of an attribute selector. -/
def readAttribute : Reader Simple := do
  Reader.resume (skipSpace (← Reader.remaining))
  match ← readQualifiedName true with
  | some (nameKind, some name) =>
    let anyNamespace :=
      match nameKind with
      | .anyNamespace => true
      | _ => false
    match skipSpace (← Reader.remaining) with
    | [] => return .attribute ⟨name, anyNamespace, none⟩
    | c :: rest =>
      Reader.resume rest
      match c.head.comparison? with
      | none => throw (.attributeNeedsOperator c.head)
      | some comparison =>
        let v ← Reader.nextSolid
        match v.head with
        | .ident value | .quoted value =>
          let rule ← readCaseRule name anyNamespace
          return .attribute ⟨name, anyNamespace, some (comparison, value, rule)⟩
        | t => throw (.attributeNeedsValue t)
  | _ => throw (.attributeNeedsName (← Reader.next).head)

/-! ## Pseudo-classes -/

/-- The pseudo-classes without arguments. -/
def simplePseudo? (name : String) : Option Simple :=
  match Text.asciiLower name with
  | "first-child" => some (.nth .child .first)
  | "last-child" => some (.nth .lastChild .first)
  | "only-child" => some (.nth .onlyChild .first)
  | "first-of-type" => some (.nth .ofType .first)
  | "last-of-type" => some (.nth .lastOfType .first)
  | "only-of-type" => some (.nth .onlyOfType .first)
  | "root" => some .root
  | "empty" => some .empty
  | "scope" => some .scope
  | _ => none

/-- The pseudo-classes that count siblings. -/
def counting? (name : String) : Option Counting :=
  match Text.asciiLower name with
  | "nth-child" => some .child
  | "nth-last-child" => some .lastChild
  | "nth-of-type" => some .ofType
  | "nth-last-of-type" => some .lastOfType
  | _ => none

/-- The pseudo-elements that may be written with one colon. -/
def isEarlyPseudoElement (name : String) : Bool :=
  ["before", "after", "first-line", "first-letter"].contains (Text.asciiLower name)

/-- Where a selector stands. -/
structure Surroundings where
  /-- Inside the list of another pseudo-class, where no pseudo-element may stand. -/
  nested : Bool := false
  /-- Inside `:has()`, which may not stand inside itself. -/
  insideHas : Bool := false
  /-- Inside `:host()`, where no combinator may stand between two compound selectors. -/
  compoundOnly : Bool := false
deriving DecidableEq, Repr

/-! ## Chains -/

/-- The combinator at the front, if there is one.  White space is one only if
something other than a combinator follows it. -/
def readCombinator? : Reader (Option Combinator) := do
  let start ← Reader.remaining
  let solid := skipSpace start
  match solid with
  | [] =>
    Reader.resume []
    return none
  | .token (.delim '>') :: rest =>
    Reader.resume rest
    return some .child
  | .token (.delim '+') :: rest =>
    Reader.resume rest
    return some .nextSibling
  | .token (.delim '~') :: rest =>
    Reader.resume rest
    return some .laterSibling
  | _ =>
    Reader.resume solid
    return if (start.head?.map Component.isSpace).getD false then some .descendant else none

mutual

/-- The selectors of a list. -/
def readList (fuel : Nat) (place : Surroundings) (forgiving relative : Bool)
    (body : List Component) : Except SelectorError SelectorList :=
  match fuel with
  | 0 => .error .emptySelector
  | fuel + 1 => (splitCommas body).mapM fun piece =>
    match Reader.readAll piece (readComplex fuel place relative) with
    | .ok selector => .ok selector
    | .error e => if forgiving then .ok .invalid else .error e

/-- One entry of a list.  A relative one starts with a combinator, if only an implied one. -/
def readComplex (fuel : Nat) (place : Surroundings) (relative : Bool) : Reader Complex :=
  match fuel with
  | 0 => throw .emptySelector
  | fuel + 1 => do
    Reader.resume (skipSpace (← Reader.remaining))
    if relative then
      let combinator := (← readCombinator?).getD .descendant
      readChain fuel place (some (.anchor, combinator))
    else readChain fuel place none

/-- A chain from one compound selector on, where `left` is what stands before it. -/
def readChain (fuel : Nat) (place : Surroundings) (left : Option (Complex × Combinator)) :
    Reader Complex :=
  match fuel with
  | 0 => throw .emptySelector
  | fuel + 1 => do
    Reader.resume (skipSpace (← Reader.remaining))
    let type ← readType
    let conditions := type ++ (← readConditions fuel place)
    if conditions.isEmpty then
      throw (if left.isSome then .danglingCombinator else .emptySelector)
    let chain : Complex :=
      match left with
      | none => .compound conditions
      | some (left, combinator) => .combine left combinator conditions
    match ← readCombinator? with
    | none => return chain
    | some combinator =>
      if place.compoundOnly then throw .invalidState
      else readChain fuel place (some (chain, combinator))

/-- The conditions of a compound selector behind its type selector. -/
def readConditions (fuel : Nat) (place : Surroundings) : Reader (List Simple) :=
  match fuel with
  | 0 => return []
  | fuel + 1 => do
    match ← Reader.remaining with
    | .token (.idHash name) :: rest =>
      Reader.resume rest
      return .id name :: (← readConditions fuel place)
    | .token (.delim '.') :: rest =>
      Reader.resume rest
      let c ← Reader.next
      match c.head with
      | .ident name => return .className name :: (← readConditions fuel place)
      | t => throw (.classNeedsName t)
    | .block .openSquare body :: rest =>
      Reader.resume rest
      let condition ← Reader.within body readAttribute
      return condition :: (← readConditions fuel place)
    | .token .colon :: rest =>
      Reader.resume rest
      let condition ← readPseudo fuel place
      return condition :: (← readConditions fuel place)
    | _ => return []

/-- What stands behind a colon. -/
def readPseudo (fuel : Nat) (place : Surroundings) : Reader Simple :=
  match fuel with
  | 0 => throw .emptySelector
  | fuel + 1 => do
    let c ← Reader.next
    let twoColons :=
      match c with
      | .token .colon => true
      | _ => false
    let c ← if twoColons then Reader.next else pure c
    match c with
    | .token (.ident name) =>
      if twoColons || isEarlyPseudoElement name then refuseElement name
      else
        match simplePseudo? name with
        | some condition => return condition
        | none => throw (.unsupportedPseudo name)
    | .block (.function name) body =>
      if twoColons || isEarlyPseudoElement name then refuseElement name
      else readFunctional fuel place name body
    | c => throw (.pseudoNeedsName c.head)
where
  /-- No pseudo-element is supported, and inside a list none is even looked at. -/
  refuseElement (name : String) : Reader Simple :=
    throw (if place.nested then .invalidState else .unsupportedPseudo name)

/-- A pseudo-class with arguments. -/
def readFunctional (fuel : Nat) (place : Surroundings) (name : String) (body : List Component) :
    Reader Simple :=
  match fuel with
  | 0 => throw .emptySelector
  | fuel + 1 =>
    match counting? name with
    | some counting => do
      let positions ← Reader.within body readProgression
      return .nth counting positions
    | none =>
      let inner : Surroundings := { place with nested := true }
      match Text.asciiLower name with
      | "is" | "where" => do
        return .is (← liftM (readList fuel inner true false body))
      | "not" => do
        return .not (← liftM (readList fuel inner false false body))
      | "has" =>
        if place.insideHas then throw .invalidState
        else do
          return .has (← liftM (readList fuel { inner with insideHas := true } false true body))
      | "host" => do
        let alone : Surroundings := { inner with compoundOnly := true }
        return .host (← Reader.within body (readComplex fuel alone false))
      | _ => throw (.unsupportedPseudo name)

end

/-- The list of selectors that a text denotes. -/
def parse (text : String) : Except SelectorError SelectorList :=
  let body := components text
  readList (4 * sizeOfAll body + 8) {} false false body

end Glean.Css
