/-!
# Glean.Css.Selector

Selectors as data.  A complex selector is a chain of compound selectors read
from the right: the last compound describes the element itself, and each
combinator in front of it says where the rest of the chain has to be found.
-/

namespace Glean.Css

/-! ## Parts -/

/-- How two compound selectors are related. -/
inductive Combinator where
  | descendant
  | child
  | nextSibling
  | laterSibling
deriving DecidableEq, Repr

/-- How an attribute is compared with the value in the selector. -/
inductive Comparison where
  | equal
  /-- One of the words between white space. -/
  | includes
  /-- The value, alone or with a hyphen behind it. -/
  | dash
  | startsWith
  | endsWith
  | contains
deriving DecidableEq, Repr

/-- Whether ASCII case matters in a comparison. -/
inductive CaseRule where
  | sensitive
  | insensitive
  /-- Insensitive in elements of HTML, sensitive in all others. -/
  | insensitiveInHtml
deriving DecidableEq, Repr

/-- A condition on one attribute.  In elements of HTML the name is looked up in lower case. -/
structure AttributeTest where
  name : String
  /-- Whether the attribute may belong to any namespace, not only to none. -/
  anyNamespace : Bool
  /-- The comparison, if presence is not enough. -/
  value : Option (Comparison × String × CaseRule)
deriving DecidableEq, Repr

/-- Which siblings are counted, and from which end. -/
inductive Counting where
  | child
  | lastChild
  | onlyChild
  | ofType
  | lastOfType
  | onlyOfType
deriving DecidableEq, Repr

/-- The positions `step * n + offset` for whole `n` from zero upwards. -/
structure Progression where
  step : Int
  offset : Int
deriving DecidableEq, Repr

/-- The first position alone. -/
def Progression.first : Progression := ⟨0, 1⟩

/-- Whether the position is one of the progression.  The distance from the
offset has to fit in 32 bits. -/
def Progression.holds (p : Progression) (position : Int) : Bool :=
  let distance := position - p.offset
  if (Nat.pow 2 31 : Int) ≤ distance then false
  else if p.step = 0 then distance == 0
  else distance.tdiv p.step * p.step == distance && 0 ≤ distance.tdiv p.step

/-! ## Selectors -/

mutual

/-- One condition on an element. -/
inductive Simple where
  /-- The local name; elements of HTML are compared in lower case. -/
  | type (name : String)
  | universal
  /-- An element without a namespace, of which a parsed document has none. -/
  | noNamespace
  | id (value : String)
  | className (value : String)
  | attribute (test : AttributeTest)
  | root
  | empty
  | scope
  | nth (counting : Counting) (positions : Progression)
  | not (selectors : List Complex)
  | is (selectors : List Complex)
  /-- Some element that stands in the given relation to this one. -/
  | has (selectors : List Complex)
  /-- The host of a shadow tree, of which a parsed document has none. -/
  | host (selector : Complex)

/-- A chain of compound selectors. -/
inductive Complex where
  | compound (conditions : List Simple)
  /-- The chain `left`, a combinator, and the conditions on the element itself. -/
  | combine (left : Complex) (combinator : Combinator) (conditions : List Simple)
  /-- The element that a relative selector starts from. -/
  | anchor
  /-- An entry that a forgiving list could not read, which matches nothing. -/
  | invalid

end

/-- A list of selectors; an element matches if it matches one of them. -/
abbrev SelectorList := List Complex

end Glean.Css
