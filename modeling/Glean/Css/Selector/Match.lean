import Glean.Css.Selector
import Glean.Html.Node
import Glean.Text.Lowercase

/-!
# Glean.Css.Selector.Match

When an element matches a selector.  The definition follows the selector: a
chain matches if its last compound describes the element and what stands
before the combinator matches one of the elements the combinator leads to.
-/

namespace Glean.Css

open Glean.Html

/-! ## Names and values -/

/-- A name of a selector as it is compared with the names of an element. -/
def nameFor (l : Label) (name : String) : String :=
  match l.vocabulary with
  | .html => Text.asciiLower name
  | _ => name

/-- Whether ASCII case is ignored for this element. -/
def CaseRule.ignores (l : Label) : CaseRule → Bool
  | .sensitive => false
  | .insensitive => true
  | .insensitiveInHtml => l.vocabulary == .html

/-- The words between the white space of CSS, some of which may be empty. -/
def splitSpaces : List Char → List (List Char)
  | [] => [[]]
  | c :: rest =>
    if c == ' ' || c == '\t' || c == '\n' || c == '\r' || c == '\x0c' then [] :: splitSpaces rest
    else
      match splitSpaces rest with
      | word :: words => (c :: word) :: words
      | [] => [[c]]

/-- Whether the characters occur in a row somewhere in a text. -/
def isInfix (wanted : List Char) : List Char → Bool
  | [] => wanted.isEmpty
  | c :: rest => wanted.isPrefixOf (c :: rest) || isInfix wanted rest

/-- Whether the value of an attribute compares with the wanted one.  The empty
text begins, ends and is part of every value. -/
def Comparison.holds (value wanted : List Char) : Comparison → Bool
  | .equal => value == wanted
  | .includes => (splitSpaces value).contains wanted
  | .dash => value == wanted || (wanted ++ ['-']).isPrefixOf value
  | .startsWith => wanted.isPrefixOf value
  | .endsWith => wanted.isSuffixOf value
  | .contains => isInfix wanted value

/-- Whether an element satisfies the condition on an attribute. -/
def AttributeTest.holds (t : AttributeTest) (l : Label) : Bool :=
  l.attributes.any fun a =>
    (t.anyNamespace || a.space == .none) && a.name == nameFor l t.name &&
      match t.value with
      | none => true
      | some (comparison, wanted, rule) =>
        let fold (s : String) : List Char :=
          if rule.ignores l then s.toList.map Char.toLower else s.toList
        comparison.holds (fold a.value) (fold wanted)

/-! ## Counting -/

/-- Whether two elements have the same type. -/
def sameType (l m : Label) : Bool := l.name == m.name && l.vocabulary == m.vocabulary

/-- The position of an element among its siblings, counted from one. -/
def positionOf (e : Located) (fromEnd ofType : Bool) : Nat :=
  let others := if fromEnd then e.after else e.before
  (others.filter fun s => !ofType || sameType s.label e.label).length + 1

/-- Whether the element stands at one of the positions. -/
def Counting.holds (p : Progression) (e : Located) : Counting → Bool
  | .child => p.holds (positionOf e false false)
  | .lastChild => p.holds (positionOf e true false)
  | .onlyChild => p.holds (positionOf e false false) && p.holds (positionOf e true false)
  | .ofType => p.holds (positionOf e false true)
  | .lastOfType => p.holds (positionOf e true true)
  | .onlyOfType => p.holds (positionOf e false true) && p.holds (positionOf e true true)

/-! ## Selectors -/

/-- The elements a combinator leads to, going left from an element. -/
def Combinator.reach (e : Located) : Combinator → List Located
  | .descendant => e.ancestors
  | .child => e.parent?.toList
  | .nextSibling => e.before.head?.toList
  | .laterSibling => e.before

/-- The elements below another that are reached through elements alone. -/
def elementDescendants (e : Located) : List Located :=
  e.descendants.filter fun d => d.ancestors.any (·.path == e.path)

/-- The elements among which a relative selector can find its last compound. -/
def relatives (e : Located) : List Located :=
  elementDescendants e ++ e.after.flatMap fun s => s :: elementDescendants s

/-- What `:scope` and the start of a relative selector stand for. -/
structure Frame where
  scope : List Nat
  anchor : List Nat

mutual

/-- Whether an element satisfies one condition. -/
def Simple.matches (frame : Frame) (e : Located) : Simple → Bool
  | .type name => e.label.name == nameFor e.label name
  | .universal => true
  | .noNamespace => false
  | .id value => e.label.id? == some value
  | .className value => e.label.classes.contains value
  | .attribute test => test.holds e.label
  | .root => e.isRoot
  | .empty => e.isVoid
  | .scope => e.path == frame.scope
  | .nth counting positions => counting.holds positions e
  | .not selectors => !matchesAny frame e selectors
  | .is selectors => matchesAny frame e selectors
  | .has selectors => hasAny frame e selectors
  | .host _ => false

/-- Whether an element matches a chain. -/
def Complex.matches (frame : Frame) (e : Located) : Complex → Bool
  | .compound conditions => satisfiesAll frame e conditions
  | .combine left combinator conditions =>
    satisfiesAll frame e conditions && (combinator.reach e).any fun a => left.matches frame a
  | .anchor => e.path == frame.anchor
  | .invalid => false

/-- Whether an element satisfies every condition. -/
def satisfiesAll (frame : Frame) (e : Located) : List Simple → Bool
  | [] => true
  | c :: rest => c.matches frame e && satisfiesAll frame e rest

/-- Whether an element matches one of the chains. -/
def matchesAny (frame : Frame) (e : Located) : List Complex → Bool
  | [] => false
  | c :: rest => c.matches frame e || matchesAny frame e rest

/-- Whether one of the relative chains, started at the element, matches something. -/
def hasAny (frame : Frame) (e : Located) : List Complex → Bool
  | [] => false
  | c :: rest =>
    ((relatives e).any fun d => c.matches { frame with anchor := e.path } d) || hasAny frame e rest

end

/-- Whether an element matches a list of selectors, asked from the element at `scope`. -/
def SelectorList.matches (selectors : SelectorList) (scope : Located) (e : Located) : Bool :=
  matchesAny ⟨scope.path, scope.path⟩ e selectors

end Glean.Css
