import Glean.Css.Component
import Glean.Css.Selector
import Glean.Css.Selector.Error

/-!
# Glean.Css.Selector.Nth

Reading from components, and the notation `An+B` for progressions.  A reader
takes components from the front of a list and leaves the others.
-/

namespace Glean.Css

/-! ## Readers -/

/-- A reading of components: an answer with the components that are left, or an error. -/
abbrev Reader := StateT (List Component) (Except SelectorError)

namespace Reader

/-- The components that are left. -/
def remaining : Reader (List Component) := get

/-- Go on with these components. -/
def resume (cs : List Component) : Reader Unit := set cs

/-- The next component, which may be white space. -/
def next : Reader Component := do
  match ← remaining with
  | [] => throw .unexpectedEnd
  | c :: rest =>
    resume rest
    return c

/-- The next component that is no white space. -/
def nextSolid : Reader Component := do
  resume (skipSpace (← remaining))
  next

/-- Read all components of a list: what the reader leaves has to be white space. -/
def readAll {α : Type} (body : List Component) (r : Reader α) : Except SelectorError α := do
  let (a, rest) ← r.run body
  match skipSpace rest with
  | [] => return a
  | c :: _ => throw (.unexpectedToken c.head)

/-- Read a whole block.  What is left outside the block does not change. -/
def within {α : Type} (body : List Component) (r : Reader α) : Reader α := liftM (readAll body r)

end Reader

/-! ## The notation `An+B` -/

/-- The `B` behind a sign that stands apart: digits without a sign of their own. -/
def readUnsignedOffset (step sign : Int) : Reader Progression := do
  let c ← Reader.nextSolid
  match c.head with
  | .number n =>
    match n.sign, n.int? with
    | none, some b => return ⟨step, sign * b⟩
    | _, _ => throw (.unexpectedToken c.head)
  | t => throw (.unexpectedToken t)

/-- The part behind `An`: a signed number, a sign and a number, or nothing. -/
def readOffset (step : Int) : Reader Progression := do
  let start ← Reader.remaining
  match skipSpace start with
  | .token (.delim '+') :: rest =>
    Reader.resume rest
    readUnsignedOffset step 1
  | .token (.delim '-') :: rest =>
    Reader.resume rest
    readUnsignedOffset step (-1)
  | .token (.number n) :: rest =>
    match n.sign, n.int? with
    | some _, some b =>
      Reader.resume rest
      return ⟨step, b⟩
    | _, _ => return ⟨step, 0⟩
  | _ => return ⟨step, 0⟩

/-- The offset in a name such as `n-3`. -/
def nDashOffset? (name : String) : Option Int :=
  match name.toList with
  | n :: '-' :: digits =>
    if (n = 'n' ∨ n = 'N') ∧ digits ≠ [] ∧ digits.all isDigit then
      (⟨some '-', digits, none, none⟩ : Numeric).int?
    else none
  | _ => none

/-- The notation from a name on, where `step` is what stands before the `n`. -/
def readNamed (step : Int) (name : String) : Reader Progression :=
  match Text.asciiLower name with
  | "n" => readOffset step
  | "n-" => readUnsignedOffset step (-1)
  | _ =>
    match nDashOffset? name with
    | some b => return ⟨step, b⟩
    | none => throw (.unexpectedToken (.ident name))

/-- One of the words for every second position. -/
def parityWord? (name : String) : Option Progression :=
  match Text.asciiLower name with
  | "even" => some ⟨2, 0⟩
  | "odd" => some ⟨2, 1⟩
  | _ => none

/-- A progression: `B`, `An`, `An+B`, `even` or `odd`.  A plus sign that stands
before a name allows no `even` and no `odd`. -/
def readProgression : Reader Progression := do
  let c ← Reader.nextSolid
  match c.head with
  | .number n =>
    match n.int? with
    | some b => return ⟨0, b⟩
    | none => throw (.unexpectedToken c.head)
  | .dimension n unit =>
    match n.int? with
    | some a => readNamed a unit
    | none => throw (.unexpectedToken c.head)
  | .ident name =>
    match parityWord? name, name.toList with
    | some p, _ => return p
    | none, '-' :: rest =>
      match nDashOffset? (String.ofList rest), Text.asciiLower (String.ofList rest) with
      | some b, _ => return ⟨-1, b⟩
      | none, "n" => readOffset (-1)
      | none, "n-" => readUnsignedOffset (-1) (-1)
      | none, _ => throw (.unexpectedToken c.head)
    | none, _ => readNamed 1 name
  | .delim '+' =>
    let c ← Reader.next
    match c.head with
    | .ident name => readNamed 1 name
    | t => throw (.unexpectedToken t)
  | t => throw (.unexpectedToken t)

end Glean.Css
