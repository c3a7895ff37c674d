import Glean.Html.Construction.State

/-!
# Glean.Html.Construction.Adoption

End tags that do not match.  An end tag of the ordinary kind closes the
nearest element of its name unless a special element stands in between.  The
end tag of a formatting element may cut through other elements: the ones it
cuts are closed and opened again on the other side, so that a tree comes out.
-/

namespace Glean.Html

namespace Build

/-! ## Ordinary end tags -/

/-- Close the nearest element of that name, if no special element stands inside it. -/
def closeOrdinary (name : String) : Build Unit := do
  let s ← get
  match search s.draft s.stack with
  | none => return
  | some outside =>
    closeImpliedExcept name
    -- the element found, and everything in it, leaves the stack
    modify fun s => { s with stack := s.stack.drop (s.stack.length - outside) }
where
  /-- How many elements stand outside the element that is closed. -/
  search (d : Draft) : List NodeId → Option Nat
    | [] => none
    | id :: outer =>
      let l := d.label id
      if l.isNamed name then some outer.length
      else if l.isSpecial then none
      else search d outer

/-! ## The adoption agency -/

/-- What the walk from the furthest block up to the formatting element leaves. -/
structure Walk where
  /-- The node that goes into the next one found. -/
  last : NodeId
  /-- Behind which entry the new formatting element is listed, if it is not
  listed in place of the old one. -/
  behind : Option NodeId

/-- Walk from a block up to a formatting element: `between` are the elements
in the stack between the two, innermost first.  The three nearest that are
formatting themselves are made anew and taken along; all others leave the stack. -/
def walkUp (block : NodeId) : Nat → Walk → List NodeId → Build Walk
  | _, walk, [] => return walk
  | count, walk, id :: outer => do
    match ← formattingTag? id with
    | none =>
      removeFromStack id
      walkUp block (count + 1) walk outer
    | some tag =>
      if 3 ≤ count then
        removeFormatting id
        removeFromStack id
        walkUp block (count + 1) walk outer
      else
        let fresh ← createElement tag.label
        modify fun s =>
          { s with stack := s.stack.map fun other => if other == id then fresh else other }
        replaceFormatting id (.element fresh tag)
        modify fun s => { s with draft := s.draft.append fresh walk.last }
        let behind := if walk.last == block then some fresh else walk.behind
        walkUp block (count + 1) ⟨fresh, behind⟩ outer

/-- List a new formatting element directly behind another entry. -/
def listBehind (previous : NodeId) (entry : Formatting) : Build Unit :=
  modify fun s => { s with formatting := s.formatting.flatMap fun
    | .element other tag =>
      if other == previous then [entry, .element other tag] else [.element other tag]
    | .marker => [.marker] }

/-- One round: whether there may be another. -/
def adoptOnce (name : String) : Build Bool := do
  match (← sinceMarker).find? (·.2.name == name) with
  | none =>
    closeOrdinary name
    return false
  | some (formatting, tag) =>
    let s ← get
    if !s.stack.contains formatting then
      removeFormatting formatting
      return false
    if !(← inScope Label.boundsScope fun id _ => id == formatting) then return false
    let inside := s.stack.takeWhile (· != formatting)
    let outside := (s.stack.dropWhile (· != formatting)).tail
    -- the outermost special element inside the formatting element
    match inside.reverse.find? fun id => (s.draft.label id).isSpecial with
    | none =>
      modify fun s => { s with stack := outside }
      removeFormatting formatting
      return false
    | some block =>
      let ancestor := outside.headD Draft.documentId
      let between := (inside.dropWhile (· != block)).tail
      let walk ← walkUp block 0 ⟨block, none⟩ between
      modify fun s => { s with draft := s.draft.detach walk.last }
      putNode (← placeFor ancestor) walk.last
      let fresh ← createElement tag.label
      modify fun s => { s with draft := (s.draft.moveChildren block fresh).append block fresh }
      match walk.behind with
      | none => replaceFormatting formatting (.element fresh tag)
      | some previous =>
        listBehind previous (.element fresh tag)
        removeFormatting formatting
      removeFromStack formatting
      modify fun s => { s with stack := s.stack.flatMap fun id =>
        if id == block then [fresh, block] else [id] }
      return true

/-- At most so many rounds. -/
def adoptRounds (name : String) : Nat → Build Unit
  | 0 => return
  | n + 1 => do if ← adoptOnce name then adoptRounds name n

/-- The end tag of a formatting element. -/
def adopt (name : String) : Build Unit := do
  let id ← current
  if (← currentLabel).isNamed name && (← formattingTag? id).isNone then pop
  else adoptRounds name 8

end Build

end Glean.Html
