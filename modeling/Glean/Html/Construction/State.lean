import Glean.Html.Construction.Foreign
import Glean.Html.Draft
import Glean.Text.Lowercase

/-!
# Glean.Html.Construction.State

The state of tree construction and the operations that all insertion modes
share: the stack of open elements, the list of active formatting elements,
where new nodes go, and how elements are closed.
-/

namespace Glean.Html

open Text (equalsIgnoringAsciiCase)

/-! ## State -/

/-- The insertion modes: what part of a document is being read. -/
inductive Mode where
  | initial
  | beforeHtml
  | beforeHead
  | inHead
  | afterHead
  | inBody
  | inText
  | inTable
  | inTableText
  | inCaption
  | inColumnGroup
  | inTableBody
  | inRow
  | inCell
  | inSelect
  | inSelectInTable
  | inTemplate
  | afterBody
  | inFrameset
  | afterFrameset
  | afterAfterBody
  | afterAfterFrameset
deriving DecidableEq, Repr, Inhabited

/-- An entry of the list of active formatting elements. -/
inductive Formatting where
  | marker
  /-- An element and the tag it was made from. -/
  | element (id : NodeId) (tag : Tag)
deriving DecidableEq, Repr, Inhabited

/-- The state of tree construction. -/
structure State where
  draft : Draft
  mode : Mode
  /-- The mode to go back to behind text. -/
  returnMode : Mode
  /-- The modes of the open templates, innermost first. -/
  templateModes : List Mode
  /-- The open elements, innermost first. -/
  stack : List NodeId
  /-- The active formatting elements, latest first. -/
  formatting : List Formatting
  head : Option NodeId
  form : Option NodeId
  /-- Whether a frameset may still take the place of the body. -/
  framesetOk : Bool
  /-- Whether a line feed that comes next is dropped. -/
  skipNewline : Bool
  /-- Whether content that a table refuses is put in front of it. -/
  fostering : Bool
  /-- Text in a table that has not been placed yet, latest first. -/
  tableText : List (Bool × String)
  /-- Whether the document asks for the old layout rules. -/
  quirks : Bool
  /-- How the text that follows is cut into tokens. -/
  content : Content
  /-- The name of the element whose end tag ends that text. -/
  contentElement : String

/-- The state before the first token. -/
def State.start : State :=
  { draft := .blank, mode := .initial, returnMode := .initial, templateModes := [], stack := [],
    formatting := [], head := none, form := none, framesetOk := true, skipNewline := false,
    fostering := false, tableText := [], quirks := false, content := .data, contentElement := "" }

/-- A step of tree construction. -/
abbrev Build (α : Type) : Type := StateM State α

/-- What a mode does with a token: use it up, or leave it to another mode. -/
inductive Outcome where
  | done
  | again (mode : Mode) (token : Token)

namespace Build

/-! ## Reading the state -/

def label (id : NodeId) : Build Label := return (← get).draft.label id

/-- The innermost open element; there is none only before the root is made. -/
def current : Build NodeId := return (← get).stack.headD Draft.documentId

/-- The label of the innermost open element. -/
def currentLabel : Build Label := do label (← current)

/-- Whether the innermost open element is the HTML element of that name. -/
def currentIs (name : String) : Build Bool := return (← currentLabel).isNamed name

/-- The outermost open element. -/
def rootElement : Build NodeId := return (← get).stack.getLastD Draft.documentId

/-- The body element, if it stands second on the stack. -/
def body? : Build (Option NodeId) := do
  match (← get).stack.reverse with
  | _ :: id :: _ => return if (← label id).isNamed "body" then some id else none
  | _ => return none

/-- Whether an HTML element of that name is open. -/
def isOpen (name : String) : Build Bool := do
  let s ← get
  return s.stack.any fun id => (s.draft.label id).isNamed name

/-- Whether an open element satisfies `p`, and no element that bounds the
search stands inside it. -/
def inScope (bounds : Label → Bool) (p : NodeId → Label → Bool) : Build Bool := do
  let s ← get
  return search s.draft s.stack
where
  /-- The search from the innermost element outwards. -/
  search (d : Draft) : List NodeId → Bool
    | [] => false
    | id :: rest =>
      let l := d.label id
      if p id l then true else if bounds l then false else search d rest

/-- Whether an HTML element of that name is in scope. -/
def inScopeNamed (bounds : Label → Bool) (name : String) : Build Bool :=
  inScope bounds fun _ l => l.isNamed name

/-! ## The stack -/

def setMode (mode : Mode) : Build Unit := modify fun s => { s with mode }

def forbidFrameset : Build Unit := modify fun s => { s with framesetOk := false }

def push (id : NodeId) : Build Unit := modify fun s => { s with stack := id :: s.stack }

def pop : Build Unit := modify fun s => { s with stack := s.stack.tail }

/-- Take one element off the stack, wherever it stands. -/
def removeFromStack (id : NodeId) : Build Unit :=
  modify fun s => { s with stack := s.stack.erase id }

/-- Close elements up to one that satisfies `p`, which stays open. -/
def popUntilCurrent (p : Label → Bool) : Build Unit :=
  modify fun s => { s with stack := s.stack.dropWhile fun id => !p (s.draft.label id) }

/-- Close elements up to and with one that satisfies `p`. -/
def popThrough (p : Label → Bool) : Build Unit :=
  modify fun s => { s with stack := (s.stack.dropWhile fun id => !p (s.draft.label id)).tail }

/-- Close elements up to and with the HTML element of that name. -/
def popThroughNamed (name : String) : Build Unit := popThrough (·.isNamed name)

/-- Close the elements whose ends are implied. -/
def closeImplied (implied : Label → Bool) : Build Unit :=
  modify fun s => { s with stack := s.stack.dropWhile fun id => implied (s.draft.label id) }

/-- Close the elements whose ends are implied, but no element of that name. -/
def closeImpliedExcept (name : String) : Build Unit :=
  closeImplied fun l => l.endIsImplied && !l.isNamed name

/-- Close a paragraph and what is open in it. -/
def closeParagraph : Build Unit := do
  closeImpliedExcept "p"
  popThroughNamed "p"

/-- Close a paragraph if one is open within the nearest button. -/
def closeParagraphInScope : Build Unit := do
  if ← inScopeNamed Label.boundsButtonScope "p" then closeParagraph

/-! ## Where nodes go -/

/-- Where a node is put. -/
inductive Place where
  | lastIn (parent : NodeId)
  /-- In front of a table, or last in the element outside it if the table stands nowhere. -/
  | aroundTable (table outside : NodeId)

/-- The node that holds what is put into an element: the content of a template,
for other elements the element itself. -/
def holderOf (id : NodeId) : Build NodeId := do
  let s ← get
  if (s.draft.label id).isNamed "template" then return (s.draft.children id).getD 0 id
  else return id

/-- The place for content that a table refuses. -/
def fosterPlace : Build Place := do
  let s ← get
  search s.draft s.stack
where
  /-- The search for the innermost table or template. -/
  search (d : Draft) : List NodeId → Build Place
    | [] => return .lastIn (← rootElement)
    | id :: rest =>
      if (d.label id).isNamed "template" then return .lastIn (← holderOf id)
      else if (d.label id).isNamed "table" then
        return .aroundTable id (rest.headD Draft.documentId)
      else search d rest

/-- The place for a node that belongs into `target`. -/
def placeFor (target : NodeId) : Build Place := do
  if (← get).fostering && (← label target).refusesContent then fosterPlace
  else return .lastIn (← holderOf target)

/-- Put a node in its place. -/
def putNode (place : Place) (id : NodeId) : Build Unit :=
  modify fun s =>
    match place with
    | .lastIn parent => { s with draft := s.draft.append parent id }
    | .aroundTable table outside =>
      if (s.draft.parent? table).isSome then { s with draft := s.draft.insertBefore table id }
      else { s with draft := s.draft.append outside id }

/-- Insert a text into the innermost open element. -/
def insertText (run : String) : Build Unit := do
  let place ← placeFor (← current)
  modify fun s =>
    match place with
    | .lastIn parent => { s with draft := s.draft.appendText parent run }
    | .aroundTable table outside =>
      if (s.draft.parent? table).isSome then { s with draft := s.draft.insertTextBefore table run }
      else { s with draft := s.draft.appendText outside run }

/-- A new node. -/
def create (kind : Kind) : Build NodeId := do
  let s ← get
  let (id, draft) := s.draft.create kind
  set { s with draft }
  return id

/-- A new element; a template gets the fragment that holds its content. -/
def createElement (l : Label) : Build NodeId := do
  let id ← create (.element l)
  if l.isNamed "template" then
    let content ← create .fragment
    modify fun s => { s with draft := s.draft.append id content }
  return id

/-- Insert a new element into the innermost open one, without opening it. -/
def insertClosed (l : Label) : Build NodeId := do
  let id ← createElement l
  putNode (← placeFor (← current)) id
  return id

/-- Insert a new element into the innermost open one and open it. -/
def insertElement (l : Label) : Build NodeId := do
  let id ← insertClosed l
  push id
  return id

/-- Insert and open the HTML element of a tag. -/
def openTag (t : Tag) : Build Unit := do let _ ← insertElement t.label

/-- Insert the HTML element of a tag without opening it. -/
def closedTag (t : Tag) : Build Unit := do let _ ← insertClosed t.label

/-- Insert and open an HTML element that no tag stands for. -/
def openNamed (name : String) : Build Unit := openTag (.named name)

/-- Insert a comment into the innermost open element. -/
def insertComment (content : String) : Build Unit := do
  let id ← create (.comment content)
  putNode (← placeFor (← current)) id

/-- Put a comment last in a node. -/
def appendComment (parent : NodeId) (content : String) : Build Unit := do
  let id ← create (.comment content)
  modify fun s => { s with draft := s.draft.append parent id }

/-- Go on with the text of an element that holds nothing else. -/
def enterText (content : Content) (element : String) : Build Unit :=
  modify fun s =>
    { s with returnMode := s.mode, mode := .inText, content, contentElement := element }

/-- Insert the element of a tag and go on with its text. -/
def openText (t : Tag) (content : Content) : Build Unit := do
  openTag t
  enterText content t.name

/-! ## Active formatting elements -/

/-- Mark the end of the formatting that reaches into what is opened next. -/
def pushMarker : Build Unit := modify fun s => { s with formatting := .marker :: s.formatting }

/-- Forget the formatting since the last marker, and the marker. -/
def clearToMarker : Build Unit :=
  modify fun s => { s with formatting := (s.formatting.dropWhile (· != .marker)).tail }

/-- The entries since the last marker, latest first. -/
def sinceMarker : Build (List (NodeId × Tag)) := do
  return ((← get).formatting.takeWhile (· != .marker)).filterMap fun
    | .element id tag => some (id, tag)
    | .marker => none

/-- Forget the entry of an element. -/
def removeFormatting (id : NodeId) : Build Unit :=
  modify fun s => { s with formatting := s.formatting.filter fun
    | .element other _ => other != id
    | .marker => true }

/-- Put another entry where that of an element stands. -/
def replaceFormatting (id : NodeId) (entry : Formatting) : Build Unit :=
  modify fun s => { s with formatting := s.formatting.map fun
    | .element other tag => if other == id then entry else .element other tag
    | .marker => .marker }

/-- The tag in the entry of an element, if it has one. -/
def formattingTag? (id : NodeId) : Build (Option Tag) := do
  return (← get).formatting.findSome? fun
    | .element other tag => if other == id then some tag else none
    | .marker => none

/-- Open the formatting elements again that have been closed since the last
marker or the last one that is still open. -/
def reconstructFormatting : Build Unit := do
  let s ← get
  let closed := s.formatting.takeWhile fun
    | .marker => false
    | .element id _ => !s.stack.contains id
  for entry in closed.reverse do
    match entry with
    | .element id tag =>
      let fresh ← insertElement tag.label
      replaceFormatting id (.element fresh tag)
    | .marker => pure ()

/-- Insert and open a formatting element.  Of entries that are alike since the
last marker, three are kept at most. -/
def openFormatting (t : Tag) : Build Unit := do
  let alike := (← sinceMarker).filter fun (_, other) =>
    other.name == t.name && other.attributes.isPerm t.attributes
  if 3 ≤ alike.length then
    if let some (id, _) := alike.getLast? then removeFormatting id
  let id ← insertElement t.label
  modify fun s => { s with formatting := .element id t :: s.formatting }

/-! ## Choosing a mode -/

/-- The mode that fits the open elements. -/
def appropriateMode : Build Mode := do
  let s ← get
  return search s s.stack
where
  /-- The search from the innermost element outwards. -/
  search (s : State) : List NodeId → Mode
    | [] => .inBody
    | id :: outer =>
      let l := s.draft.label id
      let isLast := outer.isEmpty
      if !l.isHtml then search s outer
      else
        match l.name with
        | "select" => selectMode s outer
        | "td" | "th" => if isLast then .inBody else .inCell
        | "tr" => .inRow
        | "tbody" | "thead" | "tfoot" => .inTableBody
        | "caption" => .inCaption
        | "colgroup" => .inColumnGroup
        | "table" => .inTable
        | "template" => s.templateModes.headD .inTemplate
        | "head" => if isLast then .inBody else .inHead
        | "body" => .inBody
        | "frameset" => .inFrameset
        | "html" => if s.head.isSome then .afterHead else .beforeHead
        | _ => search s outer
  /-- Whether a select stands in a table, as far as the nearest template. -/
  selectMode (s : State) : List NodeId → Mode
    | [] => .inSelect
    | id :: outer =>
      let l := s.draft.label id
      if l.isNamed "template" then .inSelect
      else if l.isNamed "table" then .inSelectInTable
      else selectMode s outer

/-- Go on in the mode that fits the open elements. -/
def resetMode : Build Unit := do setMode (← appropriateMode)

end Build

/-- Whether the tag asks for an input that is not shown. -/
def Tag.isHidden (t : Tag) : Bool :=
  match t.attr? "type" with
  | some value => equalsIgnoringAsciiCase value "hidden"
  | none => false

end Glean.Html
