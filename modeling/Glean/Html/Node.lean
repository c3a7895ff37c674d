import Glean.Text.Blank

/-!
# Glean.Html.Node

Documents as trees, and elements in their place.  A `Located` element carries
the way down to it from the document: for every level the children there and
the position taken among them.  Two located elements of one document are the
same element iff their paths are equal, and the elements below one are listed
in document order by `Located.descendants`.

The content of a `template` element stands in a fragment below it.  A fragment
is no element, so the elements in it have no parent element, but searches and
texts go through it.
-/

namespace Glean.Html

/-! ## Trees -/

/-- The vocabularies an element can belong to. -/
inductive Vocabulary where
  | html
  | svg
  | mathml
deriving DecidableEq, Repr, Inhabited

/-- The namespace of an attribute; foreign elements have some attributes with one. -/
inductive AttributeSpace where
  | none
  | xlink
  | xml
  | xmlns
deriving DecidableEq, Repr, Inhabited

/-- An attribute of an element. -/
structure Attribute where
  space : AttributeSpace
  name : String
  value : String
deriving DecidableEq, Repr, Inhabited

/-- What an element is apart from its content. -/
structure Label where
  vocabulary : Vocabulary
  name : String
  attributes : List Attribute
deriving DecidableEq, Repr, Inhabited

/-- A node of a document. -/
inductive Node where
  | text (content : String)
  | comment (content : String)
  | doctype (name : String)
  | element (label : Label) (children : List Node)
  /-- The content of a template. -/
  | fragment (children : List Node)

instance : Inhabited Node := ⟨.text ""⟩

namespace Label

/-- The value of an attribute without a namespace. -/
def attr? (l : Label) (name : String) : Option String :=
  (l.attributes.find? fun a => a.space == .none && a.name == name).map (·.value)

/-- The words between the white space of a text. -/
def words (s : String) : List String := (go s.toList).map String.ofList
where
  /-- The words of a list of characters; the first may still be growing. -/
  go : List Char → List (List Char)
    | [] => []
    | c :: rest =>
      if Text.isBlank c then go rest
      else
        match rest, go rest with
        | d :: _, word :: more =>
          if Text.isBlank d then [c] :: word :: more else (c :: word) :: more
        | _, more => [c] :: more

/-- The classes of an element. -/
def classes (l : Label) : List String :=
  l.attributes.flatMap fun a => if a.name == "class" then words a.value else []

/-- The identifier of an element. -/
def id? (l : Label) : Option String := (l.attributes.find? (·.name == "id")).map (·.value)

end Label

/-! ## Text -/

mutual

/-- All text in a node, in document order. -/
def Node.content : Node → String
  | .text content => content
  | .comment _ => ""
  | .doctype _ => ""
  | .element _ children => textIn children
  | .fragment children => textIn children

/-- All text in a list of nodes, in document order. -/
def textIn : List Node → String
  | [] => ""
  | n :: rest => n.content ++ textIn rest

end

/-! ## Elements in their place -/

/-- What can hold a list of nodes. -/
inductive Holder where
  | document
  | fragment
  | element (label : Label)

/-- One level of the way down to an element: the nodes there and the position taken. -/
structure Level where
  holder : Holder
  nodes : List Node
  position : Nat

/-- An element with its content and the levels above it, innermost first. -/
structure Located where
  label : Label
  children : List Node
  levels : List Level

mutual

/-- The elements in a list of nodes that stands below `holder`, in document
order; `position` counts the nodes of the list `nodes` that have been passed. -/
def elementsIn (holder : Holder) (nodes : List Node) (above : List Level) (position : Nat) :
    List Node → List Located
  | [] => []
  | n :: rest =>
    n.elements (⟨holder, nodes, position⟩ :: above) ++
      elementsIn holder nodes above (position + 1) rest

/-- The elements at and below a node that is reached by `levels`, in document order. -/
def Node.elements (levels : List Level) : Node → List Located
  | .element label children =>
    ⟨label, children, levels⟩ :: elementsIn (.element label) children levels 0 children
  | .fragment children => elementsIn .fragment children levels 0 children
  | .text _ => []
  | .comment _ => []
  | .doctype _ => []

end

namespace Located

/-- The positions taken on the way down, innermost first. -/
def path (e : Located) : List Nat := e.levels.map (·.position)

/-- The elements below an element, in document order. -/
def descendants (e : Located) : List Located :=
  elementsIn (.element e.label) e.children e.levels 0 e.children

/-- The text of an element and all it holds. -/
def text (e : Located) : String := textIn e.children

/-- The elements above, innermost first, up to the first holder that is none. -/
def ancestorsAlong : List Level → List Located
  | [] => []
  | level :: above =>
    match level.holder with
    | .element label => ⟨label, level.nodes, above⟩ :: ancestorsAlong above
    | _ => []

/-- The elements above an element, innermost first. -/
def ancestors (e : Located) : List Located := ancestorsAlong e.levels

/-- The element that holds this one. -/
def parent? (e : Located) : Option Located := e.ancestors.head?

/-- Whether the document itself holds the element. -/
def isRoot (e : Located) : Bool :=
  match e.levels with
  | ⟨.document, _, _⟩ :: _ => true
  | _ => false

/-- The elements directly in a list of nodes, from a position on. -/
def elementsAmong (holder : Holder) (nodes : List Node) (above : List Level) (position : Nat) :
    List Node → List Located
  | [] => []
  | .element label children :: rest =>
    ⟨label, children, ⟨holder, nodes, position⟩ :: above⟩ ::
      elementsAmong holder nodes above (position + 1) rest
  | _ :: rest => elementsAmong holder nodes above (position + 1) rest

/-- The sibling elements in front, nearest first. -/
def before (e : Located) : List Located :=
  match e.levels with
  | [] => []
  | level :: above =>
    (elementsAmong level.holder level.nodes above 0 (level.nodes.take level.position)).reverse

/-- The sibling elements behind, nearest first. -/
def after (e : Located) : List Located :=
  match e.levels with
  | [] => []
  | level :: above =>
    elementsAmong level.holder level.nodes above (level.position + 1)
      (level.nodes.drop (level.position + 1))

/-- Whether the element holds neither an element nor a text. -/
def isVoid (e : Located) : Bool :=
  e.children.all fun
    | .element .. => false
    | .text _ => false
    | _ => true

end Located

/-! ## Documents -/

/-- A document: one element with whatever stands before and behind it. -/
structure Document where
  before : List Node
  label : Label
  children : List Node
  after : List Node

/-- The element that a document consists of, in its place. -/
def Document.root (d : Document) : Located :=
  ⟨d.label, d.children,
    [⟨.document, d.before ++ .element d.label d.children :: d.after, d.before.length⟩]⟩

end Glean.Html
