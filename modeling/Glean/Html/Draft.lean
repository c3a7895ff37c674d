import Glean.Html.Node

/-!
# Glean.Html.Draft

Documents under construction.  Reading HTML moves nodes about, so a draft
keeps its nodes in a table, each with its parent and its children, and turns
into a tree of `Node`s only at the end.  Two texts that come to stand side by
side by appending are one text.
-/

namespace Glean.Html

/-! ## Cells -/

/-- A node of a draft is known by its place in the table. -/
abbrev NodeId := Nat

/-- What a node of a draft is. -/
inductive Kind where
  | document
  | fragment
  | element (label : Label)
  | text (content : String)
  | comment (content : String)
  | doctype (name : String)
deriving Inhabited

/-- A node of a draft with its place in the tree. -/
structure Cell where
  kind : Kind
  parent : Option NodeId
  children : Array NodeId
deriving Inhabited

/-- The nodes of a document under construction; the first is the document. -/
structure Draft where
  cells : Array Cell

namespace Draft

/-- The document itself. -/
def documentId : NodeId := 0

/-- A document with nothing in it. -/
def blank : Draft := ⟨#[⟨.document, none, #[]⟩]⟩

/-! ## Reading -/

def cell (d : Draft) (id : NodeId) : Cell := d.cells.getD id default

def parent? (d : Draft) (id : NodeId) : Option NodeId := (d.cell id).parent

def children (d : Draft) (id : NodeId) : Array NodeId := (d.cell id).children

/-- The label of an element; any other node has an empty one. -/
def label (d : Draft) (id : NodeId) : Label :=
  match (d.cell id).kind with
  | .element l => l
  | _ => ⟨.html, "", []⟩

def isText (d : Draft) (id : NodeId) : Bool :=
  match (d.cell id).kind with
  | .text _ => true
  | _ => false

/-! ## Changing -/

def update (d : Draft) (id : NodeId) (f : Cell → Cell) : Draft :=
  ⟨d.cells.modify id f⟩

/-- A new node that stands nowhere yet. -/
def create (d : Draft) (kind : Kind) : NodeId × Draft :=
  (d.cells.size, ⟨d.cells.push ⟨kind, none, #[]⟩⟩)

/-- Take a node out of its parent. -/
def detach (d : Draft) (id : NodeId) : Draft :=
  match d.parent? id with
  | none => d
  | some p =>
    (d.update p fun c => { c with children := c.children.filter (· != id) }).update id
      fun c => { c with parent := none }

/-- Make a node the last child of another. -/
def append (d : Draft) (parent id : NodeId) : Draft :=
  ((d.detach id).update parent fun c => { c with children := c.children.push id }).update id
    fun c => { c with parent := some parent }

/-- Put a node in front of a sibling, if that has a parent. -/
def insertBefore (d : Draft) (sibling id : NodeId) : Draft :=
  let d := d.detach id
  match d.parent? sibling with
  | none => d
  | some p =>
    let place (children : Array NodeId) : Array NodeId :=
      let (front, back) := children.toList.span (· != sibling)
      (front ++ id :: back).toArray
    (d.update p fun c => { c with children := place c.children }).update id
      fun c => { c with parent := some p }

/-- Add to the end of a text. -/
def extend (d : Draft) (id : NodeId) (run : String) : Draft :=
  d.update id fun c =>
    match c.kind with
    | .text content => { c with kind := .text (content ++ run) }
    | _ => c

/-- Append a text, which goes on with a text that stands last already. -/
def appendText (d : Draft) (parent : NodeId) (run : String) : Draft :=
  match (d.children parent).back? with
  | some last =>
    if d.isText last then d.extend last run
    else
      let (id, d) := d.create (.text run)
      d.append parent id
  | none =>
    let (id, d) := d.create (.text run)
    d.append parent id

/-- The sibling in front of a node. -/
def previous? (d : Draft) (id : NodeId) : Option NodeId :=
  match d.parent? id with
  | none => none
  | some p => ((d.children p).toList.takeWhile (· != id)).getLast?

/-- Put a text in front of a sibling, where it goes on with a text before it. -/
def insertTextBefore (d : Draft) (sibling : NodeId) (run : String) : Draft :=
  match d.parent? sibling with
  | none => d
  | some _ =>
    let fresh : Draft :=
      let (id, d) := d.create (.text run)
      d.insertBefore sibling id
    match d.previous? sibling with
    | some p => if d.isText p then d.extend p run else fresh
    | none => fresh

/-- Move all children of a node to the end of another. -/
def moveChildren (d : Draft) (source target : NodeId) : Draft :=
  (d.children source).foldl (fun d id => d.append target id) d

/-- Give an element the attributes it does not have yet. -/
def addAttributes (d : Draft) (id : NodeId) (attributes : List Attribute) : Draft :=
  d.update id fun c =>
    match c.kind with
    | .element l =>
      let missing := attributes.filter fun a =>
        !l.attributes.any fun b => b.space == a.space && b.name == a.name
      { c with kind := .element { l with attributes := l.attributes ++ missing } }
    | _ => c

/-! ## The finished tree -/

/-- The tree below a node, down to a bound on its depth. -/
def node (d : Draft) : Nat → NodeId → Node
  | 0, _ => .text ""
  | depth + 1, id =>
    let c := d.cell id
    match c.kind with
    | .document | .fragment => .fragment (c.children.toList.map (d.node depth))
    | .element l => .element l (c.children.toList.map (d.node depth))
    | .text content => .text content
    | .comment content => .comment content
    | .doctype name => .doctype name

/-- Split a list of nodes at its first element. -/
def splitAtElement : List Node → List Node × Option (Label × List Node) × List Node
  | [] => ([], none, [])
  | .element l children :: rest => ([], some (l, children), rest)
  | n :: rest =>
    let (before, found, after) := splitAtElement rest
    (n :: before, found, after)

/-- The finished document.  A draft that no element was put into stands for an empty one. -/
def finish (d : Draft) : Document :=
  let nodes := (d.children documentId).toList.map (d.node d.cells.size)
  match splitAtElement nodes with
  | (before, some (l, children), after) => ⟨before, l, children, after⟩
  | (before, none, _) => ⟨before, ⟨.html, "html", []⟩, [], []⟩

end Draft

end Glean.Html
