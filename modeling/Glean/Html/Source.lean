import Glean.Css.Selector.Match
import Glean.Css.Selector.Parse
import Glean.Extraction
import Glean.Html.Parse

/-!
# Glean.Html.Source

Parsed documents as something schemas can be applied to.  A search from an
element sees what is below it and never the element itself; a search from the
whole document sees the root element too.
-/

namespace Glean.Html

/-! ## Searching -/

/-- The elements below an element that match, in document order. -/
def Located.select (e : Located) (selectors : Css.SelectorList) : List Located :=
  e.descendants.filter fun d => selectors.matches e d

/-- The elements of a document that match, in document order. -/
def Document.select (d : Document) (selectors : Css.SelectorList) : List Located :=
  let root := d.root
  if selectors.matches root root then root :: root.select selectors else root.select selectors

/-! ## Roots -/

/-- What a schema is applied to. -/
inductive Root where
  | document (d : Document)
  | element (e : Located)

namespace Root

/-- The element whose text and attributes a root has. -/
def anchor : Root → Located
  | .document d => d.root
  | .element e => e

/-- The elements that match, seen from a root. -/
def select (r : Root) (selectors : Css.SelectorList) : List Located :=
  match r with
  | .document d => d.select selectors
  | .element e => e.select selectors

end Root

instance : Source Root where
  select r selector :=
    match Css.parse selector with
    | .error e => .error (.invalidSelector selector e.message)
    | .ok selectors => .ok ((r.select selectors).map .element)
  text r := r.anchor.text
  attr? r name := r.anchor.label.attr? name

end Glean.Html

namespace Glean.Schema

/-! ## Schemas on HTML text -/

/-- The record of a whole document. -/
def parse (s : Schema) (html : String) : Except ExtractionError Record :=
  s.extract (Html.Root.document (Html.parse html))

/-- One record per match of a selector in a whole document. -/
def parseAll (s : Schema) (html selector : String) : Except ExtractionError (List Record) :=
  s.extractAll (Html.Root.document (Html.parse html)) selector

end Glean.Schema
