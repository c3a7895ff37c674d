import Glean.Proofs.Extraction.Agreement
import Glean.Proofs.Html.Accepted
import Glean.Proofs.Html.Below

/-!
# Glean.Proofs.Html.Roots

A document against its root element.  Searched from the root element, a document shows the
strict descendants that match; searched as a whole it shows the root element too, in front of
them if it matches.  Both answers are in document order and repeat nothing, and both refuse
the same selectors with the same words (`Html.Document.answers`).

So the two roots differ only for selectors that the root element matches.  A schema that asks
for none of these itself yields the same from either (`Html.Document.extract_root_alike`);
what its nested schemas ask for makes no difference, since they are applied to matches.
-/

namespace Glean.Html

/-- The list holds the elements that have the property, each once and in document order. -/
structure ListsInOrder (elements : List Located) (P : Located → Prop) : Prop where
  mem_iff : ∀ x, x ∈ elements ↔ P x
  once : (elements.map Located.address).Nodup
  ordered : elements.Pairwise Located.Precedes

theorem ListsInOrder.of_pairwise {elements : List Located} {P : Located → Prop}
    (hmem : ∀ x, x ∈ elements ↔ P x) (hordered : elements.Pairwise Located.Precedes) :
    ListsInOrder elements P :=
  ⟨hmem, List.pairwise_map.2 (hordered.imp Located.Precedes.address_ne), hordered⟩

/-- A search from an element finds the strict descendants that match. -/
theorem Located.listsInOrder_select (e : Located) (parsed : Css.SelectorList) :
    ListsInOrder (e.select parsed) fun x => x.Below e ∧ parsed.matches e x = true := by
  refine .of_pairwise (fun x => ?_) (e.pairwise_descendants.filter _)
  rw [Located.select, List.mem_filter, Located.mem_descendants_iff]

namespace Document

/-- Whether the root element matches a selector, asked from the root element itself. -/
def rootMatches (d : Document) (selector : String) : Bool :=
  match Css.parse selector with
  | .ok parsed => parsed.matches d.root d.root
  | .error _ => false

/-- A search in a document finds the root element, if it matches, in front of what a search
from the root element finds. -/
theorem select_eq (d : Document) (parsed : Css.SelectorList) :
    d.select parsed = (if parsed.matches d.root d.root then [d.root] else []) ++
      d.root.select parsed := by
  rw [select]
  split <;> rfl

/-- A search in a document finds the root element and its strict descendants, as they match. -/
theorem listsInOrder_select (d : Document) (parsed : Css.SelectorList) :
    ListsInOrder (d.select parsed) fun x =>
      (x = d.root ∨ x.Below d.root) ∧ parsed.matches d.root x = true := by
  obtain ⟨hmem, -, hordered⟩ := d.root.listsInOrder_select parsed
  have hroot : ∀ x ∈ d.root.select parsed, d.root.Precedes x := fun x hx =>
    ((hmem x).1 hx).1.precedes
  rw [select_eq]
  cases hmatches : parsed.matches d.root d.root with
  | true =>
      refine .of_pairwise (fun x => ?_) (List.pairwise_cons.2 ⟨hroot, hordered⟩)
      rw [if_pos rfl, List.singleton_append, List.mem_cons, hmem, or_and_right]
      refine or_congr_left ⟨fun hx => ⟨hx, hx ▸ hmatches⟩, And.left⟩
  | false =>
      refine .of_pairwise (fun x => ?_) hordered
      rw [if_neg Bool.false_ne_true, List.nil_append, hmem, or_and_right]
      have hnot : ¬ (x = d.root ∧ parsed.matches d.root x = true) := by
        rintro ⟨rfl, hx⟩
        exact Bool.false_ne_true (hmatches.symm.trans hx)
      exact ⟨.inr, fun h => h.resolve_left hnot⟩

/-- How a document and its root element answer a selector: both refuse it with the same words,
or both find the matching elements in document order, the document alone the root element. -/
structure Answers (d : Document) (selector : String) : Prop where
  refused : ∀ cause, Css.parse selector = .error cause →
    Source.select (Root.element d.root) selector = .error (.invalidSelector selector cause.message) ∧
    Source.select (Root.document d) selector = .error (.invalidSelector selector cause.message)
  found : ∀ parsed, Css.parse selector = .ok parsed → ∃ below : List Located,
    Source.select (Root.element d.root) selector = .ok (below.map .element) ∧
    ListsInOrder below (fun x => x.Below d.root ∧ parsed.matches d.root x = true) ∧
    ∃ all : List Located,
      all = (if parsed.matches d.root d.root then [d.root] else []) ++ below ∧
      Source.select (Root.document d) selector = .ok (all.map .element) ∧
      ListsInOrder all fun x => (x = d.root ∨ x.Below d.root) ∧ parsed.matches d.root x = true

theorem answers (d : Document) (selector : String) : d.Answers selector := by
  constructor
  · intro cause hcause
    exact ⟨Root.select_of_parse_error hcause _, Root.select_of_parse_error hcause _⟩
  · intro parsed hparsed
    refine ⟨d.root.select parsed, Root.select_of_parse hparsed _, d.root.listsInOrder_select parsed,
      d.select parsed, d.select_eq parsed, Root.select_of_parse hparsed _,
      d.listsInOrder_select parsed⟩

/-- A selector that the root element does not match finds the same from either root. -/
theorem select_root_alike {d : Document} {selector : String} (h : d.rootMatches selector = false) :
    Source.select (Root.document d) selector = Source.select (Root.element d.root) selector := by
  cases hparse : Css.parse selector with
  | error cause => rw [Root.select_of_parse_error hparse, Root.select_of_parse_error hparse]
  | ok parsed =>
      have hnot : parsed.matches d.root d.root = false := by
        simpa only [rootMatches, hparse] using h
      have hselect : d.select parsed = d.root.select parsed := by
        rw [select_eq, hnot]
        rfl
      rw [Root.select_of_parse hparse, Root.select_of_parse hparse, Root.select, Root.select, hselect]

end Document

/-- **Document against root element**: both refuse a selector with the same words or find the
same elements in document order, the document also the root element in front of them; and a
schema that tries no selector which the root element matches yields the same from either. -/
theorem Document.extract_root_alike (d : Document) :
    (∀ selector, d.Answers selector) ∧
      ∀ s : Schema, (∀ p ∈ s.fields, ∀ selector ∈ p.2.leaves, d.rootMatches selector = false) →
        s.extract (Root.document d) = s.extract (Root.element d.root) := by
  refine ⟨d.answers, fun s hs => Schema.extract_congr fun p hp => ?_⟩
  exact Field.resolve_eq_of_select_eq fun selector hselector =>
    Document.select_root_alike (hs p hp selector hselector)

namespace Roots

/-- A page with its language, one item and a template that holds another. -/
def page : Document := Html.parse "<html lang=en><li><b>x</b></li><template><li>y</li></template>"

/-- The items, with a language that only the root element could have: it is no item. -/
def items : Schema := ⟨"Items", [
  ("items", .select "li" (.nested ⟨"Item", [("lang", .select ":root" (.attr "lang") {})]⟩)
    { asList := true }),
  ("lead", .firstOf [.select "h1" .text {}, .select "b" .text {}] {})]⟩

/-- The items of the page are the same from either root, though a nested selector would match
the root element, which the document itself finds. -/
theorem extract_items_alike :
    ((∀ p ∈ items.fields, ∀ selector ∈ p.2.leaves, page.rootMatches selector = false) ∧
        items.extract (Root.document page) = items.extract (Root.element page.root)) ∧
      page.rootMatches ":root" = true ∧ page.Answers ":root" := by
  obtain ⟨hanswers, hextract⟩ := page.extract_root_alike
  have hitems : ∀ p ∈ items.fields, ∀ selector ∈ p.2.leaves,
      page.rootMatches selector = false := by
    decide +kernel
  exact ⟨⟨hitems, hextract items hitems⟩, by decide +kernel, hanswers ":root"⟩

end Roots

end Glean.Html
