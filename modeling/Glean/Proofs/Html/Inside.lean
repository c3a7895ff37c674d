import Glean.Proofs.Extraction.Nested
import Glean.Proofs.Html.Roots

/-!
# Glean.Proofs.Html.Inside

Extraction from an element stays inside it.  A search from an element finds strict descendants
only, so all that a schema reads at an element is below it, and what a nested schema reads is
below the match to which it is applied and below every match around that one
(`Schema.DrawnFrom`).  The matches strictly descend, which is why a record has no more levels
than the tree of elements below has, whatever the depth of the schema.
-/

namespace Glean

open Html

namespace Html

/-- The content is the text of the element or the value of one of its attributes. -/
def Located.Gives (x : Located) (content : String) : Prop :=
  content = x.text ∨ ∃ key, x.label.attr? key = some content

/-- What a search finds are matching elements. -/
theorem Root.exists_of_select {root : Root} {selector : String} {nodes : List Root}
    (h : Source.select root selector = .ok nodes) {node : Root} (hnode : node ∈ nodes) :
    ∃ (parsed : Css.SelectorList) (x : Located), node = .element x ∧ x ∈ root.select parsed := by
  cases hparse : Css.parse selector with
  | error cause =>
      rw [Root.select_of_parse_error hparse] at h
      contradiction
  | ok parsed =>
      rw [Root.select_of_parse hparse, Except.ok.injEq] at h
      rw [← h, List.mem_map] at hnode
      obtain ⟨x, hx, rfl⟩ := hnode
      exact ⟨parsed, x, rfl, hx⟩

/-- What a search from an element finds are elements below it. -/
theorem Root.below_of_select {e : Located} {selector : String} {nodes : List Root}
    (h : Source.select (Root.element e) selector = .ok nodes) {node : Root} (hnode : node ∈ nodes) :
    ∃ x : Located, node = .element x ∧ x.Below e := by
  obtain ⟨parsed, x, rfl, hx⟩ := Root.exists_of_select h hnode
  have hmem := (e.listsInOrder_select parsed).mem_iff x
  exact ⟨x, rfl, (hmem.1 hx).1⟩

/-- What a field reads at an element is below it, and below all that the element is below. -/
theorem Root.below_of_reads {f : Field} {strategy : Strategy} {m : Located} {node : Root}
    {around : List Located} (hdescend : (m :: around).Pairwise Located.Below)
    (h : f.Reads (Root.element m) strategy node) :
    ∃ x : Located, node = .element x ∧ ∀ a ∈ m :: around, x.Below a := by
  obtain ⟨selector, nodes, hselect, hmem⟩ := h.exists_select
  obtain ⟨x, rfl, hx⟩ := Root.below_of_select hselect hmem
  refine ⟨x, rfl, fun a ha => ?_⟩
  rcases List.mem_cons.1 ha with rfl | ha
  · exact hx
  · exact hx.trans (List.rel_of_pairwise_cons hdescend ha)

/-- What a strategy makes of an element is a text that the element gives, if it is a text. -/
theorem Root.gives_of_makes {strategy : Strategy} {x : Located} {content : String}
    (h : strategy.Makes (Root.element x) (.text content)) : x.Gives content := by
  generalize hv : Value.text content = v at h
  cases h with
  | text | any => exact .inl (Value.text.inj hv)
  | content =>
      have hcontent := Value.text.inj hv
      cases hattr : Source.attr? (Root.element x) "content" with
      | none => exact .inl (by rw [hcontent, hattr]; rfl)
      | some value => exact .inr ⟨"content", by rw [hcontent, hattr]; exact hattr⟩
  | attr there => exact .inr ⟨_, by rw [Value.text.inj hv]; exact there⟩
  | lacking _ => contradiction
  | nested _ => contradiction

/-- How high the tree below a root is, where a document counts its root element too. -/
def Root.height : Root → Nat
  | .document d => d.root.height + 1
  | .element e => e.height

/-- Every match is lower than the root of the search. -/
theorem Root.height_lt_of_select {root : Root} {selector : String} {nodes : List Root}
    (h : Source.select root selector = .ok nodes) {node : Root} (hnode : node ∈ nodes) :
    node.height < root.height := by
  cases root with
  | element e =>
      obtain ⟨x, rfl, hx⟩ := Root.below_of_select h hnode
      exact hx.height_lt
  | document d =>
      obtain ⟨parsed, x, rfl, hx⟩ := Root.exists_of_select h hnode
      have hmem := (d.listsInOrder_select parsed).mem_iff x
      rcases (hmem.1 hx).1 with rfl | hbelow
      · exact Nat.lt_succ_self _
      · exact Nat.lt_succ_of_lt hbelow.height_lt

end Html

/-- The record `q`, which `t` yields at `m`, is drawn from below `m` and all the elements
around it, which strictly descend to `m`. -/
structure Schema.DrawnFrom (t : Schema) (m : Located) (around : List Located) (q : Record) :
    Prop where
  yielded : t.extract (Root.element m) = .ok q
  descend : (m :: around).Pairwise Located.Below
  /-- No node that is read for a field of the record stands outside any of the elements. -/
  below : ∀ p ∈ t.fields, ∀ strategy node, p.2.Reads (Root.element m) strategy node →
    ∃ x : Located, node = .element x ∧ ∀ a ∈ m :: around, x.Below a
  /-- Each text of a field is the text or an attribute of an element that is read for it. -/
  texts : ∀ content, q.Shows (.text content) → ∃ p ∈ t.fields, ∃ strategy, ∃ x : Located,
    p.2.Reads (Root.element m) strategy (Root.element x) ∧ x.Gives content ∧
      ∀ a ∈ m :: around, x.Below a

namespace Schema.Reaches

variable {s t : Schema} {e : Located} {r q : Record}

/-- The nodes on the way to a record inside are elements that strictly descend from the root. -/
theorem descend {nodes : List Root} (h : s.Reaches (Root.element e) r t nodes q) :
    ∃ m around, nodes = (m :: around).map Root.element ∧ (m :: around).getLast? = some e ∧
      (m :: around).Pairwise Located.Below := by
  induction h with
  | whole => exact ⟨e, [], rfl, rfl, List.pairwise_singleton _ _⟩
  | nested _ _ _ _ reads _ ih =>
      obtain ⟨m, around, hnodes, hlast, hdescend⟩ := ih
      rw [List.map_cons, List.cons.injEq] at hnodes
      obtain ⟨rfl, rfl⟩ := hnodes
      obtain ⟨x, rfl, hbelow⟩ := Root.below_of_reads hdescend reads
      refine ⟨x, m :: around, rfl, ?_, List.pairwise_cons.2 ⟨hbelow, hdescend⟩⟩
      rw [List.getLast?_cons_cons, hlast]

/-- A record inside is drawn from below the elements on the way to it. -/
theorem drawnFrom {m : Located} {around : List Located}
    (hr : s.extract (Root.element e) = .ok r)
    (h : s.Reaches (Root.element e) r t ((m :: around).map Root.element) q)
    (hdescend : (m :: around).Pairwise Located.Below) : t.DrawnFrom m around q := by
  have hq : t.extract (Root.element m) = .ok q := h.extract_eq hr
  refine ⟨hq, hdescend, fun p _ strategy node hreads => Root.below_of_reads hdescend hreads, ?_⟩
  rintro content ⟨p, hp, hshown⟩
  obtain ⟨d, hd, -, hres⟩ := Schema.exists_field_of_mem_fields hq hp
  rcases Field.exists_reads_of_resolve hres hshown with
    habsent | ⟨items, hitems⟩ | ⟨strategy, node, hreads, hmakes⟩
  · contradiction
  · contradiction
  · obtain ⟨x, rfl, hx⟩ := Root.below_of_reads hdescend hreads
    exact ⟨d, hd, strategy, x, hreads, Root.gives_of_makes hmakes, hx⟩

end Schema.Reaches

/-- **Extraction stays inside**: every text of what a schema yields at an element stands in a
record that is reached from there, as does every record; a reached record is drawn from below
its match and all the matches around it, which strictly descend from the element; so there
are no more levels of records than of elements. -/
theorem Schema.stays_inside {s : Schema} {e : Located} {r : Record}
    (h : s.extract (Root.element e) = .ok r) :
    (∀ content, (Value.text content).Occurs (.record r) →
        ∃ t nodes q, s.Reaches (Root.element e) r t nodes q ∧ q.Shows (.text content)) ∧
      (∀ q, (Value.record q).Occurs (.record r) →
        ∃ t nodes, s.Reaches (Root.element e) r t nodes q) ∧
      (∀ t nodes q, s.Reaches (Root.element e) r t nodes q →
        ∃ m around, nodes = (m :: around).map Root.element ∧
          (m :: around).getLast? = some e ∧ t.DrawnFrom m around q) ∧
      r.levels ≤ e.height := by
  refine ⟨fun content hcontent => ?_, fun q hq => ?_, fun t nodes q hreaches => ?_, ?_⟩
  · obtain ⟨t, node, around, q, hreaches, hsame | hshows⟩ := Schema.placed_of_occurs h hcontent
    · contradiction
    · exact ⟨t, _, q, hreaches, hshows⟩
  · obtain ⟨t, node, around, hreaches⟩ := (Schema.placed_of_occurs h hq).exists_reaches h
    exact ⟨t, _, hreaches⟩
  · obtain ⟨m, around, rfl, hlast, hdescend⟩ := hreaches.descend
    exact ⟨m, around, rfl, hlast, hreaches.drawnFrom h hdescend⟩
  · exact Schema.Reaches.levels_le
      (fun _ _ _ hselect _ hnode => Root.height_lt_of_select hselect hnode) h .whole

namespace Inside

/-- Two comments, the first of which nobody likes. -/
def thread : Document := Html.parse "<ul><li><b>Alice</b></li><li><b>Bob</b><i>9</i></li></ul>"

/-- The first comment, and whose it is. -/
def first : Schema := ⟨"Thread", [
  ("first", .select "li" (.nested ⟨"Comment", [
    ("author", .select "b" .text {}), ("likes", .select "i" .text {})]⟩) {})]⟩

/-- What the thread yields: the first comment does not pick up the likes of the second. -/
def yielded : Record := ⟨"Thread", [
  ("first", .record ⟨"Comment", [("author", .text "Alice"), ("likes", .absent)]⟩)]⟩

theorem extract_first : first.extract (Root.element thread.root) = .ok yielded := by
  decide +kernel

/-- The author stands in a reached record, which is drawn from below its match. -/
theorem stays_inside_first :
    first.extract (Root.element thread.root) = .ok yielded ∧
      (∃ t nodes q, first.Reaches (Root.element thread.root) yielded t nodes q ∧
        q.Shows (.text "Alice") ∧
        ∃ m around, nodes = (m :: around).map Root.element ∧
          (m :: around).getLast? = some thread.root ∧ t.DrawnFrom m around q) ∧
      yielded.levels = 1 ∧ yielded.levels ≤ thread.root.height := by
  obtain ⟨htexts, -, hdrawn, hlevels⟩ := Schema.stays_inside extract_first
  have hoccurs : (Value.text "Alice").Occurs (.record yielded) :=
    .field List.mem_cons_self (.field List.mem_cons_self .here)
  obtain ⟨t, nodes, q, hreaches, hshows⟩ := htexts "Alice" hoccurs
  exact ⟨extract_first, ⟨t, nodes, q, hreaches, hshows, hdrawn t nodes q hreaches⟩, rfl, hlevels⟩

end Inside

end Glean
