import Glean.Proofs.Json.Unambiguous
import Glean.Proofs.Schema.Obtained
import Glean.Proofs.Text.Bytes
import Glean.Proofs.Value.Renderings

/-!
# Glean.Proofs.Extraction.Rendered

Extracted records as JSON.  The text of a record tells one document, and this document and
the one with sorted keys agree up to the order of keys, at every depth
(`Schema.renderings_agree`): in both the keys of an object are the names that some schema
declares, each once, in one of them as declared and in the other in the order of their bytes.
-/

namespace Glean

variable {ν : Type} [Source ν]

/-! ## One record -/

/-- How a record that the schema yields looks as JSON: the members of its object in declared
order and those of its object with sorted keys. -/
structure Schema.Rendered (s : Schema) (r : Record) (declared sorted : List (String × Json)) :
    Prop where
  toOrderedJson_eq : r.toOrderedJson = .object declared
  toJson_eq : r.toJson = .object sorted
  /-- No name is declared twice, so no two fields are merged. -/
  nodup : (s.fields.map Prod.fst).Nodup
  declared_keys : declared.map Prod.fst = s.fields.map Prod.fst
  sorted_keys : (sorted.map Prod.fst).Perm (s.fields.map Prod.fst)
  ascending : sorted.Pairwise fun p q => Text.bytes p.1 < Text.bytes q.1
  lookup_declared (name : String) :
    declared.lookup name = (r.get? name).map Value.toOrderedJson
  lookup_sorted (name : String) : sorted.lookup name = (r.get? name).map Value.toJson

theorem lookup_map_value {α β : Type} (g : α → β) (entries : List (String × α)) (name : String) :
    (entries.map fun p => (p.1, g p.2)).lookup name = (entries.lookup name).map g := by
  induction entries with
  | nil => rfl
  | cons p rest ih =>
      rw [List.map_cons, List.lookup_cons, List.lookup_cons]
      cases name == p.1 with
      | true => rfl
      | false => exact ih

/-- Every record that a sound schema yields is rendered as the schema declares it. -/
theorem Schema.Sound.rendered {s : Schema} (hs : s.Sound) {root : ν} {r : Record}
    (h : s.extract root = .ok r) :
    s.Rendered r (orderedMembers r.fields) (sortedMembers [] r.fields) := by
  have hnames : r.fields.map Prod.fst = s.fields.map Prod.fst := Schema.names_of_extract h
  have hnodup : (s.fields.map Prod.fst).Nodup := hs.checked.nodup
  obtain ⟨hperm, hascending⟩ := sortedMembers_nil_spec (hnames ▸ hnodup)
  refine ⟨r.toOrderedJson_eq, r.toJson_eq, hnodup, ?_, ?_, ?_, ?_, ?_⟩
  · rw [orderedMembers_eq_map, List.map_map]
    exact hnames
  · have hkeys := hperm.map Prod.fst
    rw [List.map_map] at hkeys
    rw [← hnames]
    exact hkeys
  · exact hascending.imp Text.bytes_lt_iff.2
  · intro name
    rw [orderedMembers_eq_map, lookup_map_value, Record.get?]
  · intro name
    rw [lookup_sortedMembers (hnames ▸ hnodup), Record.get?, List.lookup_nil, Option.or_none]

/-! ## Records inside -/

/-- A record inside `r`, which a schema that `s` applies yields at some node, is rendered as
that schema declares it, with these members. -/
def Schema.RendersInside (ν : Type) [Source ν] (s : Schema) (r : Record)
    (declared sorted : List (String × Json)) : Prop :=
  ∃ t r', ∃ node : ν, s.Applies t ∧ t.extract node = .ok r' ∧
    (Value.record r').Occurs (.record r) ∧ t.Rendered r' declared sorted

/-- Each record inside one that a sound schema yields is rendered as some schema declares it. -/
theorem Schema.Sound.rendersInside {s : Schema} (hs : s.Sound) {root : ν} {r r' : Record}
    (h : s.extract root = .ok r) (hoccurs : (Value.record r').Occurs (.record r)) :
    s.RendersInside ν r (orderedMembers r'.fields) (sortedMembers [] r'.fields) := by
  obtain ⟨t, r'', node, happlies, hextract, hsame | ⟨hnot, -⟩⟩ := Schema.shows_of_extract h hoccurs
  · injection hsame with hsame
    subst hsame
    exact ⟨t, r', node, happlies, hextract, hoccurs, (hs.of_applies happlies).rendered hextract⟩
  · exact absurd rfl (hnot r')

/-- **The renderings agree**: the text of a record that a schema yields is that of exactly one
document, which is the one with sorted keys up to the order of members.  Both have the
declared names as keys, and every object in either is a record inside, rendered in the one
as some schema declares it and in the other with the keys in the order of their bytes. -/
theorem Schema.renderings_agree {s : Schema} (hs : s.Obtained) {root : ν} {r : Record}
    (h : s.extract root = .ok r) :
    (∀ j : Json, j.render = r.serialized ↔ j = r.toOrderedJson) ∧
    r.toOrderedJson.Reordered r.toJson ∧
    (∃ declared sorted, s.Rendered r declared sorted) ∧
    (∀ members, (Json.object members).Occurs r.toOrderedJson →
      ∃ sorted, s.RendersInside ν r members sorted) ∧
    (∀ members, (Json.object members).Occurs r.toJson →
      ∃ declared, s.RendersInside ν r declared members) := by
  have hdistinct := hs.sound.distinct_of_extract h
  refine ⟨fun j => ⟨fun hj => Json.render_injective hj, ?_⟩, ?_, ⟨_, _, hs.sound.rendered h⟩, ?_, ?_⟩
  · rintro rfl
    rfl
  · have hreordered := Value.rendering_toOrderedJson.reordered Value.rendering_toJson hdistinct
    rwa [Value.toOrderedJson, Value.toJson] at hreordered
  · intro members hoccurs
    rw [← Value.toOrderedJson] at hoccurs
    obtain ⟨r', hr', hdoc⟩ := Value.rendering_toOrderedJson.exists_record hdistinct hoccurs
    rw [Value.toOrderedJson, Record.toOrderedJson_eq] at hdoc
    injection hdoc with hmembers
    exact ⟨_, hmembers ▸ hs.sound.rendersInside h hr'⟩
  · intro members hoccurs
    rw [← Value.toJson] at hoccurs
    obtain ⟨r', hr', hdoc⟩ := Value.rendering_toJson.exists_record hdistinct hoccurs
    rw [Value.toJson, Record.toJson_eq] at hdoc
    injection hdoc with hmembers
    exact ⟨_, hmembers ▸ hs.sound.rendersInside h hr'⟩

namespace Rendered

/-- A person, the name declared before the identifier. -/
def person : Schema := ⟨"Person", [
  ("name", .select "b" .text {}), ("id", .select "i" (.attr "data-id") {})]⟩

/-- A page, the title declared before the authors. -/
def page : Schema := ⟨"Page", [
  ("title", .select "h1" .text {}),
  ("authors", .select "li" (.nested person) { asList := true })]⟩

theorem obtained_page : page.Obtained := by
  have hperson : person.Obtained :=
    .built (b := ⟨person.name, person.fields⟩) rfl (by simp [person])
  exact .built (b := ⟨page.name, page.fields⟩) rfl (by simpa [page] using hperson)

/-- A page with one author, who has no identifier. -/
def source : Listed :=
  .node "" [] [("h1", [.leaf "T"]), ("li", [.node "" [] [("b", [.leaf "x"])]])]

/-- The keys of the page and those of the author change places, each within its object. -/
theorem renderings_page :
    page.Obtained ∧ ∃ r, page.extract source = .ok r ∧
      r.toOrderedJson = .object [("title", .string "T"),
        ("authors", .array [.object [("name", .string "x"), ("id", .null)]])] ∧
      r.toJson = .object [
        ("authors", .array [.object [("id", .null), ("name", .string "x")]]),
        ("title", .string "T")] ∧
      (∀ j : Json, j.render = r.serialized ↔ j = r.toOrderedJson) ∧
      r.toOrderedJson.Reordered r.toJson ∧
      (∃ declared sorted, page.Rendered r declared sorted) ∧
      (∀ members, (Json.object members).Occurs r.toOrderedJson →
        ∃ sorted, page.RendersInside Listed r members sorted) ∧
      (∀ members, (Json.object members).Occurs r.toJson →
        ∃ declared, page.RendersInside Listed r declared members) := by
  have hextract : page.extract source = .ok ⟨"Page", [
      ("title", .text "T"),
      ("authors", .list [.record ⟨"Person", [("name", .text "x"), ("id", .absent)]⟩])]⟩ := rfl
  exact ⟨obtained_page, _, hextract, rfl, rfl, Schema.renderings_agree obtained_page hextract⟩

end Rendered

end Glean
