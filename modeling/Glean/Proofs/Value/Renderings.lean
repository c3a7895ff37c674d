import Glean.Proofs.Value.Documents

/-!
# Glean.Proofs.Value.Renderings

The two ways to write a value as a document have in common what `Value.Rendering` says: a
record becomes an object whose members are its fields in some order.  Whatever does so
agrees with every other that does, up to the order of members, as long as names are
distinct (`Value.Rendering.reordered`), and writes no object that is not a record
(`Value.Rendering.exists_record`).
-/

namespace Glean

/-! ## Documents -/

/-- Equal up to the order of the members of objects: `middle` has the members of the first
object with documents that are equal so far, and they are those of the second in some order. -/
inductive Json.Reordered : Json → Json → Prop where
  | null : Reordered .null .null
  | bool {value : Bool} : Reordered (.bool value) (.bool value)
  | string {value : String} : Reordered (.string value) (.string value)
  | array {xs ys : List Json} (items : List.Forall₂ Json.Reordered xs ys) :
      Reordered (.array xs) (.array ys)
  | object {members middle members' : List (String × Json)}
      (values : List.Forall₂ (Named Json.Reordered) members middle)
      (order : middle.Perm members') : Reordered (.object members) (.object members')

/-- The document `i` stands somewhere in another, as an item or a member, at any depth. -/
inductive Json.Occurs (i : Json) : Json → Prop where
  | here : Occurs i i
  | item {x : Json} {items : List Json} (among : x ∈ items) (inside : Occurs i x) :
      Occurs i (.array items)
  | member {x : Json} {key : String} {members : List (String × Json)}
      (among : (key, x) ∈ members) (inside : Occurs i x) : Occurs i (.object members)

/-! ## What renderings have in common -/

/-- A way to write values as documents.  Of a record in which a name stands twice it says
nothing: an object with sorted keys has only one member for it. -/
structure Value.Rendering (doc : Value → Json) : Prop where
  absent : doc .absent = .null
  text (content : String) : doc (.text content) = .string content
  list (items : List Value) : doc (.list items) = .array (items.map doc)
  record (r : Record) (nodup : (r.fields.map Prod.fst).Nodup) :
    ∃ members, doc (.record r) = .object members ∧
      members.Perm (r.fields.map fun p => (p.1, doc p.2))

namespace Value

theorem rendering_toOrderedJson : Rendering Value.toOrderedJson where
  absent := by rw [toOrderedJson]
  text content := by rw [toOrderedJson]
  list items := by rw [toOrderedJson, orderedItems_eq_map]
  record r _ := by
    refine ⟨orderedMembers r.fields, ?_, ?_⟩
    · rw [toOrderedJson, Record.toOrderedJson_eq]
    · rw [orderedMembers_eq_map]

theorem rendering_toJson : Rendering Value.toJson where
  absent := by rw [toJson]
  text content := by rw [toJson]
  list items := by rw [toJson, sortedItems_eq_map]
  record r nodup := by
    refine ⟨sortedMembers [] r.fields, ?_, ?_⟩
    · rw [toJson, Record.toJson_eq]
    · exact (sortedMembers_nil_spec nodup).1

namespace Rendering

variable {doc doc' : Value → Json}

/-- Renderings of a value in which names are distinct are equal up to the order of members. -/
theorem reordered (h : Rendering doc) (h' : Rendering doc') {v : Value} (hv : v.Distinct) :
    (doc v).Reordered (doc' v) := by
  induction v using Value.nested_induction with
  | absent =>
      rw [h.absent, h'.absent]
      exact .null
  | text content =>
      rw [h.text, h'.text]
      exact .string
  | list items ih =>
      rw [h.list, h'.list]
      refine .array ?_
      rw [List.forall₂_map_left_iff, List.forall₂_map_right_iff, List.forall₂_same]
      exact fun v hmem => ih v hmem (hv.item hmem)
  | record r ih =>
      obtain ⟨members, hdoc, hperm⟩ := h.record r hv.nodup
      obtain ⟨members', hdoc', hperm'⟩ := h'.record r hv.nodup
      have hfields : List.Forall₂ (Named Json.Reordered)
          (r.fields.map fun p => (p.1, doc p.2)) (r.fields.map fun p => (p.1, doc' p.2)) := by
        rw [List.forall₂_map_left_iff, List.forall₂_map_right_iff, List.forall₂_same]
        exact fun p hp => .intro (ih p hp (hv.field hp))
      -- the members of the first object keep their order and take the documents of the second
      obtain ⟨middle, hvalues, horder⟩ := List.perm_comp_forall₂ hperm hfields
      rw [hdoc, hdoc']
      exact .object hvalues (horder.trans hperm'.symm)

/-- Every object in what is written for a value is what is written for a record in it. -/
theorem exists_record (h : Rendering doc) {v : Value} (hv : v.Distinct)
    {members : List (String × Json)} (hoccurs : (Json.object members).Occurs (doc v)) :
    ∃ r, (Value.record r).Occurs v ∧ doc (.record r) = .object members := by
  induction v using Value.nested_induction with
  | absent =>
      rw [h.absent] at hoccurs
      cases hoccurs
  | text content =>
      rw [h.text] at hoccurs
      cases hoccurs
  | list items ih =>
      rw [h.list] at hoccurs
      cases hoccurs with
      | item among inside =>
          obtain ⟨v, hmem, rfl⟩ := List.mem_map.1 among
          obtain ⟨r, hr, hdoc⟩ := ih v hmem (hv.item hmem) inside
          exact ⟨r, .item hmem hr, hdoc⟩
  | record r ih =>
      obtain ⟨own, hown, hperm⟩ := h.record r hv.nodup
      rw [hown] at hoccurs
      cases hoccurs with
      | here => exact ⟨r, .here, hown⟩
      | @member x key _ among inside =>
          obtain ⟨p, hp, hpx⟩ := List.mem_map.1 (hperm.mem_iff.1 among)
          injection hpx with _ hx
          subst hx
          obtain ⟨r', hr', hdoc⟩ := ih p hp (hv.field hp) inside
          exact ⟨r', .field hp hr', hdoc⟩

end Rendering

end Value

end Glean
