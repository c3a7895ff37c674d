import Glean.Proofs.Extraction.Distinct
import Glean.Proofs.Extraction.Parallel
import Glean.Proofs.Value.Sorted

/-!
# Glean.Proofs.Value.Reordered

Values that are equal up to the order of the fields in records, at any depth
(`Value.Reordered`).  As long as names are distinct they look the same to whoever asks
by name (`Value.Reordered.get?`), and they are the same as JSON with sorted keys
(`Value.Reordered.toJson_eq`).
-/

namespace Glean

/-! ## Induction -/

/-- What holds of a list whenever it holds of the items, and of a record whenever it
holds of the values of its fields, holds of every value if it holds of the rest. -/
theorem Value.nested_induction {motive : Value → Prop} (absent : motive .absent)
    (text : ∀ content, motive (.text content))
    (list : ∀ items, (∀ v ∈ items, motive v) → motive (.list items))
    (record : ∀ r : Record, (∀ p ∈ r.fields, motive p.2) → motive (.record r))
    (v : Value) : motive v := by
  match v with
  | .absent => exact absent
  | .text content => exact text content
  | .list items =>
      refine list items fun v hv => ?_
      have hlt := List.sizeOf_lt_of_mem hv
      exact Value.nested_induction absent text list record v
  | .record ⟨schema, fields⟩ =>
      refine record ⟨schema, fields⟩ fun p hp => ?_
      have hlt : sizeOf p < sizeOf fields := List.sizeOf_lt_of_mem hp
      exact Value.nested_induction absent text list record p.2
termination_by sizeOf v
decreasing_by
  · simp only [Value.list.sizeOf_spec]
    omega
  · obtain ⟨name, v⟩ := p
    simp only [Prod.mk.sizeOf_spec] at hlt
    simp only [Value.record.sizeOf_spec, Record.mk.sizeOf_spec]
    omega

/-! ## Order of fields -/

/-- Equal up to the order of the fields in records: `middle` has the fields of the first
record with values that are equal so far, and they are those of the second in some order. -/
inductive Value.Reordered : Value → Value → Prop where
  | absent : Reordered .absent .absent
  | text {content : String} : Reordered (.text content) (.text content)
  | list {xs ys : List Value} (items : List.Forall₂ Value.Reordered xs ys) :
      Reordered (.list xs) (.list ys)
  | record {schema : String} {fields middle fields' : List (String × Value)}
      (values : List.Forall₂ (Named Value.Reordered) fields middle)
      (order : middle.Perm fields') :
      Reordered (.record ⟨schema, fields⟩) (.record ⟨schema, fields'⟩)

/-- The order of fields is nothing that extraction looks at. -/
theorem Value.Reordered.congruent : Value.Congruent Value.Reordered where
  absent := .absent
  text _ := .text
  list items := .list items
  isAbsent h := by cases h <;> rfl
  isEmpty h := by
    cases h with
    | list items => cases items <;> rfl
    | absent | text | record => rfl

/-! ## Looking up a name -/

/-- Lists with related entries under the same names have related entries to find. -/
theorem lookup_of_named {α β : Type} {R : α → β → Prop} {xs : List (String × α)}
    {ys : List (String × β)} (h : List.Forall₂ (Named R) xs ys) (name : String) :
    Option.Rel R (xs.lookup name) (ys.lookup name) := by
  induction h with
  | nil => exact .none
  | @cons p q xs ys hpq _ ih =>
      obtain ⟨related⟩ := hpq
      rename_i key _ _
      rw [List.lookup_cons, List.lookup_cons]
      cases name == key with
      | true => exact .some related
      | false => exact ih

theorem map_fst_of_named {α β : Type} {R : α → β → Prop} {xs : List (String × α)}
    {ys : List (String × β)} (h : List.Forall₂ (Named R) xs ys) :
    xs.map Prod.fst = ys.map Prod.fst :=
  map_eq_map_of_forall₂ (h.imp fun _ _ hpq => hpq.name_eq)

/-- Under distinct names the order of the entries does not count. -/
theorem lookup_perm {α : Type} {xs ys : List (String × α)} (h : xs.Perm ys)
    (hnodup : (xs.map Prod.fst).Nodup) (name : String) : xs.lookup name = ys.lookup name := by
  cases hfound : ys.lookup name with
  | none =>
      rw [List.lookup_eq_none_iff] at hfound
      exact List.lookup_eq_none_iff.2 fun p hp => hfound p (h.mem_iff.1 hp)
  | some x =>
      obtain ⟨before, after, rfl, -⟩ := List.lookup_eq_some_iff.1 hfound
      have hmem : (name, x) ∈ xs := h.mem_iff.2 (by simp)
      exact lookup_of_nodup hnodup hmem

/-- Records that are equal up to the order of their fields have equal values, up to that
order, under every name. -/
theorem Value.Reordered.get? {r r' : Record} (h : Value.Reordered (.record r) (.record r'))
    (hdistinct : (Value.record r).Distinct) (name : String) :
    Option.Rel Value.Reordered (r.get? name) (r'.get? name) := by
  cases h with
  | record values order =>
      have hnodup := hdistinct.nodup
      rw [map_fst_of_named values] at hnodup
      rw [Record.get?, Record.get?, ← lookup_perm order hnodup]
      exact lookup_of_named values name

/-! ## JSON -/

theorem sortedItems_eq_map (items : List Value) : sortedItems items = items.map Value.toJson := by
  induction items with
  | nil => rw [sortedItems, List.map_nil]
  | cons v rest ih => rw [sortedItems, ih, List.map_cons]

/-- Fields with the same names and values that are the same as JSON make the same object. -/
theorem sortedMembers_congr {xs ys : List (String × Value)}
    (h : List.Forall₂ (fun p q => p.1 = q.1 ∧ p.2.toJson = q.2.toJson) xs ys)
    (members : List (String × Json)) : sortedMembers members xs = sortedMembers members ys := by
  have hmap : xs.map (fun p => (p.1, p.2.toJson)) = ys.map fun p => (p.1, p.2.toJson) :=
    map_eq_map_of_forall₂ (h.imp fun p q hpq => Prod.ext hpq.1 hpq.2)
  rw [sortedMembers_eq_foldl, sortedMembers_eq_foldl, hmap]

/-- Values that are equal up to the order of fields are the same as JSON with sorted keys. -/
theorem Value.Reordered.toJson_eq {v w : Value} (h : v.Reordered w) (hdistinct : v.Distinct) :
    v.toJson = w.toJson := by
  induction v using Value.nested_induction generalizing w with
  | absent | text content => cases h; rfl
  | list xs ih =>
      cases h with
      | @list _ ys items =>
          have hall : xs.map Value.toJson = ys.map Value.toJson :=
            map_eq_map_of_forall₂ <| forall₂_imp_of_mem items fun x hx y hxy =>
              ih x hx hxy (hdistinct.item hx)
          rw [Value.toJson, Value.toJson, sortedItems_eq_map, sortedItems_eq_map, hall]
  | record r ih =>
      cases h with
      | @record schema fields middle fields' values order =>
          have hnodup : (middle.map Prod.fst).Nodup := map_fst_of_named values ▸ hdistinct.nodup
          have hmiddle : List.Forall₂ (fun p q => p.1 = q.1 ∧ p.2.toJson = q.2.toJson)
              fields middle :=
            forall₂_imp_of_mem values fun p hp q hpq =>
              ⟨hpq.name_eq, ih p hp hpq.related (hdistinct.field hp)⟩
          rw [Value.toJson, Value.toJson, Record.toJson, Record.toJson,
            sortedMembers_congr hmiddle, sortedMembers_perm order hnodup]

end Glean
