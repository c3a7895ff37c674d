import Glean.Proofs.Value.Reordered

/-!
# Glean.Proofs.Value.Documents

What the documents of a value tell of it.  The document in declared order tells the one
with sorted keys (`Value.toJson_eq_of_toOrderedJson`).  Neither tells the name of a schema,
and the sorted one does not tell the order of fields; of a value without records either
tells everything (`Value.RecordFree.eq_of_toJson`).
-/

namespace Glean

/-! ## Records -/

theorem Record.toJson_eq (r : Record) : r.toJson = .object (sortedMembers [] r.fields) := by
  cases r
  rw [Record.toJson]

theorem Record.toOrderedJson_eq (r : Record) :
    r.toOrderedJson = .object (orderedMembers r.fields) := by
  cases r
  rw [Record.toOrderedJson]

/-! ## Declared order -/

theorem orderedItems_eq_map (items : List Value) :
    orderedItems items = items.map Value.toOrderedJson := by
  induction items with
  | nil => rw [orderedItems, List.map_nil]
  | cons v rest ih => rw [orderedItems, ih, List.map_cons]

theorem orderedMembers_eq_map (fields : List (String × Value)) :
    orderedMembers fields = fields.map fun p => (p.1, p.2.toOrderedJson) := by
  induction fields with
  | nil => rw [orderedMembers, List.map_nil]
  | cons p rest ih => rw [orderedMembers, ih, List.map_cons]

/-- Values with the same document in declared order have the same with sorted keys. -/
theorem Value.toJson_eq_of_toOrderedJson {v w : Value} (h : v.toOrderedJson = w.toOrderedJson) :
    v.toJson = w.toJson := by
  induction v using Value.nested_induction generalizing w with
  | absent =>
      cases w with
      | absent => rfl
      | _ => simp [Value.toOrderedJson, Record.toOrderedJson_eq] at h
  | text content =>
      cases w with
      | text content' =>
          rw [Value.toOrderedJson, Value.toOrderedJson] at h
          injection h with h
          rw [h]
      | _ => simp [Value.toOrderedJson, Record.toOrderedJson_eq] at h
  | list xs ih =>
      cases w with
      | list ys =>
          rw [Value.toOrderedJson, Value.toOrderedJson, orderedItems_eq_map,
            orderedItems_eq_map] at h
          injection h with h
          have hall : xs.map Value.toJson = ys.map Value.toJson :=
            map_eq_map_of_forall₂ <| forall₂_imp_of_mem (forall₂_of_map_eq_map h)
              fun x hx y hxy => ih x hx hxy
          rw [Value.toJson, Value.toJson, sortedItems_eq_map, sortedItems_eq_map, hall]
      | _ => simp [Value.toOrderedJson, Record.toOrderedJson_eq] at h
  | record r ih =>
      cases w with
      | record r' =>
          rw [Value.toOrderedJson, Value.toOrderedJson, Record.toOrderedJson_eq,
            Record.toOrderedJson_eq, orderedMembers_eq_map, orderedMembers_eq_map] at h
          injection h with h
          have hall : List.Forall₂ (fun p q => p.1 = q.1 ∧ p.2.toJson = q.2.toJson)
              r.fields r'.fields := by
            refine forall₂_imp_of_mem (forall₂_of_map_eq_map h) fun p hp q hpq => ?_
            injection hpq with hname hvalue
            exact ⟨hname, ih p hp hvalue⟩
          rw [Value.toJson, Value.toJson, Record.toJson_eq, Record.toJson_eq,
            sortedMembers_congr hall]
      | _ => simp [Value.toOrderedJson, Record.toOrderedJson_eq] at h

/-! ## Values without records -/

/-- No record stands in the value, at any depth. -/
def Value.RecordFree (v : Value) : Prop :=
  ∀ r, ¬ (Value.record r).Occurs v

namespace Value.RecordFree

theorem absent : Value.RecordFree .absent := fun _ h => by cases h

theorem text (content : String) : Value.RecordFree (.text content) := fun _ h => by cases h

theorem list {items : List Value} (h : ∀ v ∈ items, v.RecordFree) :
    Value.RecordFree (.list items) := by
  intro r hr
  cases hr with
  | item member inside => exact h _ member r inside

theorem item {items : List Value} (h : (Value.list items).RecordFree) {v : Value}
    (hv : v ∈ items) : v.RecordFree :=
  fun r hr => h r (.item hv hr)

/-- A value without records is told by its document. -/
theorem eq_of_toJson {v w : Value} (h : v.RecordFree) (hjson : v.toJson = w.toJson) : v = w := by
  induction v using Value.nested_induction generalizing w with
  | absent =>
      cases w with
      | absent => rfl
      | _ => simp [Value.toJson, Record.toJson_eq] at hjson
  | text content =>
      cases w with
      | text content' =>
          rw [Value.toJson, Value.toJson] at hjson
          injection hjson with hjson
          rw [hjson]
      | _ => simp [Value.toJson, Record.toJson_eq] at hjson
  | list xs ih =>
      cases w with
      | list ys =>
          rw [Value.toJson, Value.toJson, sortedItems_eq_map, sortedItems_eq_map] at hjson
          injection hjson with hjson
          have hall : List.Forall₂ (· = ·) xs ys :=
            forall₂_imp_of_mem (forall₂_of_map_eq_map hjson) fun x hx y hxy =>
              ih x hx (h.item hx) hxy
          rw [List.forall₂_eq_eq_eq] at hall
          rw [hall]
      | _ => simp [Value.toJson, Record.toJson_eq] at hjson
  | record r _ => exact absurd .here (h r)

end Value.RecordFree

end Glean
