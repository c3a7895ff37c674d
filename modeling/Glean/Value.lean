import Glean.Convert

/-!
# Glean.Value

What extraction yields.  A record holds one value per declared field, in
declaration order; a value is nothing, a text, a list with one value per
matched node, or a record of its own.
-/

namespace Glean

/-! ## Values and records -/

mutual

/-- The value of a field. -/
inductive Value where
  /-- Nothing matched, or the matched node lacks the attribute. -/
  | absent
  | text (content : String)
  /-- One value per matched node, in document order. -/
  | list (items : List Value)
  | record (record : Record)

/-- The result of applying a schema: its name and the declared fields in order. -/
structure Record where
  schema : String
  fields : List (String × Value)

end

instance : Inhabited Value := ⟨.absent⟩

namespace Value

/-! ## Views of a value -/

def isAbsent : Value → Bool
  | .absent => true
  | _ => false

theorem isAbsent_iff {v : Value} : v.isAbsent = true ↔ v = .absent := by
  cases v <;> simp [isAbsent]

/-- Whether a fallback counts the value as nothing found.  A record never is
empty, nor is a list that holds anything at all. -/
def isEmpty : Value → Bool
  | .absent => true
  | .text content => content.isEmpty
  | .list items => items.isEmpty
  | .record _ => false

def asText? : Value → Option String
  | .text content => some content
  | _ => none

def asList? : Value → Option (List Value)
  | .list items => some items
  | _ => none

def asRecord? : Value → Option Record
  | .record r => some r
  | _ => none

/-- The texts among the items of a list, in order. -/
def texts (v : Value) : List String := (v.asList?.getD []).filterMap asText?

def kind : Value → ValueKind
  | .absent => .nothing
  | .text _ => .text
  | .list _ => .list
  | .record _ => .record

end Value

/-! ## Equality -/

mutual

/-- Whether two values are the same. -/
def Value.same : Value → Value → Bool
  | .absent, .absent => true
  | .text a, .text b => a == b
  | .list xs, .list ys => sameItems xs ys
  | .record r, .record s => r.same s
  | _, _ => false

/-- Whether two records have the same schema name and the same fields. -/
def Record.same : Record → Record → Bool
  | .mk n xs, .mk m ys => n == m && sameFields xs ys

/-- Whether two lists hold the same values. -/
def sameItems : List Value → List Value → Bool
  | [], [] => true
  | x :: xs, y :: ys => x.same y && sameItems xs ys
  | _, _ => false

/-- Whether two lists hold the same named values. -/
def sameFields : List (String × Value) → List (String × Value) → Bool
  | [], [] => true
  | (n, x) :: xs, (m, y) :: ys => n == m && x.same y && sameFields xs ys
  | _, _ => false

end

instance : BEq Value := ⟨Value.same⟩
instance : BEq Record := ⟨Record.same⟩

mutual

theorem Value.eq_of_same : ∀ {v w : Value}, v.same w = true → v = w
  | .absent, .absent, _ => rfl
  | .text a, .text b, h => by simpa [Value.same] using h
  | .list xs, .list ys, h => by
    rw [Value.same] at h
    rw [eq_of_sameItems h]
  | .record r, .record s, h => by
    rw [Value.same] at h
    rw [Record.eq_of_same h]
  | .absent, .text _, h | .absent, .list _, h | .absent, .record _, h
  | .text _, .absent, h | .text _, .list _, h | .text _, .record _, h
  | .list _, .absent, h | .list _, .text _, h | .list _, .record _, h
  | .record _, .absent, h | .record _, .text _, h | .record _, .list _, h => by
    simp [Value.same] at h

theorem Record.eq_of_same : ∀ {r s : Record}, r.same s = true → r = s
  | .mk n xs, .mk m ys, h => by
    simp only [Record.same, Bool.and_eq_true, beq_iff_eq] at h
    rw [h.1, eq_of_sameFields h.2]

theorem eq_of_sameItems : ∀ {xs ys : List Value}, sameItems xs ys = true → xs = ys
  | [], [], _ => rfl
  | x :: xs, y :: ys, h => by
    simp only [sameItems, Bool.and_eq_true] at h
    rw [Value.eq_of_same h.1, eq_of_sameItems h.2]
  | [], _ :: _, h | _ :: _, [], h => by simp [sameItems] at h

theorem eq_of_sameFields : ∀ {xs ys : List (String × Value)}, sameFields xs ys = true → xs = ys
  | [], [], _ => rfl
  | (n, x) :: xs, (m, y) :: ys, h => by
    simp only [sameFields, Bool.and_eq_true, beq_iff_eq] at h
    rw [h.1.1, Value.eq_of_same h.1.2, eq_of_sameFields h.2]
  | [], _ :: _, h | _ :: _, [], h => by simp [sameFields] at h

end

mutual

theorem Value.same_refl : ∀ v : Value, v.same v = true
  | .absent => by rw [Value.same]
  | .text a => by simp [Value.same]
  | .list xs => by rw [Value.same]; exact sameItems_refl xs
  | .record r => by rw [Value.same]; exact Record.same_refl r

theorem Record.same_refl : ∀ r : Record, r.same r = true
  | .mk n xs => by simp [Record.same, sameFields_refl xs]

theorem sameItems_refl : ∀ xs : List Value, sameItems xs xs = true
  | [] => by rw [sameItems]
  | x :: xs => by simp [sameItems, Value.same_refl x, sameItems_refl xs]

theorem sameFields_refl : ∀ xs : List (String × Value), sameFields xs xs = true
  | [] => by rw [sameFields]
  | (n, x) :: xs => by simp [sameFields, Value.same_refl x, sameFields_refl xs]

end

instance : LawfulBEq Value where
  eq_of_beq h := Value.eq_of_same h
  rfl := Value.same_refl _

instance : LawfulBEq Record where
  eq_of_beq h := Record.eq_of_same h
  rfl := Record.same_refl _

instance : DecidableEq Value := fun v w => decidable_of_iff (v.same w = true)
  ⟨Value.eq_of_same, fun h => h ▸ Value.same_refl v⟩

instance : DecidableEq Record := fun r s => decidable_of_iff (r.same s = true)
  ⟨Record.eq_of_same, fun h => h ▸ Record.same_refl r⟩

end Glean
