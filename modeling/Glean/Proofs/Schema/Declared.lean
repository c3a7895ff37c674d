import Glean.Schema

/-!
# Glean.Proofs.Schema.Declared

What a schema declares at any depth.  Schemas hold fields, fields hold
alternatives and nested schemas, and nested schemas hold fields again, so every
walker recurses through all of them.  `Field.nested_induction` says so once: it
goes from the fields of the nested schema, or from the alternatives, to the field.
What is said of a schema follows from what is said of its fields.

The inventories `schemas`, `selectors` and `leaves` list what is found on the
way, in the order in which it is declared.
-/

namespace Glean

/-! ## Schemas that a field applies -/

/-- The schema that a strategy applies to a matched node. -/
def Strategy.schemas : Strategy → List Schema
  | .nested schema => [schema]
  | _ => []

mutual

/-- The schemas that a field applies, its own and those of its alternatives. -/
def Field.schemas : Field → List Schema
  | .select _ strategy _ => strategy.schemas
  | .firstOf alternatives _ => schemasOf alternatives

/-- The schemas that several fields apply. -/
def schemasOf : List Field → List Schema
  | [] => []
  | f :: rest => f.schemas ++ schemasOf rest

end

@[simp] theorem Strategy.mem_schemas {strategy : Strategy} {s : Schema} :
    s ∈ strategy.schemas ↔ strategy = .nested s := by
  cases strategy <;> simp [Strategy.schemas, eq_comm]

theorem schemasOf_eq_flatMap (fields : List Field) :
    schemasOf fields = fields.flatMap Field.schemas := by
  induction fields with
  | nil => rfl
  | cons f rest ih => rw [schemasOf, ih, List.flatMap_cons]

theorem mem_schemasOf {fields : List Field} {s : Schema} :
    s ∈ schemasOf fields ↔ ∃ f ∈ fields, s ∈ f.schemas := by
  rw [schemasOf_eq_flatMap, List.mem_flatMap]

@[simp] theorem Field.mem_schemas_select {selector : String} {strategy : Strategy}
    {flags : Flags} {s : Schema} :
    s ∈ (Field.select selector strategy flags).schemas ↔ strategy = .nested s := by
  rw [Field.schemas, Strategy.mem_schemas]

@[simp] theorem Field.mem_schemas_firstOf {alternatives : List Field} {flags : Flags}
    {s : Schema} :
    s ∈ (Field.firstOf alternatives flags).schemas ↔ ∃ f ∈ alternatives, s ∈ f.schemas := by
  rw [Field.schemas, mem_schemasOf]

/-! ## Descriptions -/

theorem descriptions_eq_map (fields : List Field) : descriptions fields = fields.map Field.describe := by
  induction fields with
  | nil => rfl
  | cons f rest ih => rw [descriptions, ih, List.map_cons]

/-! ## Induction -/

/-- A declared field is smaller than the schema that declares it. -/
theorem sizeOf_lt_of_mem_fields {s : Schema} {p : String × Field} (h : p ∈ s.fields) :
    sizeOf p.2 < sizeOf s := by
  obtain ⟨name, fields⟩ := s
  obtain ⟨key, f⟩ := p
  have hp : sizeOf (key, f) < sizeOf fields := List.sizeOf_lt_of_mem h
  simp only [Prod.mk.sizeOf_spec] at hp
  simp only [Schema.mk.sizeOf_spec]
  omega

/-- What holds of a field whenever it holds of the fields of its nested schema,
and of a fallback whenever it holds of its alternatives, holds of every field. -/
theorem Field.nested_induction {motive : Field → Prop}
    (select : ∀ selector strategy flags,
      (∀ schema, strategy = .nested schema → ∀ p ∈ schema.fields, motive p.2) →
        motive (.select selector strategy flags))
    (firstOf : ∀ alternatives flags,
      (∀ f ∈ alternatives, motive f) → motive (.firstOf alternatives flags))
    (f : Field) : motive f := by
  match f with
  | .select selector strategy flags =>
      refine select selector strategy flags ?_
      intro schema hschema p hp
      have hlt : sizeOf p.2 < sizeOf strategy := by
        have hp' := sizeOf_lt_of_mem_fields hp
        rw [hschema, Strategy.nested.sizeOf_spec]
        omega
      exact Field.nested_induction select firstOf p.2
  | .firstOf alternatives flags =>
      refine firstOf alternatives flags ?_
      intro f hf
      have hlt := List.sizeOf_lt_of_mem hf
      exact Field.nested_induction select firstOf f
termination_by sizeOf f
decreasing_by
  · simp only [Field.select.sizeOf_spec]
    omega
  · simp only [Field.firstOf.sizeOf_spec]
    omega

/-! ## Selectors -/

mutual

/-- Every selector that a schema declares, at any depth. -/
def Schema.selectors : Schema → List String
  | ⟨_, fields⟩ => declaredSelectors fields

/-- Every selector that declared fields hold. -/
def declaredSelectors : List (String × Field) → List String
  | [] => []
  | (_, f) :: rest => f.selectors ++ declaredSelectors rest

/-- The selector of a field with those of its nested schema, or the selectors of
all alternatives. -/
def Field.selectors : Field → List String
  | .select selector strategy _ => selector :: strategy.selectors
  | .firstOf alternatives _ => alternativeSelectors alternatives

/-- Every selector that alternatives hold. -/
def alternativeSelectors : List Field → List String
  | [] => []
  | f :: rest => f.selectors ++ alternativeSelectors rest

/-- The selectors of a nested schema. -/
def Strategy.selectors : Strategy → List String
  | .nested schema => schema.selectors
  | _ => []

end

@[simp] theorem Schema.mem_selectors {s : Schema} {selector : String} :
    selector ∈ s.selectors ↔ ∃ p ∈ s.fields, selector ∈ p.2.selectors := by
  obtain ⟨name, fields⟩ := s
  rw [Schema.selectors]
  induction fields with
  | nil => simp [declaredSelectors]
  | cons p rest ih =>
      obtain ⟨key, f⟩ := p
      rw [declaredSelectors, List.mem_append, ih]
      simp

@[simp] theorem Field.mem_selectors_select {selector other : String} {strategy : Strategy}
    {flags : Flags} :
    other ∈ (Field.select selector strategy flags).selectors ↔
      other = selector ∨ ∃ s, strategy = .nested s ∧ other ∈ s.selectors := by
  rw [Field.selectors, List.mem_cons]
  cases strategy <;> simp [Strategy.selectors]

@[simp] theorem Field.mem_selectors_firstOf {alternatives : List Field} {flags : Flags}
    {selector : String} :
    selector ∈ (Field.firstOf alternatives flags).selectors ↔
      ∃ f ∈ alternatives, selector ∈ f.selectors := by
  rw [Field.selectors]
  induction alternatives with
  | nil => simp [alternativeSelectors]
  | cons f rest ih => simp [alternativeSelectors, ih]

/-! ## Leaves -/

mutual

/-- The selectors that a field tries on one node, left to right through its
alternatives; what a nested schema selects below a match is not among them. -/
def Field.leaves : Field → List String
  | .select selector _ _ => [selector]
  | .firstOf alternatives _ => leavesOf alternatives

/-- The selectors that several fields try on one node. -/
def leavesOf : List Field → List String
  | [] => []
  | f :: rest => f.leaves ++ leavesOf rest

end

theorem leavesOf_eq_flatMap (fields : List Field) : leavesOf fields = fields.flatMap Field.leaves := by
  induction fields with
  | nil => rfl
  | cons f rest ih => rw [leavesOf, ih, List.flatMap_cons]

end Glean
