import Glean.Config
import Glean.Proofs.Extraction.Collecting
import Glean.Proofs.Schema.Checked

/-!
# Glean.Proofs.Config.Translation

From configurations to fields, step by step.  Declared fields and alternatives
are translated one after the other; a nested schema is built on the way.  So the
schema that a configuration declares has passed the checks of a builder at every
depth (`SchemaConfig.sound_of_toSchema`).
-/

namespace Glean

/-! ## Induction -/

theorem SchemaConfig.sizeOf_lt_of_mem_fields {c : SchemaConfig} {d : FieldConfig}
    (h : d ∈ c.fields) : sizeOf d < sizeOf c := by
  obtain ⟨name, fields⟩ := c
  have hlt : sizeOf d < sizeOf fields := List.sizeOf_lt_of_mem h
  simp only [SchemaConfig.mk.sizeOf_spec]
  omega

/-- What holds of the configuration of a field whenever it holds of the fields
of its schema and of its alternatives holds of every such configuration. -/
theorem FieldConfig.nested_induction {motive : FieldConfig → Prop}
    (step : ∀ c : FieldConfig,
      (∀ s, c.schema = some s → ∀ d ∈ s.fields, motive d) →
        (∀ d ∈ c.alternatives, motive d) → motive c)
    (c : FieldConfig) : motive c := by
  obtain ⟨name, kind, selector, required, asList, attr, schema, alternatives⟩ := c
  refine step _ ?_ ?_
  · intro s hs d hd
    have hlt := SchemaConfig.sizeOf_lt_of_mem_fields hd
    exact FieldConfig.nested_induction step d
  · intro d hd
    have hlt := List.sizeOf_lt_of_mem hd
    exact FieldConfig.nested_induction step d
termination_by sizeOf c
decreasing_by
  · simp only at hs
    simp only [hs, FieldConfig.mk.sizeOf_spec, Option.some.sizeOf_spec]
    omega
  · simp only [FieldConfig.mk.sizeOf_spec]
    simp only at hlt
    omega

/-! ## Lists of fields -/

/-- The alternatives of a fallback are translated one after the other. -/
theorem alternativeFields_eq_collect (owner : String) (cs : List FieldConfig) :
    alternativeFields owner cs = collect (fun c => c.toField owner) cs := by
  induction cs with
  | nil => rw [alternativeFields, collect]
  | cons c rest ih =>
      rw [alternativeFields, collect, ih]
      cases c.toField owner with
      | error e => rfl
      | ok f => cases collect (fun c => c.toField owner) rest <;> rfl

/-- A declared field under its own name. -/
def FieldConfig.declared (c : FieldConfig) : Except SchemaError (String × Field) :=
  (c.toField c.name).map (Prod.mk c.name)

/-- The fields of a schema are translated one after the other. -/
theorem declaredFields_eq_collect (cs : List FieldConfig) :
    declaredFields cs = collect FieldConfig.declared cs := by
  induction cs with
  | nil => rw [declaredFields, collect]
  | cons c rest ih =>
      rw [declaredFields, collect, FieldConfig.declared, ih]
      cases c.toField c.name with
      | error e => rfl
      | ok f => cases collect FieldConfig.declared rest <;> rfl

theorem FieldConfig.declared_eq_ok_iff {c : FieldConfig} {p : String × Field} :
    c.declared = .ok p ↔ p.1 = c.name ∧ c.toField c.name = .ok p.2 := by
  obtain ⟨name, f⟩ := p
  rw [FieldConfig.declared]
  cases c.toField c.name <;> simp [Except.map, eq_comm]

/-! ## Fields -/

/-- What a configuration can become: a field that reads a node itself, a field
with the schema that its configuration declares, or a fallback. -/
theorem FieldConfig.toField_eq_ok_cases {c : FieldConfig} {owner : String} {f : Field}
    (h : c.toField owner = .ok f) :
    (∃ strategy, strategy.schemas = [] ∧
        f = .select c.selector strategy ⟨c.required, c.asList⟩) ∨
      (∃ d s, c.schema = some d ∧ d.toSchema = .ok s ∧
        f = .select c.selector (.nested s) ⟨c.required, c.asList⟩) ∨
      ∃ fields, collect (fun d => d.toField owner) c.alternatives = .ok fields ∧
        f = .firstOf fields ⟨c.required, c.asList⟩ := by
  obtain ⟨name, kind, selector, required, asList, attr, schema, alternatives⟩ := c
  cases kind with
  | text | any | content =>
      simp only [FieldConfig.toField, Except.ok.injEq] at h
      exact .inl ⟨_, rfl, h.symm⟩
  | attr =>
      cases attr with
      | none => simp [FieldConfig.toField] at h
      | some key =>
          simp only [FieldConfig.toField, Except.ok.injEq] at h
          exact .inl ⟨_, rfl, h.symm⟩
  | nested =>
      cases schema with
      | none => simp [FieldConfig.toField, nestedSchema?] at h
      | some d =>
          simp only [FieldConfig.toField, nestedSchema?] at h
          cases hd : d.toSchema with
          | error e => simp [hd] at h
          | ok s =>
              simp only [hd, Except.ok.injEq] at h
              exact .inr (.inl ⟨d, s, rfl, hd, h.symm⟩)
  | firstOf =>
      simp only [FieldConfig.toField, alternativeFields_eq_collect] at h
      cases hcollect : collect (fun d => d.toField owner) alternatives with
      | error e => simp [hcollect] at h
      | ok fields =>
          simp only [hcollect, Except.ok.injEq] at h
          exact .inr (.inr ⟨fields, rfl, h.symm⟩)

/-! ## Schemas -/

/-- A schema is built from its name and its translated fields. -/
theorem SchemaConfig.toSchema_eq_ok_iff {c : SchemaConfig} {s : Schema} :
    c.toSchema = .ok s ↔ ∃ fields, collect FieldConfig.declared c.fields = .ok fields ∧
      Builder.build ⟨c.name, fields⟩ = .ok s := by
  obtain ⟨name, fields⟩ := c
  rw [SchemaConfig.toSchema, declaredFields_eq_collect]
  cases collect FieldConfig.declared fields <;> simp

/-- A configuration whose fields apply sound schemas declares a sound schema. -/
theorem SchemaConfig.sound_of_fields {c : SchemaConfig} {s : Schema} (h : c.toSchema = .ok s)
    (hfields : ∀ d ∈ c.fields, ∀ owner f, d.toField owner = .ok f → ∀ t ∈ f.schemas, t.Sound) :
    s.Sound := by
  obtain ⟨fields, hcollect, hbuild⟩ := SchemaConfig.toSchema_eq_ok_iff.1 h
  obtain ⟨rfl, hchecked⟩ := Builder.build_eq_ok_iff.1 hbuild
  refine .intro hchecked ?_
  intro p hp t ht
  obtain ⟨d, hd, hdp⟩ := exists_mem_of_mem_collect hcollect hp
  exact hfields d hd d.name p.2 (FieldConfig.declared_eq_ok_iff.1 hdp).2 t ht

/-- A field that a configuration declares applies sound schemas only. -/
theorem FieldConfig.sound_of_toField {c : FieldConfig} {owner : String} {f : Field}
    (h : c.toField owner = .ok f) : ∀ t ∈ f.schemas, t.Sound := by
  -- The fields of a nested schema are translated under names of their own.
  induction c using FieldConfig.nested_induction generalizing owner f with
  | step c ihschema ihalternatives =>
      intro t ht
      rcases FieldConfig.toField_eq_ok_cases h with
        ⟨strategy, hnone, rfl⟩ | ⟨d, s, hd, hs, rfl⟩ | ⟨fields, hcollect, rfl⟩
      · rw [Field.schemas, hnone] at ht
        cases ht
      · obtain rfl : s = t := by simpa using ht
        exact SchemaConfig.sound_of_fields hs fun e he _ _ => ihschema d hd e he
      · obtain ⟨g, hg, htg⟩ := Field.mem_schemas_firstOf.1 ht
        obtain ⟨d, hd, hdg⟩ := exists_mem_of_mem_collect hcollect hg
        exact ihalternatives d hd hdg t htg

/-- The schema that a configuration declares is sound. -/
theorem SchemaConfig.sound_of_toSchema {c : SchemaConfig} {s : Schema}
    (h : c.toSchema = .ok s) : s.Sound :=
  SchemaConfig.sound_of_fields h fun _ _ _ _ => FieldConfig.sound_of_toField

end Glean
