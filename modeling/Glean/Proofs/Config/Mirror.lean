import Glean.Proofs.Config.Translation

/-!
# Glean.Proofs.Config.Mirror

Configurations and builders express the same schemas.  `Schema.toConfig` writes a
schema down as a configuration, with every option that a field does not need at its
default.  `SchemaConfig.pruned` resets the options that the kind of a field does not
use, and the names of alternatives.

A pruned configuration declares what it declared before, to the same error
(`SchemaConfig.toSchema_pruned`); what has been written down declares the schema again
(`Schema.Sound.toSchema_toConfig`); and a schema that has been declared is written down
as the pruned configuration (`SchemaConfig.toConfig_of_toSchema`).
-/

namespace Glean

/-! ## From schemas to configurations -/

mutual

/-- The configuration that mirrors a schema. -/
def Schema.toConfig : Schema → SchemaConfig
  | ⟨name, fields⟩ => ⟨name, fieldConfigs fields⟩

/-- The configurations of declared fields, each under its name. -/
def fieldConfigs : List (String × Field) → List FieldConfig
  | [] => []
  | (name, f) :: rest => f.toConfig name :: fieldConfigs rest

/-- The configuration of a field that is declared under `name`. -/
def Field.toConfig (name : String) : Field → FieldConfig
  | .select selector strategy flags => strategy.toConfig name selector flags
  | .firstOf alternatives flags =>
    { name, kind := .firstOf, required := flags.required, asList := flags.asList
      alternatives := alternativeConfigs alternatives }

/-- The configurations of alternatives, which have no names. -/
def alternativeConfigs : List Field → List FieldConfig
  | [] => []
  | f :: rest => f.toConfig "" :: alternativeConfigs rest

/-- The configuration of a field that selects, by how it reads its matches. -/
def Strategy.toConfig (name selector : String) (flags : Flags) : Strategy → FieldConfig
  | .text =>
    { name, kind := .text, selector, required := flags.required, asList := flags.asList }
  | .any =>
    { name, kind := .any, selector, required := flags.required, asList := flags.asList }
  | .content =>
    { name, kind := .content, selector, required := flags.required, asList := flags.asList }
  | .attr key =>
    { name, kind := .attr, selector, required := flags.required, asList := flags.asList
      attr := some key }
  | .nested s =>
    { name, kind := .nested, selector, required := flags.required, asList := flags.asList
      schema := some s.toConfig }

end

theorem fieldConfigs_eq_map (fields : List (String × Field)) :
    fieldConfigs fields = fields.map fun p => p.2.toConfig p.1 := by
  induction fields with
  | nil => rfl
  | cons p rest ih => rw [fieldConfigs, ih, List.map_cons]

theorem alternativeConfigs_eq_map (alternatives : List Field) :
    alternativeConfigs alternatives = alternatives.map (Field.toConfig "") := by
  induction alternatives with
  | nil => rfl
  | cons f rest ih => rw [alternativeConfigs, ih, List.map_cons]

@[simp] theorem Schema.name_toConfig (s : Schema) : s.toConfig.name = s.name := by
  cases s
  rfl

@[simp] theorem Schema.fields_toConfig (s : Schema) :
    s.toConfig.fields = s.fields.map fun p => p.2.toConfig p.1 := by
  cases s
  rw [Schema.toConfig, fieldConfigs_eq_map]

@[simp] theorem Field.name_toConfig (f : Field) (name : String) :
    (f.toConfig name).name = name := by
  cases f with
  | select selector strategy flags => cases strategy <;> rfl
  | firstOf alternatives flags => rfl

/-! ## Options that are used -/

mutual

/-- The configuration without what has no effect. -/
def SchemaConfig.pruned : SchemaConfig → SchemaConfig
  | ⟨name, fields⟩ => ⟨name, prunedFields fields⟩

def prunedFields : List FieldConfig → List FieldConfig
  | [] => []
  | c :: rest => c.pruned c.name :: prunedFields rest

/-- The configuration of a field under `name`, with the options its kind uses. -/
def FieldConfig.pruned (name : String) : FieldConfig → FieldConfig
  | ⟨_, kind, selector, required, asList, attr, schema, alternatives⟩ =>
    { name, kind, required, asList
      selector := if kind = .firstOf then "" else selector
      attr := if kind = .attr then attr else none
      schema := if kind = .nested then prunedSchema schema else none
      alternatives := if kind = .firstOf then prunedAlternatives alternatives else [] }

def prunedSchema : Option SchemaConfig → Option SchemaConfig
  | none => none
  | some c => some c.pruned

/-- Alternatives lose their names. -/
def prunedAlternatives : List FieldConfig → List FieldConfig
  | [] => []
  | c :: rest => c.pruned "" :: prunedAlternatives rest

end

theorem prunedFields_eq_map (fields : List FieldConfig) :
    prunedFields fields = fields.map fun c => c.pruned c.name := by
  induction fields with
  | nil => rfl
  | cons c rest ih => rw [prunedFields, ih, List.map_cons]

theorem prunedAlternatives_eq_map (alternatives : List FieldConfig) :
    prunedAlternatives alternatives = alternatives.map (FieldConfig.pruned "") := by
  induction alternatives with
  | nil => rfl
  | cons c rest ih => rw [prunedAlternatives, ih, List.map_cons]

@[simp] theorem SchemaConfig.name_pruned (c : SchemaConfig) : c.pruned.name = c.name := by
  cases c
  rfl

@[simp] theorem SchemaConfig.fields_pruned (c : SchemaConfig) :
    c.pruned.fields = c.fields.map fun d => d.pruned d.name := by
  cases c
  rw [SchemaConfig.pruned, prunedFields_eq_map]

@[simp] theorem FieldConfig.name_pruned (c : FieldConfig) (name : String) :
    (c.pruned name).name = name := by
  cases c
  rfl

/-! ## Pruning has no effect -/

/-- A schema is built from its name and its translated fields, or fails with them. -/
theorem SchemaConfig.toSchema_eq (c : SchemaConfig) :
    c.toSchema = (collect FieldConfig.declared c.fields).bind fun fields =>
      Builder.build ⟨c.name, fields⟩ := by
  obtain ⟨name, fields⟩ := c
  rw [SchemaConfig.toSchema, declaredFields_eq_collect]
  cases collect FieldConfig.declared fields <;> rfl

theorem SchemaConfig.toSchema_pruned_of_fields {c : SchemaConfig}
    (h : ∀ d ∈ c.fields, (d.pruned d.name).toField d.name = d.toField d.name) :
    c.pruned.toSchema = c.toSchema := by
  have hfields : collect FieldConfig.declared c.pruned.fields =
      collect FieldConfig.declared c.fields := by
    apply collect_congr
    rw [SchemaConfig.fields_pruned, List.forall₂_map_left_iff, List.forall₂_same]
    intro d hd
    rw [FieldConfig.declared, FieldConfig.declared, FieldConfig.name_pruned, h d hd]
  rw [SchemaConfig.toSchema_eq, SchemaConfig.toSchema_eq, hfields, SchemaConfig.name_pruned]

/-- A pruned configuration declares the same field, or fails alike. -/
theorem FieldConfig.toField_pruned (c : FieldConfig) (name owner : String) :
    (c.pruned name).toField owner = c.toField owner := by
  induction c using FieldConfig.nested_induction generalizing name owner with
  | step c ihschema ihalternatives =>
      obtain ⟨own, kind, selector, required, asList, attr, schema, alternatives⟩ := c
      cases kind with
      | text | any | content | attr => rfl
      | nested =>
          cases schema with
          | none => rfl
          | some s =>
              have hs : s.pruned.toSchema = s.toSchema :=
                SchemaConfig.toSchema_pruned_of_fields fun d hd => ihschema s rfl d hd d.name d.name
              simp [FieldConfig.pruned, prunedSchema, FieldConfig.toField, nestedSchema?, hs]
      | firstOf =>
          have hall : alternativeFields owner (prunedAlternatives alternatives) =
              alternativeFields owner alternatives := by
            rw [alternativeFields_eq_collect, alternativeFields_eq_collect]
            apply collect_congr
            rw [prunedAlternatives_eq_map, List.forall₂_map_left_iff, List.forall₂_same]
            exact fun d hd => ihalternatives d hd "" owner
          simp [FieldConfig.pruned, FieldConfig.toField, hall]

/-- A pruned configuration declares the same schema, or fails alike. -/
theorem SchemaConfig.toSchema_pruned (c : SchemaConfig) : c.pruned.toSchema = c.toSchema :=
  SchemaConfig.toSchema_pruned_of_fields fun d _ => d.toField_pruned d.name d.name

/-! ## What is written down declares the schema -/

/-- The mirror of a field declares it, if the mirrors of the schemas that it applies do. -/
theorem Field.toField_toConfig {f : Field} (h : ∀ t ∈ f.schemas, t.toConfig.toSchema = .ok t)
    (name owner : String) : (f.toConfig name).toField owner = .ok f := by
  induction f using Field.nested_induction generalizing name owner with
  | select selector strategy flags _ =>
      rw [Field.toConfig]
      cases strategy with
      | text | any | content | attr => rfl
      | nested s =>
          have hs : s.toConfig.toSchema = .ok s := h s (by simp)
          simp [Strategy.toConfig, FieldConfig.toField, nestedSchema?, hs]
  | firstOf alternatives flags ih =>
      have hall : alternativeFields owner (alternativeConfigs alternatives) = .ok alternatives := by
        rw [alternativeFields_eq_collect, collect_eq_ok_iff, alternativeConfigs_eq_map,
          List.forall₂_map_left_iff, List.forall₂_same]
        intro f hf
        exact ih f hf (fun t ht => h t (Field.mem_schemas_firstOf.2 ⟨f, hf, ht⟩)) "" owner
      simp [Field.toConfig, FieldConfig.toField, hall]

/-- The mirror of a sound schema declares it. -/
theorem Schema.Sound.toSchema_toConfig {s : Schema} (h : s.Sound) :
    s.toConfig.toSchema = .ok s := by
  induction h with
  | @intro s checked _ ih =>
      rw [SchemaConfig.toSchema_eq_ok_iff]
      refine ⟨s.fields, ?_, by rw [Schema.name_toConfig, checked.build_eq_ok]⟩
      rw [collect_eq_ok_iff, Schema.fields_toConfig, List.forall₂_map_left_iff, List.forall₂_same]
      intro p hp
      rw [FieldConfig.declared_eq_ok_iff, Field.name_toConfig]
      exact ⟨rfl, Field.toField_toConfig (ih p hp) p.1 p.1⟩

/-! ## What is declared is written down -/

theorem SchemaConfig.toConfig_of_fields {c : SchemaConfig} {s : Schema} (h : c.toSchema = .ok s)
    (hfields : ∀ d ∈ c.fields, ∀ f, d.toField d.name = .ok f →
      f.toConfig d.name = d.pruned d.name) : s.toConfig = c.pruned := by
  obtain ⟨fields, hcollect, hbuild⟩ := SchemaConfig.toSchema_eq_ok_iff.1 h
  obtain ⟨rfl, -⟩ := Builder.build_eq_ok_iff.1 hbuild
  obtain ⟨name, configs⟩ := c
  rw [Schema.toConfig, SchemaConfig.pruned, fieldConfigs_eq_map, prunedFields_eq_map]
  congr 1
  refine map_eq_map_of_collect hcollect fun d hd p hp => ?_
  obtain ⟨hname, hfield⟩ := FieldConfig.declared_eq_ok_iff.1 hp
  rw [hname, hfields d hd p.2 hfield]

/-- The mirror of a field that a configuration declares is the pruned configuration. -/
theorem FieldConfig.toConfig_of_toField {c : FieldConfig} {owner : String} {f : Field}
    (h : c.toField owner = .ok f) (name : String) : f.toConfig name = c.pruned name := by
  induction c using FieldConfig.nested_induction generalizing owner f name with
  | step c ihschema ihalternatives =>
      obtain ⟨own, kind, selector, required, asList, attr, schema, alternatives⟩ := c
      cases kind with
      | text | any | content =>
          simp only [FieldConfig.toField, Except.ok.injEq] at h
          subst h
          rfl
      | attr =>
          cases attr with
          | none => simp [FieldConfig.toField] at h
          | some key =>
              simp only [FieldConfig.toField, Except.ok.injEq] at h
              subst h
              rfl
      | nested =>
          cases schema with
          | none => simp [FieldConfig.toField, nestedSchema?] at h
          | some c =>
              simp only [FieldConfig.toField, nestedSchema?] at h
              cases hc : c.toSchema with
              | error e => simp [hc] at h
              | ok s =>
                  simp only [hc, Except.ok.injEq] at h
                  subst h
                  have hs : s.toConfig = c.pruned := SchemaConfig.toConfig_of_fields hc
                    fun d hd f hf => ihschema c rfl d hd hf d.name
                  simp [Field.toConfig, Strategy.toConfig, FieldConfig.pruned, prunedSchema, hs]
      | firstOf =>
          simp only [FieldConfig.toField, alternativeFields_eq_collect] at h
          cases hfields : collect (fun d => d.toField owner) alternatives with
          | error e => simp [hfields] at h
          | ok fields =>
              simp only [hfields, Except.ok.injEq] at h
              subst h
              have hall : alternativeConfigs fields = prunedAlternatives alternatives := by
                rw [alternativeConfigs_eq_map, prunedAlternatives_eq_map]
                exact map_eq_map_of_collect hfields fun d hd f hf => ihalternatives d hd hf ""
              simp [Field.toConfig, FieldConfig.pruned, hall]

/-- The mirror of the schema that a configuration declares is the pruned configuration. -/
theorem SchemaConfig.toConfig_of_toSchema {c : SchemaConfig} {s : Schema}
    (h : c.toSchema = .ok s) : s.toConfig = c.pruned :=
  SchemaConfig.toConfig_of_fields h fun d _ _ hf => FieldConfig.toConfig_of_toField hf d.name

/-! ## Builders and configurations -/

/-- A schema that is made by builders alone, from the inside out. -/
inductive Schema.Built : Schema → Prop where
  | intro {b : Builder} {s : Schema} (h : b.build = .ok s)
      (inner : ∀ p ∈ b.fields, ∀ t ∈ p.2.schemas, t.Built) : s.Built

/-- Builders make exactly the schemas that are checked at every depth. -/
theorem Schema.built_iff_sound {s : Schema} : s.Built ↔ s.Sound := by
  constructor
  · intro h
    induction h with
    | intro h _ ih =>
        obtain ⟨rfl, hchecked⟩ := Builder.build_eq_ok_iff.1 h
        exact .intro hchecked ih
  · intro h
    induction h with
    | intro checked _ ih => exact .intro checked.build_eq_ok ih

/-- **Configurations and builders express the same schemas**: what builders make is
declared by its mirror; a configuration declares a schema exactly if builders make the
schema and its mirror is the pruned configuration; so a configuration is accepted
exactly if it is, once pruned, the mirror of what builders make. -/
theorem SchemaConfig.toSchema_eq_ok_iff_mirror :
    (∀ s : Schema, s.Built ↔ s.toConfig.toSchema = .ok s) ∧
      (∀ (c : SchemaConfig) s, c.toSchema = .ok s ↔ s.Built ∧ s.toConfig = c.pruned) ∧
      ∀ c : SchemaConfig, (∃ s, c.toSchema = .ok s) ↔
        ∃ s : Schema, s.Built ∧ s.toConfig = c.pruned := by
  have hbuilt : ∀ (c : SchemaConfig) s, c.toSchema = .ok s → s.Built := fun c s h =>
    Schema.built_iff_sound.2 (SchemaConfig.sound_of_toSchema h)
  have hmirror : ∀ s : Schema, s.Built → s.toConfig.toSchema = .ok s := fun s h =>
    (Schema.built_iff_sound.1 h).toSchema_toConfig
  have hiff : ∀ (c : SchemaConfig) s, c.toSchema = .ok s ↔ s.Built ∧ s.toConfig = c.pruned := by
    intro c s
    constructor
    · exact fun h => ⟨hbuilt c s h, SchemaConfig.toConfig_of_toSchema h⟩
    · rintro ⟨h, hpruned⟩
      rw [← SchemaConfig.toSchema_pruned, ← hpruned]
      exact hmirror s h
  exact ⟨fun s => ⟨hmirror s, hbuilt s.toConfig s⟩, hiff, fun c => exists_congr (hiff c)⟩

end Glean
