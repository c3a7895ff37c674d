import Glean.Proofs.Config.Mirror

/-!
# Glean.Proofs.Config.Inert

Options that have no effect.  The kind of a field decides which of its options are used:
only a field of kind `attr` uses its attribute, only one of kind `nested` its schema, only
a fallback its alternatives, and all but a fallback their selector.  Where a field stands
decides about its name, since alternatives have none.  `SchemaConfig.SameInUse` compares
configurations by what is used, at every depth; what is not used may hold anything, also
what would be rejected if it were.

Configurations are the same in use exactly if they are the same once pruned
(`SchemaConfig.sameInUse_iff`).
-/

namespace Glean

/-! ## The same in use -/

mutual

/-- The same name, and declared fields that are the same in use, in order. -/
inductive SchemaConfig.SameInUse : SchemaConfig → SchemaConfig → Prop where
  | intro {c d : SchemaConfig} (name : c.name = d.name)
      (fields : List.Forall₂ FieldConfig.DeclaredSame c.fields d.fields) :
      SchemaConfig.SameInUse c d

/-- The same in use, and declared under the same name. -/
inductive FieldConfig.DeclaredSame : FieldConfig → FieldConfig → Prop where
  | intro {c d : FieldConfig} (name : c.name = d.name) (same : FieldConfig.SameInUse c d) :
      FieldConfig.DeclaredSame c d

/-- The same kind and flags, and the same in every option that the kind uses. -/
inductive FieldConfig.SameInUse : FieldConfig → FieldConfig → Prop where
  | intro {c d : FieldConfig} (kind : c.kind = d.kind) (required : c.required = d.required)
      (asList : c.asList = d.asList)
      (selector : c.kind ≠ .firstOf → c.selector = d.selector)
      (attr : c.kind = .attr → c.attr = d.attr)
      (schema : c.kind = .nested → Option.Rel SchemaConfig.SameInUse c.schema d.schema)
      (alternatives : c.kind = .firstOf →
        List.Forall₂ FieldConfig.SameInUse c.alternatives d.alternatives) :
      FieldConfig.SameInUse c d

end

theorem SchemaConfig.sameInUse_def {c d : SchemaConfig} :
    c.SameInUse d ↔ c.name = d.name ∧ List.Forall₂ FieldConfig.DeclaredSame c.fields d.fields :=
  ⟨fun h => by cases h with | intro name fields => exact ⟨name, fields⟩,
    fun h => .intro h.1 h.2⟩

theorem FieldConfig.declaredSame_def {c d : FieldConfig} :
    c.DeclaredSame d ↔ c.name = d.name ∧ c.SameInUse d :=
  ⟨fun h => by cases h with | intro name same => exact ⟨name, same⟩, fun h => .intro h.1 h.2⟩

theorem FieldConfig.sameInUse_def {c d : FieldConfig} :
    c.SameInUse d ↔ c.kind = d.kind ∧ c.required = d.required ∧ c.asList = d.asList ∧
      (c.kind ≠ .firstOf → c.selector = d.selector) ∧ (c.kind = .attr → c.attr = d.attr) ∧
      (c.kind = .nested → Option.Rel SchemaConfig.SameInUse c.schema d.schema) ∧
      (c.kind = .firstOf →
        List.Forall₂ FieldConfig.SameInUse c.alternatives d.alternatives) := by
  constructor
  · intro h
    cases h with
    | intro kind required asList selector attr schema alternatives =>
        exact ⟨kind, required, asList, selector, attr, schema, alternatives⟩
  · rintro ⟨kind, required, asList, selector, attr, schema, alternatives⟩
    exact .intro kind required asList selector attr schema alternatives

/-! ## Pruning keeps what is used -/

theorem SchemaConfig.pruned_eq_iff {c d : SchemaConfig} :
    c.pruned = d.pruned ↔ c.name = d.name ∧
      (c.fields.map fun e => e.pruned e.name) = d.fields.map fun e => e.pruned e.name := by
  obtain ⟨name, fields⟩ := c
  obtain ⟨name', fields'⟩ := d
  rw [SchemaConfig.pruned, SchemaConfig.pruned, prunedFields_eq_map, prunedFields_eq_map,
    SchemaConfig.mk.injEq]

theorem prunedSchema_eq_iff {c d : Option SchemaConfig}
    (h : ∀ e, c = some e → ∀ f, e.SameInUse f ↔ e.pruned = f.pruned) :
    prunedSchema c = prunedSchema d ↔ Option.Rel SchemaConfig.SameInUse c d := by
  cases c with
  | none => cases d <;> simp [prunedSchema]
  | some e =>
      cases d with
      | none => simp [prunedSchema]
      | some f => simp [prunedSchema, h e rfl f]

/-- Schemas are the same in use exactly if they are the same once pruned, where this holds
of their fields. -/
theorem SchemaConfig.sameInUse_iff_of_fields {c d : SchemaConfig}
    (h : ∀ e ∈ c.fields, ∀ f name, e.SameInUse f ↔ e.pruned name = f.pruned name) :
    c.SameInUse d ↔ c.pruned = d.pruned := by
  rw [SchemaConfig.sameInUse_def, SchemaConfig.pruned_eq_iff]
  refine and_congr_right fun _ => forall₂_iff_map_eq_map fun e he f => ?_
  rw [FieldConfig.declaredSame_def, h e he f e.name]
  constructor
  · rintro ⟨hname, hpruned⟩
    rw [← hname, hpruned]
  · intro hpruned
    have hname : e.name = f.name := by
      rw [← e.name_pruned e.name, hpruned, f.name_pruned]
    exact ⟨hname, by rw [hpruned, hname]⟩

/-- Fields are the same in use exactly if they are the same once pruned. -/
theorem FieldConfig.sameInUse_iff (c d : FieldConfig) (name : String) :
    c.SameInUse d ↔ c.pruned name = d.pruned name := by
  induction c using FieldConfig.nested_induction generalizing d name with
  | step c ihschema ihalternatives =>
      have hschema := prunedSchema_eq_iff (d := d.schema) fun s hs t =>
        SchemaConfig.sameInUse_iff_of_fields (d := t) fun e he f key => ihschema s hs e he f key
      have halternatives : List.Forall₂ FieldConfig.SameInUse c.alternatives d.alternatives ↔
          prunedAlternatives c.alternatives = prunedAlternatives d.alternatives := by
        rw [prunedAlternatives_eq_map, prunedAlternatives_eq_map]
        exact forall₂_iff_map_eq_map fun e he f => ihalternatives e he f ""
      rw [FieldConfig.sameInUse_def, ← hschema, halternatives]
      obtain ⟨_, kind, selector, required, asList, attr, schema, alternatives⟩ := c
      obtain ⟨_, kind', selector', required', asList', attr', schema', alternatives'⟩ := d
      simp only [FieldConfig.pruned, FieldConfig.mk.injEq, true_and]
      by_cases hkind : kind = kind'
      · subst hkind
        cases kind <;> simp <;> tauto
      · simp [hkind]

/-- Configurations are the same in use exactly if they are the same once pruned. -/
theorem SchemaConfig.sameInUse_iff (c d : SchemaConfig) :
    c.SameInUse d ↔ c.pruned = d.pruned :=
  SchemaConfig.sameInUse_iff_of_fields fun e _ f name => e.sameInUse_iff f name

/-- **What a field does not use has no effect**: configurations that are the same in use
declare the same schema, or are rejected with the same error.  Nothing else is without
effect, for configurations that declare the same schema are the same in use. -/
theorem SchemaConfig.toSchema_inert :
    (∀ c d : SchemaConfig, c.SameInUse d → c.toSchema = d.toSchema) ∧
      ∀ (c d : SchemaConfig) (s : Schema), c.toSchema = .ok s → d.toSchema = .ok s →
        c.SameInUse d := by
  refine ⟨fun c d h => ?_, fun c d s hc hd => ?_⟩
  · have hpruned : c.pruned = d.pruned := (c.sameInUse_iff d).1 h
    calc
      c.toSchema = c.pruned.toSchema := c.toSchema_pruned.symm
      _ = d.pruned.toSchema := by rw [hpruned]
      _ = d.toSchema := d.toSchema_pruned
  · rw [c.sameInUse_iff d, ← SchemaConfig.toConfig_of_toSchema hc,
      SchemaConfig.toConfig_of_toSchema hd]

namespace Inert

/-- A title, and a lead that is the name of a picture or else what a paragraph says. -/
def plain (more : List FieldConfig) : SchemaConfig :=
  { name := "Page"
    fields :=
      { name := "title", selector := "h1" } ::
      { name := "lead", kind := .firstOf
        alternatives := [{ kind := .attr, selector := "img", attr := some "alt" },
          { kind := .nested, selector := "p"
            schema := some { name := "Lead", fields := [{ name := "bold", selector := "b" }] } }] } ::
      more }

/-- The same with a schema that has no name, a field that lacks its schema and a selector that
cannot be read, all of them where they are not used. -/
def cluttered (more : List FieldConfig) : SchemaConfig :=
  { name := "Page"
    fields :=
      { name := "title", selector := "h1", attr := some "id", schema := some { name := " " }
        alternatives := [{ kind := .nested }] } ::
      { name := "lead", kind := .firstOf, selector := "p["
        alternatives := [
          { name := "title", kind := .attr, selector := "img", attr := some "alt"
            schema := some { name := "" } },
          { name := "lead", kind := .nested, selector := "p", attr := some ""
            schema := some { name := "Lead", fields := [
              { name := "bold", selector := "b", alternatives := [{ kind := .firstOf }] }] } }] } ::
      more }

/-- What the two declare. -/
def page : Schema := ⟨"Page", [
  ("title", .select "h1" .text {}),
  ("lead", .firstOf [.select "img" (.attr "alt") {},
    .select "p" (.nested ⟨"Lead", [("bold", .select "b" .text {})]⟩) {}] {})]⟩

theorem sameInUse_cluttered (more : List FieldConfig) :
    (plain more).SameInUse (cluttered more) :=
  ((plain more).sameInUse_iff (cluttered more)).2 rfl

/-- The clutter neither causes a rejection nor hides one. -/
theorem toSchema_cluttered :
    ((plain []).SameInUse (cluttered []) ∧ (plain []).toSchema = .ok page ∧
        (cluttered []).toSchema = .ok page) ∧
      (plain [{ name := "title" }]).SameInUse (cluttered [{ name := "title" }]) ∧
        (plain [{ name := "title" }]).toSchema = .error (.duplicateField "Page" "title") ∧
        (cluttered [{ name := "title" }]).toSchema = .error (.duplicateField "Page" "title") := by
  have haccepted : (plain []).toSchema = .ok page := rfl
  have hrejected : (plain [{ name := "title" }]).toSchema =
      .error (.duplicateField "Page" "title") := rfl
  obtain ⟨hinert, honly⟩ := SchemaConfig.toSchema_inert
  have hcluttered : (cluttered []).toSchema = .ok page :=
    hinert _ _ (sameInUse_cluttered []) ▸ haccepted
  have htwice := sameInUse_cluttered [{ name := "title" }]
  exact ⟨⟨honly _ _ page haccepted hcluttered, haccepted, hcluttered⟩, htwice, hrejected,
    hinert _ _ htwice ▸ hrejected⟩

end Inert

end Glean
