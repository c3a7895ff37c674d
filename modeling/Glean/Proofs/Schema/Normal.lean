import Glean.Proofs.Schema.Obtained

/-!
# Glean.Proofs.Schema.Normal

Schemas without what makes no difference.  `Schema.normal` puts the alternatives of
a fallback that stands among the alternatives of another in its place, drops the
demands of alternatives, which only move on to the next one, and reads text where
nothing particular is asked for.  Declared fields keep their flags.

The outcome has none of these left at any depth (`Schema.isNormal_normal`), looks for
the same selectors in the same order (`Field.leaves_normal`), and can be built
whenever the schema could (`Schema.Sound.normal`).
-/

namespace Glean

/-! ## Normalising -/

mutual

/-- The schema with all its fields in normal form. -/
def Schema.normal : Schema → Schema
  | ⟨name, fields⟩ => ⟨name, normalFields fields⟩

def normalFields : List (String × Field) → List (String × Field)
  | [] => []
  | (name, f) :: rest => (name, f.normal) :: normalFields rest

/-- A declared field in normal form, with the flags it has. -/
def Field.normal : Field → Field
  | .select selector strategy flags => .select selector strategy.normal flags
  | .firstOf alternatives flags => .firstOf (normalAlternatives alternatives) flags

/-- What stands for several alternatives. -/
def normalAlternatives : List Field → List Field
  | [] => []
  | f :: rest => f.spliced ++ normalAlternatives rest

/-- What stands for an alternative: itself without its demand, or its own alternatives. -/
def Field.spliced : Field → List Field
  | .select selector strategy flags =>
    [.select selector strategy.normal { flags with required := false }]
  | .firstOf alternatives _ => normalAlternatives alternatives

/-- Plain text for no transformation, and nested schemas in normal form. -/
def Strategy.normal : Strategy → Strategy
  | .text | .any => .text
  | .content => .content
  | .attr key => .attr key
  | .nested s => .nested s.normal

end

theorem normalFields_eq_map (fields : List (String × Field)) :
    normalFields fields = fields.map fun p => (p.1, p.2.normal) := by
  induction fields with
  | nil => rfl
  | cons p rest ih => rw [normalFields, ih, List.map_cons]

theorem normalAlternatives_eq_flatMap (fields : List Field) :
    normalAlternatives fields = fields.flatMap Field.spliced := by
  induction fields with
  | nil => rfl
  | cons f rest ih => rw [normalAlternatives, ih, List.flatMap_cons]

@[simp] theorem Schema.name_normal (s : Schema) : s.normal.name = s.name := by
  cases s
  rw [Schema.normal]

@[simp] theorem Schema.fields_normal (s : Schema) :
    s.normal.fields = s.fields.map fun p => (p.1, p.2.normal) := by
  cases s
  rw [Schema.normal, normalFields_eq_map]

/-! ## Normal form -/

mutual

/-- Nothing is left to normalise in any field. -/
def Schema.IsNormal : Schema → Prop
  | ⟨_, fields⟩ => AllNormal fields

def AllNormal : List (String × Field) → Prop
  | [] => True
  | (_, f) :: rest => f.IsNormal ∧ AllNormal rest

/-- Every alternative selects and demands nothing, and no strategy is left open. -/
def Field.IsNormal : Field → Prop
  | .select _ strategy _ => strategy.IsNormal
  | .firstOf alternatives _ => AlternativesNormal alternatives

def AlternativesNormal : List Field → Prop
  | [] => True
  | f :: rest => f.selector?.isSome = true ∧ f.flags.required = false ∧ f.IsNormal ∧
      AlternativesNormal rest

def Strategy.IsNormal : Strategy → Prop
  | .any => False
  | .nested s => s.IsNormal
  | _ => True

end

theorem Schema.isNormal_iff {s : Schema} : s.IsNormal ↔ ∀ p ∈ s.fields, p.2.IsNormal := by
  obtain ⟨name, fields⟩ := s
  rw [Schema.IsNormal]
  induction fields with
  | nil => simp [AllNormal]
  | cons p rest ih =>
      obtain ⟨key, f⟩ := p
      rw [AllNormal, ih, List.forall_mem_cons]

theorem alternativesNormal_iff {alternatives : List Field} :
    AlternativesNormal alternatives ↔
      ∀ f ∈ alternatives, f.selector?.isSome = true ∧ f.flags.required = false ∧ f.IsNormal := by
  induction alternatives with
  | nil => simp [AlternativesNormal]
  | cons f rest ih => rw [AlternativesNormal, ih, List.forall_mem_cons, and_assoc, and_assoc]

theorem Strategy.isNormal_normal {strategy : Strategy}
    (hnested : ∀ s, strategy = .nested s → s.normal.IsNormal) : strategy.normal.IsNormal := by
  cases strategy with
  | nested s =>
      rw [Strategy.normal, Strategy.IsNormal]
      exact hnested s rfl
  | _ => simp [Strategy.normal, Strategy.IsNormal]

/-- A field in normal form is normal, and so is all that stands for an alternative. -/
theorem Field.isNormal_normal (f : Field) :
    f.normal.IsNormal ∧ AlternativesNormal f.spliced := by
  induction f using Field.nested_induction with
  | select selector strategy flags ih =>
      have hstrategy : strategy.normal.IsNormal := by
        refine Strategy.isNormal_normal fun s hs => ?_
        rw [Schema.isNormal_iff, Schema.fields_normal, List.forall_mem_map]
        exact fun p hp => (ih s hs p hp).1
      rw [Field.normal, Field.spliced]
      exact ⟨hstrategy, rfl, rfl, hstrategy, trivial⟩
  | firstOf alternatives flags ih =>
      have hall : AlternativesNormal (normalAlternatives alternatives) := by
        rw [normalAlternatives_eq_flatMap, alternativesNormal_iff]
        intro g hg
        obtain ⟨f, hf, hgf⟩ := List.mem_flatMap.1 hg
        exact alternativesNormal_iff.1 (ih f hf).2 g hgf
      rw [Field.normal, Field.spliced]
      exact ⟨hall, hall⟩

theorem Schema.isNormal_normal (s : Schema) : s.normal.IsNormal := by
  rw [Schema.isNormal_iff, Schema.fields_normal, List.forall_mem_map]
  exact fun p _ => p.2.isNormal_normal.1

/-! ## What normalising keeps -/

section Inventory

variable {α : Type} {inventory : Field → List α} {change : α → α}
  (hselect : ∀ selector strategy flags flags',
    inventory (.select selector (Strategy.normal strategy) flags') =
      (inventory (.select selector strategy flags)).map change)
  (hfirstOf : ∀ alternatives flags,
    inventory (.firstOf alternatives flags) = alternatives.flatMap inventory)

include hselect hfirstOf

/-- An inventory that a fallback takes from its alternatives changes in what stands
for an alternative as it does in fields that select. -/
theorem Field.flatMap_spliced (f : Field) :
    f.spliced.flatMap inventory = (inventory f).map change := by
  induction f using Field.nested_induction with
  | select selector strategy flags _ =>
      rw [Field.spliced, List.flatMap_singleton, hselect selector strategy flags]
  | firstOf alternatives flags ih =>
      rw [Field.spliced, normalAlternatives_eq_flatMap, hfirstOf, List.flatMap_assoc,
        List.map_flatMap]
      exact List.flatMap_congr ih

/-- It changes in a field in normal form as it does in fields that select. -/
theorem Field.inventory_normal (f : Field) : inventory f.normal = (inventory f).map change := by
  cases f with
  | select selector strategy flags => rw [Field.normal, hselect selector strategy flags]
  | firstOf alternatives flags =>
      have hspliced := Field.flatMap_spliced hselect hfirstOf (.firstOf alternatives flags)
      rw [Field.spliced] at hspliced
      rw [Field.normal, hfirstOf, hspliced]

end Inventory

/-- A field in normal form tries the same selectors. -/
theorem Field.leaves_normal (f : Field) : f.normal.leaves = f.leaves := by
  have hleaves : f.normal.leaves = f.leaves.map id :=
    Field.inventory_normal (fun _ _ _ _ => by simp [Field.leaves])
      (fun alternatives _ => by rw [Field.leaves, leavesOf_eq_flatMap]) f
  rwa [List.map_id] at hleaves

/-- A field in normal form applies the same schemas, in normal form. -/
theorem Field.schemas_normal (f : Field) : f.normal.schemas = f.schemas.map Schema.normal :=
  Field.inventory_normal (fun _ strategy _ _ => by cases strategy <;> rfl)
    (fun alternatives _ => by rw [Field.schemas, schemasOf_eq_flatMap]) f

/-- Well-formed alternatives stand for a fallback that has at least one, all of them
well formed. -/
theorem Field.WellFormed.spliced {f : Field} (h : f.WellFormed) :
    f.spliced ≠ [] ∧ ∀ g ∈ f.spliced, g.WellFormed := by
  induction f using Field.nested_induction with
  | select selector strategy flags _ =>
      rw [Field.spliced, List.forall_mem_singleton]
      exact ⟨by simp, h⟩
  | firstOf alternatives flags ih =>
      rw [Field.WellFormed, allWellFormed_iff] at h
      obtain ⟨-, hne, hall⟩ := h
      rw [Field.spliced, normalAlternatives_eq_flatMap]
      constructor
      · obtain ⟨f, hf⟩ := List.exists_mem_of_ne_nil alternatives hne
        rw [Ne, List.flatMap_eq_nil_iff]
        exact fun hnil => (ih f hf (hall f hf)).1 (hnil f hf)
      · intro g hg
        obtain ⟨f, hf, hgf⟩ := List.mem_flatMap.1 hg
        exact (ih f hf (hall f hf)).2 g hgf

theorem Field.WellFormed.normal {f : Field} (h : f.WellFormed) : f.normal.WellFormed := by
  cases f with
  | select selector strategy flags => exact h
  | firstOf alternatives flags =>
      have hspliced := h.spliced
      rw [Field.spliced] at hspliced
      rw [Field.WellFormed] at h
      rw [Field.normal, Field.WellFormed, allWellFormed_iff]
      exact ⟨h.1, hspliced⟩

/-- Errors name a field in normal form by the same selectors. -/
theorem Field.WellFormed.describe_normal {f : Field} (h : f.WellFormed) :
    f.normal.describe = f.describe := by
  rw [h.normal.describe_eq, h.describe_eq, f.leaves_normal]

/-- A schema that can be built can be built in normal form. -/
theorem Schema.Sound.normal {s : Schema} (h : s.Sound) : s.normal.Sound := by
  induction h with
  | @intro s checked _ ih =>
      have hchecked : s.normal.Checked := by
        refine ⟨by simpa using checked.name_not_blank, ?_, ?_⟩
        · simpa [Function.comp_def] using checked.nodup
        · rw [Schema.fields_normal, List.forall_mem_map]
          exact fun p hp => (checked.wellFormed p hp).normal
      refine .intro hchecked ?_
      rw [Schema.fields_normal, List.forall_mem_map]
      intro p hp
      rw [Field.schemas_normal, List.forall_mem_map]
      exact ih p hp

end Glean
