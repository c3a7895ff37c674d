import Glean.Proofs.Schema.Declared
import Glean.Schema.Builder

/-!
# Glean.Proofs.Schema.Checked

What the checks of a builder establish.  `Field.WellFormed` says without an
order of checking what a field has to be, and `Field.check_eq_ok_iff` that the
check accepts exactly these fields; `Builder.build_eq_ok_iff` says the same of
whole schemas.

A check looks at alternatives but not into nested schemas.  These have been
built before, so the schemas that a program can hold are checked at every depth
(`Schema.Sound`).
-/

namespace Glean

/-! ## Fields -/

mutual

/-- A field that can be declared: its selector can be read, and a fallback has
alternatives of its own and is no list. -/
def Field.WellFormed : Field → Prop
  | .select selector _ _ =>
    Text.isBlankText selector = false ∧ ∃ selectors, Css.parse selector = .ok selectors
  | .firstOf alternatives flags =>
    flags.asList = false ∧ alternatives ≠ [] ∧ AllWellFormed alternatives

/-- Fields that can all be declared. -/
def AllWellFormed : List Field → Prop
  | [] => True
  | f :: rest => f.WellFormed ∧ AllWellFormed rest

end

theorem allWellFormed_iff {fields : List Field} :
    AllWellFormed fields ↔ ∀ f ∈ fields, f.WellFormed := by
  induction fields with
  | nil => simp [AllWellFormed]
  | cons f rest ih => rw [AllWellFormed, ih, List.forall_mem_cons]

theorem checkAll_eq_ok_iff {name : String} {fields : List Field} :
    checkAll name fields = .ok () ↔ ∀ f ∈ fields, f.check name = .ok () := by
  induction fields with
  | nil => simp [checkAll]
  | cons f rest ih =>
      rw [checkAll, List.forall_mem_cons]
      cases f.check name <;> simp [ih]

/-- The check accepts exactly the well-formed fields. -/
theorem Field.check_eq_ok_iff {f : Field} {name : String} :
    f.check name = .ok () ↔ f.WellFormed := by
  induction f using Field.nested_induction with
  | select selector strategy flags _ =>
      rw [Field.check, Field.WellFormed]
      cases Text.isBlankText selector with
      | true => simp
      | false => cases Css.parse selector <;> simp
  | firstOf alternatives flags ih =>
      rw [Field.check, Field.WellFormed, allWellFormed_iff, ← forall₂_congr ih,
        ← checkAll_eq_ok_iff]
      cases hlist : flags.asList with
      | true => simp
      | false => cases alternatives <;> simp

/-! ## Descriptions -/

/-- A well-formed field tries some selector. -/
theorem Field.WellFormed.leaves_ne_nil {f : Field} (h : f.WellFormed) : f.leaves ≠ [] := by
  induction f using Field.nested_induction with
  | select selector strategy flags _ => simp [Field.leaves]
  | firstOf alternatives flags ih =>
      rw [Field.WellFormed, allWellFormed_iff] at h
      obtain ⟨-, hne, hall⟩ := h
      cases alternatives with
      | nil => exact absurd rfl hne
      | cons f rest =>
          have hf := ih f List.mem_cons_self (hall f List.mem_cons_self)
          simp [Field.leaves, leavesOf, hf]

/-- Joining what was joined before: it is enough that no part is empty. -/
theorem intercalate_descriptions {fields : List Field} {separator : String}
    (h : ∀ f ∈ fields, f.describe = separator.intercalate f.leaves ∧ f.leaves ≠ []) :
    separator.intercalate (descriptions fields) = separator.intercalate (leavesOf fields) := by
  induction fields with
  | nil => rw [descriptions, leavesOf]
  | cons f rest ih =>
      obtain ⟨⟨hdescribe, hleaves⟩, hrest⟩ := List.forall_mem_cons.1 h
      have hjoin := ih hrest
      rw [descriptions, leavesOf]
      cases rest with
      | nil => simp [descriptions, leavesOf, hdescribe]
      | cons g rest =>
          have hne : leavesOf (g :: rest) ≠ [] := by
            simp [leavesOf, (hrest g List.mem_cons_self).2]
          rw [String.intercalate_cons_of_ne_nil (by simp [descriptions]), hjoin, hdescribe,
            String.intercalate_append_of_ne_nil hleaves hne]

/-- An error names the selectors that a well-formed field tries, with bars between them. -/
theorem Field.WellFormed.describe_eq {f : Field} (h : f.WellFormed) :
    f.describe = " | ".intercalate f.leaves := by
  induction f using Field.nested_induction with
  | select selector strategy flags _ => simp [Field.describe, Field.leaves]
  | firstOf alternatives flags ih =>
      rw [Field.WellFormed, allWellFormed_iff] at h
      rw [Field.describe, Field.leaves]
      refine intercalate_descriptions fun f hf => ?_
      exact ⟨ih f hf (h.2.2 f hf), (h.2.2 f hf).leaves_ne_nil⟩

/-! ## Schemas -/

/-- A schema that passes the checks of a builder. -/
structure Schema.Checked (s : Schema) : Prop where
  name_not_blank : Text.isBlankText s.name = false
  nodup : (s.fields.map Prod.fst).Nodup
  wellFormed : ∀ p ∈ s.fields, p.2.WellFormed

theorem Builder.checkFields_cons_eq_ok_iff {schema : String} {seen : List String} {p : String × Field}
    {rest : List (String × Field)} :
    checkFields schema seen (p :: rest) = .ok () ↔
      p.1 ∉ seen ∧ p.2.WellFormed ∧ checkFields schema (p.1 :: seen) rest = .ok () := by
  obtain ⟨name, f⟩ := p
  have hwf : f.check name = .ok () ↔ f.WellFormed := Field.check_eq_ok_iff
  rw [checkFields, ← hwf]
  by_cases hseen : name ∈ seen
  · simp [hseen]
  · simp only [hseen, if_false, not_false_eq_true, true_and]
    cases f.check name <;> simp

theorem Builder.checkFields_eq_ok_iff {schema : String} {seen : List String}
    {fields : List (String × Field)} :
    checkFields schema seen fields = .ok () ↔
      (∀ p ∈ fields, p.1 ∉ seen) ∧ (fields.map Prod.fst).Nodup ∧ ∀ p ∈ fields, p.2.WellFormed := by
  induction fields generalizing seen with
  | nil => simp [checkFields]
  | cons p rest ih =>
      simp only [Builder.checkFields_cons_eq_ok_iff, ih, List.mem_cons, not_or, List.map_cons,
        List.nodup_cons, List.mem_map, forall_eq_or_imp]
      constructor
      · rintro ⟨hseen, hf, hnew, hnodup, hrest⟩
        refine ⟨⟨hseen, fun q hq => (hnew q hq).2⟩, ⟨?_, hnodup⟩, hf, hrest⟩
        rintro ⟨q, hq, hqname⟩
        exact (hnew q hq).1 hqname
      · rintro ⟨⟨hseen, hnew⟩, ⟨hname, hnodup⟩, hf, hrest⟩
        exact ⟨hseen, hf, fun q hq => ⟨fun h => hname ⟨q, hq, h⟩, hnew q hq⟩, hnodup, hrest⟩

/-- The checks of a builder are those of its name and of its declarations. -/
theorem Builder.checked_iff {name : String} {fields : List (String × Field)} :
    (Schema.mk name fields).Checked ↔
      Text.isBlankText name = false ∧ checkFields name [] fields = .ok () := by
  rw [checkFields_eq_ok_iff]
  constructor
  · rintro ⟨hname, hnodup, hwf⟩
    exact ⟨hname, by simp, hnodup, hwf⟩
  · rintro ⟨hname, -, hnodup, hwf⟩
    exact ⟨hname, hnodup, hwf⟩

/-- A builder yields exactly the schema that has been declared, if it passes the checks. -/
theorem Builder.build_eq_ok_iff {b : Builder} {s : Schema} :
    b.build = .ok s ↔ s = ⟨b.name, b.fields⟩ ∧ s.Checked := by
  have hbuild : b.build = .ok s ↔ Text.isBlankText b.name = false ∧
      checkFields b.name [] b.fields = .ok () ∧ s = ⟨b.name, b.fields⟩ := by
    rw [build]
    cases Text.isBlankText b.name with
    | true => simp
    | false => cases checkFields b.name [] b.fields <;> simp [eq_comm]
  rw [hbuild, ← and_assoc, ← Builder.checked_iff, and_comm]
  constructor
  · rintro ⟨rfl, h⟩
    exact ⟨rfl, h⟩
  · rintro ⟨rfl, h⟩
    exact ⟨rfl, h⟩

/-- A schema that passes the checks is built from its own declarations. -/
theorem Schema.Checked.build_eq_ok {s : Schema} (h : s.Checked) :
    Builder.build ⟨s.name, s.fields⟩ = .ok s :=
  Builder.build_eq_ok_iff.2 ⟨by cases s; rfl, h⟩

/-- Under distinct keys every entry is found by its key. -/
theorem lookup_of_nodup {α β : Type} [BEq α] [LawfulBEq α] {entries : List (α × β)}
    {entry : α × β} (hnodup : (entries.map Prod.fst).Nodup) (hmem : entry ∈ entries) :
    entries.lookup entry.1 = some entry.2 := by
  obtain ⟨before, after, rfl⟩ := List.append_of_mem hmem
  refine List.lookup_eq_some_iff.2 ⟨before, after, rfl, ?_⟩
  intro other hother
  rw [List.map_append, List.nodup_append] at hnodup
  have hne := hnodup.2.2 other.1 (List.mem_map_of_mem hother) entry.1 (by simp)
  simpa [bne_iff_ne] using Ne.symm hne

/-- A schema that is checked itself and applies only such schemas, at any depth. -/
inductive Schema.Sound : Schema → Prop where
  | intro {s : Schema} (checked : s.Checked)
      (inner : ∀ p ∈ s.fields, ∀ t ∈ p.2.schemas, t.Sound) : s.Sound

namespace Schema.Sound

variable {s : Schema} {p : String × Field}

theorem checked (h : s.Sound) : s.Checked := by
  cases h with
  | intro checked inner => exact checked

/-- The name of a declared field leads to this field. -/
theorem field?_eq (h : s.Sound) (hp : p ∈ s.fields) : s.field? p.1 = some p.2 :=
  lookup_of_nodup h.checked.nodup hp

end Schema.Sound

/-! ## Selectors -/

/-- Where all that a well-formed field applies can be read, so can the field. -/
theorem Field.WellFormed.parses {f : Field} (hf : f.WellFormed)
    (hinner : ∀ t ∈ f.schemas, ∀ selector ∈ t.selectors, ∃ parsed, Css.parse selector = .ok parsed)
    {selector : String} (hselector : selector ∈ f.selectors) :
    ∃ parsed, Css.parse selector = .ok parsed := by
  induction f using Field.nested_induction with
  | select own strategy flags _ =>
      rcases Field.mem_selectors_select.1 hselector with rfl | ⟨s, rfl, hs⟩
      · rw [Field.WellFormed] at hf
        exact hf.2
      · exact hinner s (by simp) selector hs
  | firstOf alternatives flags ih =>
      rw [Field.WellFormed, allWellFormed_iff] at hf
      obtain ⟨f, hmem, hf'⟩ := Field.mem_selectors_firstOf.1 hselector
      refine ih f hmem (hf.2.2 f hmem) ?_ hf'
      intro t ht
      exact hinner t (Field.mem_schemas_firstOf.2 ⟨f, hmem, ht⟩)

/-- Every selector that a sound schema declares, at any depth, can be read. -/
theorem Schema.Sound.parses {s : Schema} (h : s.Sound) :
    ∀ selector ∈ s.selectors, ∃ parsed, Css.parse selector = .ok parsed := by
  induction h with
  | @intro s checked _ ih =>
      intro selector hselector
      obtain ⟨p, hp, hselector'⟩ := Schema.mem_selectors.1 hselector
      exact (checked.wellFormed p hp).parses (ih p hp) hselector'

end Glean
