import Glean.Proofs.Extraction.Collecting
import Glean.Proofs.Schema.Obtained

/-!
# Glean.Proofs.Schema.Flaw

What a builder reports when it refuses.  Many things can be wrong with a list of
declarations at once; the flaw that counts is the first on a walk through them
from front to back.  `Field.FirstFlaw` and `Builder.FirstFlaw` say which one that
is by what stands in front of it: all that comes before is well formed, and so
would build by itself.

A builder yields the declared schema exactly if nothing is wrong with it, and
otherwise its first flaw (`Builder.build_ok_or_firstFlaw`).  Whatever is wrong
inside an alternative is reported under the name of the declared field.
-/

namespace Glean

/-! ## Fields -/

/-- The first thing that is wrong with a field declared under `name`. -/
inductive Field.FirstFlaw (name : String) : Field → SchemaError → Prop where
  | emptySelector {selector : String} {strategy : Strategy} {flags : Flags}
      (blank : Text.isBlankText selector = true) :
      FirstFlaw name (.select selector strategy flags) (.emptySelector name)
  | invalidSelector {selector : String} {strategy : Strategy} {flags : Flags}
      {cause : Css.SelectorError} (filled : Text.isBlankText selector = false)
      (refused : Css.parse selector = .error cause) :
      FirstFlaw name (.select selector strategy flags) (.invalidSelector name selector cause)
  | listFallback {alternatives : List Field} {flags : Flags} (list : flags.asList = true) :
      FirstFlaw name (.firstOf alternatives flags) (.listFallback name)
  | noAlternatives {flags : Flags} (single : flags.asList = false) :
      FirstFlaw name (.firstOf [] flags) (.noAlternatives name)
  /-- The alternatives in front are well formed. -/
  | alternative {before after : List Field} {f : Field} {flags : Flags} {e : SchemaError}
      (single : flags.asList = false) (wellFormed : ∀ g ∈ before, g.WellFormed)
      (flaw : FirstFlaw name f e) :
      FirstFlaw name (.firstOf (before ++ f :: after) flags) e

/-- Alternatives are checked one after the other. -/
theorem checkAll_eq_collect (name : String) (fields : List Field) :
    checkAll name fields = (collect (fun f => f.check name) fields).map fun _ => () := by
  induction fields with
  | nil => rfl
  | cons f rest ih =>
      rw [checkAll, collect, ih]
      cases f.check name with
      | error e => rfl
      | ok u => cases collect (fun f => f.check name) rest <;> rfl

/-- Alternatives fail with the first one that is not well formed. -/
theorem checkAll_eq_error_iff {name : String} {fields : List Field} {e : SchemaError} :
    checkAll name fields = .error e ↔
      ∃ before f after, fields = before ++ f :: after ∧
        (∀ g ∈ before, g.WellFormed) ∧ f.check name = .error e := by
  have hcollect : checkAll name fields = .error e ↔
      collect (fun f => f.check name) fields = .error e := by
    rw [checkAll_eq_collect]
    cases collect (fun f => f.check name) fields <;> simp [Except.map]
  have hwf : ∀ g : Field, (∃ u, g.check name = .ok u) ↔ g.WellFormed := fun g =>
    ⟨fun ⟨_, hu⟩ => Field.check_eq_ok_iff.1 hu, fun h => ⟨(), Field.check_eq_ok_iff.2 h⟩⟩
  rw [hcollect, collect_eq_error_iff]
  simp only [hwf]

theorem Field.firstFlaw_firstOf_iff {name : String} {alternatives : List Field} {flags : Flags}
    {e : SchemaError} :
    (Field.firstOf alternatives flags).FirstFlaw name e ↔
      (flags.asList = true ∧ e = .listFallback name) ∨
        (flags.asList = false ∧ alternatives = [] ∧ e = .noAlternatives name) ∨
        (flags.asList = false ∧ ∃ before f after, alternatives = before ++ f :: after ∧
          (∀ g ∈ before, g.WellFormed) ∧ f.FirstFlaw name e) := by
  constructor
  · intro h
    cases h with
    | listFallback list => exact .inl ⟨list, rfl⟩
    | noAlternatives single => exact .inr (.inl ⟨single, rfl, rfl⟩)
    | alternative single wellFormed flaw =>
        exact .inr (.inr ⟨single, _, _, _, rfl, wellFormed, flaw⟩)
  · rintro (⟨list, rfl⟩ | ⟨single, rfl, rfl⟩ | ⟨single, before, f, after, rfl, wellFormed, flaw⟩)
    · exact .listFallback list
    · exact .noAlternatives single
    · exact .alternative single wellFormed flaw

/-- The check of a field reports its first flaw, under the name of the field. -/
theorem Field.check_eq_error_iff {f : Field} {name : String} {e : SchemaError} :
    f.check name = .error e ↔ f.FirstFlaw name e := by
  induction f using Field.nested_induction with
  | select selector strategy flags _ =>
      rw [Field.check]
      constructor
      · intro h
        split at h
        · next blank =>
          injection h with he
          exact he ▸ .emptySelector blank
        · next filled =>
          rw [Bool.not_eq_true] at filled
          cases hparse : Css.parse selector with
          | ok parsed => simp [hparse] at h
          | error cause =>
              simp only [hparse] at h
              injection h with he
              exact he ▸ .invalidSelector filled hparse
      · intro h
        cases h with
        | emptySelector blank => rw [if_pos blank]
        | invalidSelector filled refused => simp [filled, refused]
  | firstOf alternatives flags ih =>
      rw [Field.check, Field.firstFlaw_firstOf_iff]
      -- An alternative that is checked is one of those the induction speaks of.
      have halternatives : checkAll name alternatives = .error e ↔
          ∃ before f after, alternatives = before ++ f :: after ∧
            (∀ g ∈ before, g.WellFormed) ∧ f.FirstFlaw name e := by
        rw [checkAll_eq_error_iff]
        refine exists_congr fun before => exists_congr fun f => exists_congr fun after => ?_
        refine and_congr_right fun hsplit => and_congr_right fun _ => ?_
        exact ih f (by simp [hsplit])
      rw [← halternatives]
      cases hlist : flags.asList with
      | true => simp [eq_comm]
      | false =>
          cases alternatives with
          | nil => simp [checkAll, eq_comm]
          | cons f rest => simp

/-! ## Declarations -/

/-- What is wrong with a declaration behind those that declare the names `seen`:
its name is not new, or else its field has a flaw. -/
def DeclaresFlaw (schema : String) (seen : List String) (p : String × Field) (e : SchemaError) :
    Prop :=
  (p.1 ∈ seen ∧ e = .duplicateField schema p.1) ∨ (p.1 ∉ seen ∧ p.2.FirstFlaw p.1 e)

namespace Builder

/-- One step of the check: a declaration is at fault, or it passes and a later one is. -/
theorem checkFields_cons_eq_error_iff {schema : String} {seen : List String} {p : String × Field}
    {rest : List (String × Field)} {e : SchemaError} :
    checkFields schema seen (p :: rest) = .error e ↔
      DeclaresFlaw schema seen p e ∨
        (p.1 ∉ seen ∧ p.2.WellFormed ∧ checkFields schema (p.1 :: seen) rest = .error e) := by
  obtain ⟨name, f⟩ := p
  have hwf : f.check name = .ok () ↔ f.WellFormed := Field.check_eq_ok_iff
  rw [checkFields, DeclaresFlaw, ← Field.check_eq_error_iff, ← hwf]
  by_cases hseen : name ∈ seen
  · simp [hseen, eq_comm]
  · simp only [hseen, if_false, false_and, not_false_eq_true, true_and, false_or]
    cases f.check name <;> simp

/-- A run of the check fails at the first declaration that is at fault. -/
theorem checkFields_eq_error_iff {schema : String} {seen : List String}
    {fields : List (String × Field)} {e : SchemaError} :
    checkFields schema seen fields = .error e ↔
      ∃ before p after, fields = before ++ p :: after ∧ checkFields schema seen before = .ok () ∧
        DeclaresFlaw schema ((before.map Prod.fst).reverse ++ seen) p e := by
  induction fields generalizing seen with
  | nil => simp [checkFields]
  | cons q rest ih =>
      rw [checkFields_cons_eq_error_iff, ih]
      constructor
      · rintro (hflaw | ⟨hnew, hwf, before, p, after, rfl, hbefore, hflaw⟩)
        · exact ⟨[], q, rest, rfl, by rw [checkFields], hflaw⟩
        · refine ⟨q :: before, p, after, rfl, checkFields_cons_eq_ok_iff.2 ⟨hnew, hwf, hbefore⟩, ?_⟩
          simpa using hflaw
      · rintro ⟨before, p, after, hsplit, hbefore, hflaw⟩
        cases before with
        | nil =>
            injection hsplit with hq hrest
            subst hq
            exact .inl (by simpa using hflaw)
        | cons r before =>
            injection hsplit with hq hrest
            subst hq
            obtain ⟨hnew, hwf, hbefore⟩ := checkFields_cons_eq_ok_iff.1 hbefore
            exact .inr ⟨hnew, hwf, before, p, after, hrest, hbefore, by simpa using hflaw⟩

/-! ## Builders -/

/-- The first thing that is wrong with a builder: its name, or a declaration
where the declarations in front would build by themselves. -/
inductive FirstFlaw (b : Builder) : SchemaError → Prop where
  | emptyName (blank : Text.isBlankText b.name = true) : FirstFlaw b .emptyName
  | declaration {before after : List (String × Field)} {p : String × Field} {e : SchemaError}
      (declared : b.fields = before ++ p :: after) (checked : (Schema.mk b.name before).Checked)
      (flaw : DeclaresFlaw b.name (before.map Prod.fst) p e) : FirstFlaw b e

theorem firstFlaw_iff {b : Builder} {e : SchemaError} :
    b.FirstFlaw e ↔ (Text.isBlankText b.name = true ∧ e = .emptyName) ∨
      ∃ before p after, b.fields = before ++ p :: after ∧ (Schema.mk b.name before).Checked ∧
        DeclaresFlaw b.name (before.map Prod.fst) p e := by
  constructor
  · intro h
    cases h with
    | emptyName blank => exact .inl ⟨blank, rfl⟩
    | declaration declared checked flaw => exact .inr ⟨_, _, _, declared, checked, flaw⟩
  · rintro (⟨blank, rfl⟩ | ⟨before, p, after, declared, checked, flaw⟩)
    · exact .emptyName blank
    · exact .declaration declared checked flaw

/-- A refused builder reports its first flaw. -/
theorem build_eq_error_iff {b : Builder} {e : SchemaError} :
    b.build = .error e ↔ b.FirstFlaw e := by
  have hchecked : ∀ before, (Schema.mk b.name before).Checked ↔
      Text.isBlankText b.name = false ∧ checkFields b.name [] before = .ok () :=
    fun _ => checked_iff
  have hfields : checkFields b.name [] b.fields = .error e ↔
      ∃ before p after, b.fields = before ++ p :: after ∧
        checkFields b.name [] before = .ok () ∧ DeclaresFlaw b.name (before.map Prod.fst) p e := by
    rw [checkFields_eq_error_iff]
    simp [DeclaresFlaw]
  rw [firstFlaw_iff, build]
  simp only [hchecked]
  cases Text.isBlankText b.name with
  | true => simp [eq_comm]
  | false =>
      simp only [Bool.false_eq_true, if_false, false_and, true_and, false_or]
      rw [← hfields]
      cases checkFields b.name [] b.fields <;> simp

end Builder

/-- **A builder yields the declared schema or its first flaw**: the schema if the
name is not blank, no name is declared twice and all fields are well formed, else
what is wrong first.  So the schemas that can be obtained are those that are
checked at every depth. -/
theorem Builder.build_ok_or_firstFlaw :
    (∀ (b : Builder) s, b.build = .ok s ↔ s = ⟨b.name, b.fields⟩ ∧
        Text.isBlankText b.name = false ∧ (b.fields.map Prod.fst).Nodup ∧
        ∀ p ∈ b.fields, p.2.WellFormed) ∧
      (∀ (b : Builder) e, b.build = .error e ↔ b.FirstFlaw e) ∧
      ∀ s : Schema, s.Obtained ↔ s.Sound := by
  refine ⟨fun b s => ?_, fun b e => Builder.build_eq_error_iff, fun s => ?_⟩
  · rw [Builder.build_eq_ok_iff]
    refine and_congr_right ?_
    rintro rfl
    exact ⟨fun h => ⟨h.name_not_blank, h.nodup, h.wellFormed⟩,
      fun ⟨hname, hnodup, hwf⟩ => ⟨hname, hnodup, hwf⟩⟩
  · exact ⟨Schema.Obtained.sound, Schema.Sound.obtained⟩

end Glean
