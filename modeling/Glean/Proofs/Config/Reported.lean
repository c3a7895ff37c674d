import Glean.Proofs.Config.Mirror
import Glean.Proofs.Schema.Flaw

/-!
# Glean.Proofs.Config.Reported

Which error a rejected configuration reports.  A configuration is translated before it is
built, so what is wrong with an option comes before everything that a builder would find.
`SchemaConfig.parts` lists what is translated, from front to back: each declared field, or
in place of a fallback its alternatives, to any depth of fallbacks.  The first part with a
defect decides (`SchemaConfig.toSchema_reports_first`); only where no part has one is the
outcome that of building the name and the translated fields.

A nested schema is accepted or rejected as a whole, and its error is passed on as it is.
`SchemaConfig.Blames` follows the errors that are passed on to the schema where they come
from: the names in an error are names declared there.
-/

namespace Glean

/-! ## Parts -/

mutual

/-- What is translated of a field declared under `owner`: the field itself, or the parts of
its alternatives if it is a fallback, from left to right.  An own name of an alternative
does not count. -/
def FieldConfig.parts (owner : String) : FieldConfig → List (String × FieldConfig)
  | ⟨name, kind, selector, required, asList, attr, schema, alternatives⟩ =>
    if kind = .firstOf then alternativeParts owner alternatives
    else [(owner, ⟨name, kind, selector, required, asList, attr, schema, alternatives⟩)]

/-- The parts of several alternatives. -/
def alternativeParts (owner : String) : List FieldConfig → List (String × FieldConfig)
  | [] => []
  | c :: rest => c.parts owner ++ alternativeParts owner rest

end

/-- What is translated of a schema, each part under the name of the field declared there. -/
def SchemaConfig.parts (c : SchemaConfig) : List (String × FieldConfig) :=
  c.fields.flatMap fun d => d.parts d.name

theorem alternativeParts_eq_flatMap (owner : String) (cs : List FieldConfig) :
    alternativeParts owner cs = cs.flatMap (FieldConfig.parts owner) := by
  induction cs with
  | nil => rfl
  | cons c rest ih => rw [alternativeParts, ih, List.flatMap_cons]

theorem FieldConfig.parts_of_firstOf {c : FieldConfig} (h : c.kind = .firstOf) (owner : String) :
    c.parts owner = c.alternatives.flatMap (FieldConfig.parts owner) := by
  obtain ⟨name, kind, selector, required, asList, attr, schema, alternatives⟩ := c
  rw [FieldConfig.parts, if_pos h, alternativeParts_eq_flatMap]

theorem FieldConfig.parts_of_ne_firstOf {c : FieldConfig} (h : c.kind ≠ .firstOf)
    (owner : String) : c.parts owner = [(owner, c)] := by
  obtain ⟨name, kind, selector, required, asList, attr, schema, alternatives⟩ := c
  rw [FieldConfig.parts, if_neg h]

/-- A part stands under the name of the field that it is a part of. -/
theorem FieldConfig.owner_of_mem_parts {c : FieldConfig} {owner : String}
    {p : String × FieldConfig} (hp : p ∈ c.parts owner) : p.1 = owner := by
  induction c using FieldConfig.nested_induction with
  | step c _ ihalternatives =>
      by_cases hkind : c.kind = .firstOf
      · rw [FieldConfig.parts_of_firstOf hkind, List.mem_flatMap] at hp
        obtain ⟨d, hd, hpd⟩ := hp
        exact ihalternatives d hd hpd
      · rw [FieldConfig.parts_of_ne_firstOf hkind, List.mem_singleton] at hp
        rw [hp]

/-- The names under which parts stand are declared. -/
theorem SchemaConfig.owner_mem_names {c : SchemaConfig} {p : String × FieldConfig}
    (hp : p ∈ c.parts) : p.1 ∈ c.fields.map FieldConfig.name := by
  obtain ⟨d, hd, hpd⟩ := List.mem_flatMap.1 hp
  rw [FieldConfig.owner_of_mem_parts hpd]
  exact List.mem_map_of_mem hd

/-- What holds of a configuration whenever it holds of the schemas of its parts holds of every
configuration. -/
theorem SchemaConfig.parts_induction {motive : SchemaConfig → Prop}
    (step : ∀ c : SchemaConfig,
      (∀ p ∈ c.parts, ∀ s, p.2.schema = some s → motive s) → motive c)
    (c : SchemaConfig) : motive c := by
  have hparts : ∀ (d : FieldConfig) (owner : String), ∀ p ∈ d.parts owner,
      ∀ s, p.2.schema = some s → motive s := by
    intro d
    induction d using FieldConfig.nested_induction with
    | step d ihschema ihalternatives =>
        intro owner p hp s hs
        by_cases hkind : d.kind = .firstOf
        · rw [FieldConfig.parts_of_firstOf hkind, List.mem_flatMap] at hp
          obtain ⟨a, ha, hpa⟩ := hp
          exact ihalternatives a ha owner p hpa s hs
        · rw [FieldConfig.parts_of_ne_firstOf hkind, List.mem_singleton] at hp
          subst hp
          refine step s fun q hq t ht => ?_
          obtain ⟨a, ha, hqa⟩ := List.mem_flatMap.1 hq
          exact ihschema s hs a ha a.name q hqa t ht
  refine step c fun p hp s hs => ?_
  obtain ⟨d, -, hpd⟩ := List.mem_flatMap.1 hp
  exact hparts d d.name p hpd s hs

/-! ## Defects -/

/-- What is wrong with a part before anything is built: it lacks the option that its kind
cannot do without, or its schema is rejected. -/
def defect? : String × FieldConfig → Option SchemaError
  | (owner, c) =>
    match c.kind with
    | .attr => if c.attr = none then some (.missingOption owner .attr .attribute) else none
    | .nested =>
      match c.schema with
      | none => some (.missingOption owner .nested .schema)
      | some s =>
        match s.toSchema with
        | .error e => some e
        | .ok _ => none
    | _ => none

/-- The error is what is wrong with the first part that has a defect. -/
def SchemaConfig.FirstDefect (c : SchemaConfig) (e : SchemaError) : Prop :=
  ∃ before p after, c.parts = before ++ p :: after ∧ (∀ q ∈ before, defect? q = none) ∧
    defect? p = some e

theorem SchemaConfig.firstDefect_iff {c : SchemaConfig} {e : SchemaError} :
    c.FirstDefect e ↔ c.parts.findSome? defect? = some e := by
  rw [SchemaConfig.FirstDefect, List.findSome?_eq_some_iff]
  refine exists_congr fun before => exists_congr fun p => exists_congr fun after => ?_
  rw [and_comm (a := ∀ q ∈ before, defect? q = none)]

/-- What is wrong with a part is an option that is missing under the name of the part, or
what is wrong with its schema. -/
theorem defect?_cases {p : String × FieldConfig} {e : SchemaError} (h : defect? p = some e) :
    ((∃ kind option, e = .missingOption p.1 kind option) ∧
        (p.2.kind = .nested → p.2.schema = none)) ∨
      p.2.kind = .nested ∧ ∃ s, p.2.schema = some s ∧ s.toSchema = .error e := by
  obtain ⟨owner, c⟩ := p
  rw [defect?] at h
  cases hkind : c.kind with
  | text | any | content | firstOf => simp [hkind] at h
  | attr =>
      by_cases hattr : c.attr = none
      · simp only [hkind, if_pos hattr, Option.some.injEq] at h
        exact .inl ⟨⟨_, _, h.symm⟩, by simp⟩
      · simp [hkind, hattr] at h
  | nested =>
      simp only [hkind] at h
      cases hschema : c.schema with
      | none =>
          simp only [hschema, Option.some.injEq] at h
          exact .inl ⟨⟨_, _, h.symm⟩, by simp⟩
      | some s =>
          simp only [hschema] at h
          cases hs : s.toSchema with
          | ok built => simp [hs] at h
          | error d =>
              simp only [hs, Option.some.injEq] at h
              exact .inr ⟨rfl, s, rfl, by rw [hs, h]⟩

/-- What is wrong with the schema of a part is what is wrong with the part. -/
theorem defect?_of_rejected {p : String × FieldConfig} {s : SchemaConfig} {e : SchemaError}
    (hkind : p.2.kind = .nested) (hschema : p.2.schema = some s) (hs : s.toSchema = .error e) :
    defect? p = some e := by
  obtain ⟨owner, c⟩ := p
  simp only at hkind hschema
  simp only [defect?, hkind, hschema, hs]

/-- Behind parts without a defect, one with a defect is the first. -/
theorem find?_defect {before after : List (String × FieldConfig)} {p : String × FieldConfig}
    {e : SchemaError} (hbefore : ∀ q ∈ before, defect? q = none) (hp : defect? p = some e) :
    (before ++ p :: after).find? (fun q => (defect? q).isSome) = some p := by
  rw [List.find?_eq_some_iff_append]
  exact ⟨by simp [hp], before, after, rfl, fun q hq => by simp [hbefore q hq]⟩

/-! ## Translation stops at the first defect -/

/-- A run along a list stops at the first defect of the parts, if each step does. -/
theorem collect_eq_error_iff_findSome? {α β γ ε : Type} {f : α → Except ε β} {g : α → List γ}
    {k : γ → Option ε} {xs : List α}
    (h : ∀ x ∈ xs, ∀ e, f x = .error e ↔ (g x).findSome? k = some e) (e : ε) :
    collect f xs = .error e ↔ (xs.flatMap g).findSome? k = some e := by
  induction xs with
  | nil => simp [collect]
  | cons x rest ih =>
      obtain ⟨hx, hrest⟩ := List.forall_mem_cons.1 h
      rw [collect_cons_eq_error_iff, List.flatMap_cons, List.findSome?_append, ih hrest, hx]
      cases hfx : f x with
      | error d =>
          have hd : (g x).findSome? k = some d := (hx d).1 hfx
          simp [hd]
      | ok y =>
          have hnone : (g x).findSome? k = none := by
            rw [Option.eq_none_iff_forall_ne_some]
            intro d hd
            rw [(hx d).2 hd] at hfx
            contradiction
          simp [hnone]

/-- A field cannot be translated exactly if some part of it has a defect; the first is reported. -/
theorem FieldConfig.toField_eq_error_iff (c : FieldConfig) (owner : String) (e : SchemaError) :
    c.toField owner = .error e ↔ (c.parts owner).findSome? defect? = some e := by
  induction c using FieldConfig.nested_induction generalizing e with
  | step c _ ihalternatives =>
      have hcollect := collect_eq_error_iff_findSome? (g := FieldConfig.parts owner)
        fun d hd e => ihalternatives d hd e
      by_cases hkind : c.kind = .firstOf
      · rw [FieldConfig.parts_of_firstOf hkind, ← hcollect]
        obtain ⟨name, kind, selector, required, asList, attr, schema, alternatives⟩ := c
        obtain rfl : kind = .firstOf := hkind
        rw [FieldConfig.toField, alternativeFields_eq_collect]
        cases collect (fun d => d.toField owner) alternatives <;> simp
      · rw [FieldConfig.parts_of_ne_firstOf hkind, List.findSome?_singleton]
        obtain ⟨name, kind, selector, required, asList, attr, schema, alternatives⟩ := c
        cases kind with
        | text | any | content => simp [FieldConfig.toField, defect?]
        | attr => cases attr <;> simp [FieldConfig.toField, defect?]
        | nested =>
            cases schema with
            | none => simp [FieldConfig.toField, nestedSchema?, defect?]
            | some s =>
                cases hs : s.toSchema <;>
                  simp [FieldConfig.toField, nestedSchema?, defect?, hs]
        | firstOf => exact absurd rfl hkind

/-- The fields of a schema cannot be translated exactly if some part has a defect; the first is
reported. -/
theorem SchemaConfig.collect_declared_eq_error_iff (c : SchemaConfig) (e : SchemaError) :
    collect FieldConfig.declared c.fields = .error e ↔ c.FirstDefect e := by
  rw [SchemaConfig.firstDefect_iff, SchemaConfig.parts]
  refine collect_eq_error_iff_findSome? (fun d _ e => ?_) e
  rw [FieldConfig.declared, map_eq_error_iff, FieldConfig.toField_eq_error_iff]

/-- Where no part has a defect, the outcome is that of building the name and the translated
fields, which are those whose mirror is the pruned configuration. -/
theorem SchemaConfig.exists_translation {c : SchemaConfig} (h : ∀ p ∈ c.parts, defect? p = none) :
    ∃ fields, (Schema.mk c.name fields).toConfig = c.pruned ∧
      c.toSchema = Builder.build ⟨c.name, fields⟩ := by
  cases hcollect : collect FieldConfig.declared c.fields with
  | error e =>
      rw [SchemaConfig.collect_declared_eq_error_iff] at hcollect
      obtain ⟨before, p, after, hparts, -, hp⟩ := hcollect
      rw [h p (by simp [hparts])] at hp
      contradiction
  | ok fields =>
      refine ⟨fields, ?_, by rw [SchemaConfig.toSchema_eq, hcollect]; rfl⟩
      obtain ⟨name, configs⟩ := c
      rw [Schema.toConfig, SchemaConfig.pruned, fieldConfigs_eq_map, prunedFields_eq_map]
      congr 1
      refine map_eq_map_of_collect hcollect fun d _ p hp => ?_
      obtain ⟨hname, hfield⟩ := FieldConfig.declared_eq_ok_iff.1 hp
      rw [hname, FieldConfig.toConfig_of_toField hfield]

/-! ## The field that an error names -/

/-- The name of the field that an error is about, if it is about one. -/
def SchemaError.field? : SchemaError → Option String
  | .emptyName => none
  | .duplicateField _ field => some field
  | .emptySelector field => some field
  | .invalidSelector field _ _ => some field
  | .noAlternatives field => some field
  | .listFallback field => some field
  | .missingOption field _ _ => some field
  | .config _ => none

theorem Field.FirstFlaw.field?_eq {f : Field} {name : String} {e : SchemaError}
    (h : f.FirstFlaw name e) : e.field? = some name := by
  induction h with
  | alternative _ _ _ ih => exact ih
  | _ => rfl

/-- A builder that is refused names a declared field, if any. -/
theorem Builder.FirstFlaw.mem_names {b : Builder} {e : SchemaError} (h : b.FirstFlaw e)
    {name : String} (hname : e.field? = some name) : name ∈ b.fields.map Prod.fst := by
  cases h with
  | emptyName blank => contradiction
  | @declaration before after p e declared checked flaw =>
      have hp : e.field? = some p.1 := by
        rcases flaw with ⟨-, rfl⟩ | ⟨-, hflaw⟩
        · rfl
        · exact hflaw.field?_eq
      rw [hp, Option.some.injEq] at hname
      rw [← hname, declared]
      exact List.mem_map_of_mem (by simp)

/-! ## The schema at fault -/

/-- The rejection of `s`, the schema of the first part with a defect, is what `c` reports. -/
def SchemaConfig.PassesOn (c s : SchemaConfig) : Prop :=
  ∃ before p after, c.parts = before ++ p :: after ∧ (∀ q ∈ before, defect? q = none) ∧
    p.2.kind = .nested ∧ p.2.schema = some s ∧ ∃ e, s.toSchema = .error e

/-- The error that `c` reports is that of `d`, the innermost schema on the way on which it
is passed on: `d` is rejected with it, and not for the sake of a schema in it. -/
inductive SchemaConfig.Blames : SchemaConfig → SchemaConfig → SchemaError → Prop where
  | own {c : SchemaConfig} {e : SchemaError} (rejected : c.toSchema = .error e)
      (outright : ∀ s, ¬ c.PassesOn s) : Blames c c e
  | inner {c s d : SchemaConfig} {e : SchemaError} (passes : c.PassesOn s)
      (blames : Blames s d e) : Blames c d e

/-- A schema whose first defect is a missing option passes nothing on. -/
theorem SchemaConfig.not_passesOn_of_missing {c : SchemaConfig}
    {before after : List (String × FieldConfig)} {p : String × FieldConfig} {e : SchemaError}
    (hparts : c.parts = before ++ p :: after) (hbefore : ∀ q ∈ before, defect? q = none)
    (hp : defect? p = some e) (hmissing : p.2.kind = .nested → p.2.schema = none)
    (s : SchemaConfig) : ¬ c.PassesOn s := by
  rintro ⟨before', q, after', hparts', hbefore', hkind, hschema, d, hs⟩
  have hfirst : c.parts.find? (fun q => (defect? q).isSome) = some p := by
    rw [hparts]
    exact find?_defect hbefore hp
  have hfirst' : c.parts.find? (fun q => (defect? q).isSome) = some q := by
    rw [hparts']
    exact find?_defect hbefore' (defect?_of_rejected hkind hschema hs)
  obtain rfl : p = q := Option.some.inj (hfirst.symm.trans hfirst')
  rw [hmissing hkind] at hschema
  contradiction

/-- A schema whose fields can all be translated passes nothing on. -/
theorem SchemaConfig.not_passesOn_of_translated {c : SchemaConfig} {fields : List (String × Field)}
    (h : collect FieldConfig.declared c.fields = .ok fields) (s : SchemaConfig) :
    ¬ c.PassesOn s := by
  rintro ⟨before, p, after, hparts, hbefore, hkind, hschema, e, hs⟩
  have hp : defect? p = some e := defect?_of_rejected hkind hschema hs
  rw [(c.collect_declared_eq_error_iff e).2 ⟨before, p, after, hparts, hbefore, hp⟩] at h
  contradiction

/-- The rejection of a schema is that of the schema at fault, and what it names is declared
there. -/
theorem SchemaConfig.exists_blames {c : SchemaConfig} {e : SchemaError} (h : c.toSchema = .error e) :
    ∃ d, c.Blames d e ∧ ∀ name, e.field? = some name → name ∈ d.fields.map FieldConfig.name := by
  induction c using SchemaConfig.parts_induction with
  | step c ih =>
      cases hcollect : collect FieldConfig.declared c.fields with
      | error d =>
          obtain rfl : d = e := by
            rw [SchemaConfig.toSchema_eq, hcollect] at h
            exact Except.error.inj h
          obtain ⟨before, p, after, hparts, hbefore, hp⟩ :=
            (c.collect_declared_eq_error_iff d).1 hcollect
          have hmem : p ∈ c.parts := by simp [hparts]
          rcases defect?_cases hp with ⟨⟨kind, option, rfl⟩, hmissing⟩ | ⟨hkind, s, hschema, hs⟩
          · refine ⟨c, .own h (c.not_passesOn_of_missing hparts hbefore hp hmissing), ?_⟩
            rintro name hname
            obtain rfl : p.1 = name := Option.some.inj hname
            exact c.owner_mem_names hmem
          · obtain ⟨d', hblames, hnames⟩ := ih p hmem s hschema hs
            have hpasses : c.PassesOn s :=
              ⟨before, p, after, hparts, hbefore, hkind, hschema, d, hs⟩
            exact ⟨d', .inner hpasses hblames, hnames⟩
      | ok fields =>
          have hbuild : Builder.build ⟨c.name, fields⟩ = .error e := by
            rw [← h, SchemaConfig.toSchema_eq, hcollect]
            rfl
          have hkeys : fields.map Prod.fst = c.fields.map FieldConfig.name :=
            map_eq_map_of_collect hcollect fun d _ p hp => (FieldConfig.declared_eq_ok_iff.1 hp).1
          refine ⟨c, .own h (c.not_passesOn_of_translated hcollect), fun name hname => ?_⟩
          rw [← hkeys]
          exact (Builder.build_eq_error_iff.1 hbuild).mem_names hname

/-! ## The error that is reported -/

/-- **The first problem is reported**: where some part has a defect, that of the first such
part, whatever else is wrong with the schema itself; where none has, the first flaw of the
translated fields under the name.  The names in an error are declared in the innermost
schema at fault. -/
theorem SchemaConfig.toSchema_reports_first (c : SchemaConfig) :
    ((∃ p ∈ c.parts, defect? p ≠ none) → ∃ e, c.FirstDefect e) ∧
      (∀ e, c.FirstDefect e → c.toSchema = .error e) ∧
      ((∀ p ∈ c.parts, defect? p = none) →
        ∃ fields, (Schema.mk c.name fields).toConfig = c.pruned ∧
          c.toSchema = Builder.build ⟨c.name, fields⟩ ∧
          ∀ e, c.toSchema = .error e ↔ Builder.FirstFlaw ⟨c.name, fields⟩ e) ∧
      ∀ e, c.toSchema = .error e → ∃ d, c.Blames d e ∧
        ∀ name, e.field? = some name → name ∈ d.fields.map FieldConfig.name := by
  refine ⟨?_, fun e he => ?_, fun hnone => ?_, fun e he => SchemaConfig.exists_blames he⟩
  · rintro ⟨p, hp, hdefect⟩
    obtain ⟨e, he⟩ := Option.ne_none_iff_exists'.1 hdefect
    have hsome : (c.parts.findSome? defect?).isSome = true :=
      List.findSome?_isSome_iff.2 ⟨p, hp, by rw [he]; rfl⟩
    obtain ⟨d, hd⟩ := Option.isSome_iff_exists.1 hsome
    exact ⟨d, SchemaConfig.firstDefect_iff.2 hd⟩
  · rw [SchemaConfig.toSchema_eq, (c.collect_declared_eq_error_iff e).2 he]
    rfl
  · obtain ⟨fields, hmirror, hbuild⟩ := SchemaConfig.exists_translation hnone
    exact ⟨fields, hmirror, hbuild, fun e => by rw [hbuild, Builder.build_eq_error_iff]⟩

namespace Reported

/-- A lead with a blank selector, and a picture that needs an attribute. -/
def lead : SchemaConfig :=
  { name := "Lead"
    fields := [
      { name := "bold" },
      { name := "picture", kind := .firstOf
        alternatives := [{ name := "image", kind := .attr, selector := "img" }] }] }

/-- A schema without a name, with a selector that cannot be read, a name that is declared
twice, and so many `parts` behind these. -/
def page (parts : List FieldConfig) : SchemaConfig :=
  { name := " ", fields := { name := "title", selector := "h1[" } ::
      { name := "title", selector := "h1" } :: parts }

/-- A fallback with a lead that is rejected in front of an attribute that is not named. -/
def hero : FieldConfig :=
  { name := "hero", kind := .firstOf
    alternatives := [
      { name := "lead", kind := .nested, selector := "p", schema := some lead },
      { name := "link", kind := .attr, selector := "a" }] }

theorem firstDefect_page :
    (page [hero]).FirstDefect (.missingOption "picture" .attr .attribute) :=
  SchemaConfig.firstDefect_iff.2 rfl

/-- Of all that is wrong with the page the picture in its lead is reported, and without the
hero that the page has no name. -/
theorem reports_first_page :
    ((page [hero]).FirstDefect (.missingOption "picture" .attr .attribute) ∧
        (page [hero]).toSchema = .error (.missingOption "picture" .attr .attribute) ∧
        ∃ d, (page [hero]).Blames d (.missingOption "picture" .attr .attribute) ∧
          "picture" ∈ d.fields.map FieldConfig.name) ∧
      (∀ p ∈ (page []).parts, defect? p = none) ∧ (page []).toSchema = .error .emptyName ∧
        ∃ fields, (Schema.mk " " fields).toConfig = (page []).pruned ∧
          (page []).toSchema = Builder.build ⟨" ", fields⟩ ∧
          Builder.FirstFlaw ⟨" ", fields⟩ .emptyName := by
  obtain ⟨-, hfirst, -, hblames⟩ := SchemaConfig.toSchema_reports_first (page [hero])
  obtain ⟨-, -, hbuild, -⟩ := SchemaConfig.toSchema_reports_first (page [])
  have hhero := hfirst _ firstDefect_page
  obtain ⟨d, hd, hnames⟩ := hblames _ hhero
  have hnone : ∀ p ∈ (page []).parts, defect? p = none := by decide
  have hempty : (page []).toSchema = .error .emptyName := rfl
  obtain ⟨fields, hmirror, hbuilt, hflaw⟩ := hbuild hnone
  exact ⟨⟨firstDefect_page, hhero, d, hd, hnames _ rfl⟩, hnone, hempty, fields, hmirror, hbuilt,
    (hflaw _).1 hempty⟩

end Reported

end Glean
