import Glean.Extraction
import Glean.Proofs.Extraction.Collecting

/-!
# Glean.Proofs.Extraction.Outcome

What each step of an extraction can come to, one family of lemmas per walker:

* `Schema.extract` runs along the declared fields (`extract_eq_ok_iff`,
  `extract_eq_error_iff`);
* a selecting field is decided by what its selector matches
  (`resolve_select_of_nil`, `resolve_list_of_matches`, `resolve_single_of_matches`);
* a fallback is decided by its first alternative that finds something or fails
  for good (`firstFound_cases`, `firstFound_eq_none_iff`, `firstFound_eq_error_iff`);
* a strategy fails only in a nested schema, and otherwise makes of a match what
  `Strategy.Makes` says (`read_eq_error_iff`, `read_eq_ok_iff`).

Everything said about extraction elsewhere is derived from these.
-/

namespace Glean

variable {ν μ : Type} [Source ν] [Source μ]

/-! ## Kinds of failure -/

/-- Whether an error says that a required field found nothing. -/
def ExtractionError.isMissing : ExtractionError → Bool
  | .missingField .. => true
  | _ => false

theorem ExtractionError.isMissing_iff {e : ExtractionError} :
    e.isMissing = true ↔ ∃ field path selector, e = .missingField field path selector := by
  cases e <;> simp [ExtractionError.isMissing]

@[simp] theorem ExtractionError.isMissing_within (name : String) (e : ExtractionError) :
    (e.within name).isMissing = e.isMissing := by
  cases e <;> rfl

/-- An error that is not about a missing field is passed on as it is. -/
theorem ExtractionError.within_of_not_missing {e : ExtractionError} (h : e.isMissing = false)
    (name : String) : e.within name = e := by
  cases e with
  | missingField field path selector => simp [isMissing] at h
  | invalidSelector selector detail => rfl
  | conversion field text cause => rfl

@[simp] theorem ExtractionError.isMissing_missing (name selector : String) :
    (ExtractionError.missing name selector).isMissing = true := rfl

/-! ## Schemas -/

/-- The value of a declared field, under its name. -/
def resolveDeclared (root : ν) (p : String × Field) : Except ExtractionError (String × Value) :=
  (p.2.resolve p.1 root).map (Prod.mk p.1)

theorem resolveDeclared_eq_ok_iff {root : ν} {p : String × Field} {q : String × Value} :
    resolveDeclared root p = .ok q ↔ q.1 = p.1 ∧ p.2.resolve p.1 root = .ok q.2 := by
  obtain ⟨name, v⟩ := q
  rw [resolveDeclared]
  cases p.2.resolve p.1 root <;> simp [Except.map, eq_comm]

theorem exists_resolveDeclared_eq_ok_iff {root : ν} {p : String × Field} :
    (∃ q, resolveDeclared root p = .ok q) ↔ ∃ v, p.2.resolve p.1 root = .ok v := by
  rw [resolveDeclared]
  cases p.2.resolve p.1 root <;> simp [Except.map]

theorem resolveDeclared_eq_error_iff {root : ν} {p : String × Field} {e : ExtractionError} :
    resolveDeclared root p = .error e ↔ p.2.resolve p.1 root = .error e := by
  rw [resolveDeclared, map_eq_error_iff]

/-- The fields of a schema are resolved one after the other. -/
theorem extractFields_eq_collect (root : ν) (fields : List (String × Field)) :
    extractFields root fields = collect (resolveDeclared root) fields := by
  induction fields with
  | nil => rw [extractFields, collect]
  | cons p rest ih =>
      obtain ⟨name, f⟩ := p
      rw [extractFields, collect, resolveDeclared, ih]
      cases f.resolve name root with
      | error e => rfl
      | ok v => cases collect (resolveDeclared root) rest <;> rfl

theorem Schema.extract_eq (s : Schema) (root : ν) :
    s.extract root = (collect (resolveDeclared root) s.fields).map (Record.mk s.name) := by
  obtain ⟨name, fields⟩ := s
  rw [Schema.extract, extractFields_eq_collect]
  cases collect (resolveDeclared root) fields <;> rfl

/-- An extracted record has the value of every declared field under its name. -/
theorem Schema.extract_eq_ok_iff {s : Schema} {root : ν} {r : Record} :
    s.extract root = .ok r ↔ r.schema = s.name ∧
      List.Forall₂ (fun p q => q.1 = p.1 ∧ p.2.resolve p.1 root = .ok q.2) s.fields r.fields := by
  obtain ⟨name, values⟩ := r
  have hfields : collect (resolveDeclared root) s.fields = .ok values ↔
      List.Forall₂ (fun p q => q.1 = p.1 ∧ p.2.resolve p.1 root = .ok q.2) s.fields values := by
    rw [collect_eq_ok_iff]
    simp only [resolveDeclared_eq_ok_iff]
  rw [Schema.extract_eq, ← hfields]
  cases collect (resolveDeclared root) s.fields <;> simp [Except.map, eq_comm]

/-- Every value of an extracted record is the value of a declared field. -/
theorem Schema.exists_field_of_mem_fields {s : Schema} {root : ν} {r : Record}
    (h : s.extract root = .ok r) {q : String × Value} (hq : q ∈ r.fields) :
    ∃ p ∈ s.fields, q.1 = p.1 ∧ p.2.resolve p.1 root = .ok q.2 := by
  have hfields : collect (resolveDeclared root) s.fields = .ok r.fields := by
    rw [collect_eq_ok_iff]
    simp only [resolveDeclared_eq_ok_iff]
    exact (Schema.extract_eq_ok_iff.1 h).2
  obtain ⟨p, hp, hpq⟩ := exists_mem_of_mem_collect hfields hq
  exact ⟨p, hp, resolveDeclared_eq_ok_iff.1 hpq⟩

/-- Extraction succeeds exactly if every declared field resolves. -/
theorem Schema.exists_extract_eq_ok_iff {s : Schema} {root : ν} :
    (∃ r, s.extract root = .ok r) ↔ ∀ p ∈ s.fields, ∃ v, p.2.resolve p.1 root = .ok v := by
  have hfields : (∃ values, collect (resolveDeclared root) s.fields = .ok values) ↔
      ∀ p ∈ s.fields, ∃ v, p.2.resolve p.1 root = .ok v := by
    rw [exists_collect_eq_ok_iff]
    simp only [exists_resolveDeclared_eq_ok_iff]
  rw [Schema.extract_eq, ← hfields]
  cases collect (resolveDeclared root) s.fields <;> simp [Except.map]

/-- Extraction fails with the failure of the first field that does not resolve. -/
theorem Schema.extract_eq_error_iff {s : Schema} {root : ν} {e : ExtractionError} :
    s.extract root = .error e ↔
      ∃ before p after, s.fields = before ++ p :: after ∧
        (∀ q ∈ before, ∃ v, q.2.resolve q.1 root = .ok v) ∧
        p.2.resolve p.1 root = .error e := by
  rw [Schema.extract_eq, map_eq_error_iff, collect_eq_error_iff]
  simp only [exists_resolveDeclared_eq_ok_iff, resolveDeclared_eq_error_iff]

/-- The failure of an extraction is the failure of a declared field. -/
theorem Schema.exists_field_of_extract_error {s : Schema} {root : ν} {e : ExtractionError}
    (h : s.extract root = .error e) : ∃ p ∈ s.fields, p.2.resolve p.1 root = .error e := by
  obtain ⟨before, p, after, hsplit, -, hp⟩ := Schema.extract_eq_error_iff.1 h
  exact ⟨p, by simp [hsplit], hp⟩

/-- Two roots on which every declared field resolves alike yield the same. -/
theorem Schema.extract_congr {s : Schema} {a : ν} {b : μ}
    (h : ∀ p ∈ s.fields, p.2.resolve p.1 a = p.2.resolve p.1 b) :
    s.extract a = s.extract b := by
  rw [Schema.extract_eq, Schema.extract_eq]
  congr 1
  apply collect_congr
  rw [List.forall₂_same]
  intro p hp
  rw [resolveDeclared, resolveDeclared, h p hp]

/-! ## Strategies -/

/-- A strategy fails only where its nested schema fails, which it reports under the field. -/
theorem Strategy.read_eq_error_iff {strategy : Strategy} {name : String} {node : ν}
    {e : ExtractionError} :
    strategy.read name node = .error e ↔
      ∃ s d, strategy = .nested s ∧ s.extract node = .error d ∧ e = d.within name := by
  cases strategy with
  | text => simp [Strategy.read]
  | any => simp [Strategy.read]
  | content => simp [Strategy.read]
  | attr key =>
      rw [Strategy.read]
      cases Source.attr? node key <;> simp
  | nested s =>
      rw [Strategy.read]
      cases h : s.extract node with
      | error d => simp [h, eq_comm (a := e)]
      | ok r => simp [h]

/-- A match can be read by a nested schema exactly if the schema extracts it. -/
theorem Strategy.exists_read_nested_iff {s : Schema} {name : String} {node : ν} :
    (∃ v, (Strategy.nested s).read name node = .ok v) ↔ ∃ r, s.extract node = .ok r := by
  rw [Strategy.read]
  cases s.extract node <;> simp

/-- What a strategy makes of a matched node: a text, nothing for want of an attribute, or a
record. -/
inductive Strategy.Makes (node : ν) : Strategy → Value → Prop where
  | text : Makes node .text (.text (Source.text node))
  | any : Makes node .any (.text (Source.text node))
  | content : Makes node .content
      (.text ((Source.attr? node "content").getD (Source.text node)))
  | attr {key value : String} (there : Source.attr? node key = some value) :
      Makes node (.attr key) (.text value)
  | lacking {key : String} (lacks : Source.attr? node key = none) :
      Makes node (.attr key) .absent
  | nested {s : Schema} {r : Record} (extracted : s.extract node = .ok r) :
      Makes node (.nested s) (.record r)

/-- What is read from a node does not depend on the name of the field. -/
theorem Strategy.read_eq_ok_iff {strategy : Strategy} {name : String} {node : ν} {v : Value} :
    strategy.read name node = .ok v ↔ strategy.Makes node v := by
  constructor
  · intro h
    cases strategy with
    | text | any | content =>
        rw [Strategy.read] at h
        cases h
        constructor
    | attr key =>
        rw [Strategy.read] at h
        cases hattr : Source.attr? node key with
        | none =>
            rw [hattr] at h
            cases h
            exact .lacking hattr
        | some value =>
            rw [hattr] at h
            cases h
            exact .attr hattr
    | nested s =>
        rw [Strategy.read] at h
        cases hextract : s.extract node with
        | error e =>
            rw [hextract] at h
            contradiction
        | ok r =>
            rw [hextract] at h
            cases h
            exact .nested hextract
  · intro h
    cases h with
    | text | any | content => rw [Strategy.read]
    | attr there => simp only [Strategy.read, there]
    | lacking lacks => simp only [Strategy.read, lacks]
    | nested extracted => simp only [Strategy.read, extracted]

/-- A matched node is absent only for want of an attribute. -/
theorem Strategy.read_eq_absent_iff {strategy : Strategy} {name : String} {node : ν} :
    strategy.read name node = .ok .absent ↔
      ∃ key, strategy = .attr key ∧ Source.attr? node key = none := by
  rw [Strategy.read_eq_ok_iff]
  constructor
  · intro h
    cases h with
    | @lacking key lacks => exact ⟨key, rfl, lacks⟩
  · rintro ⟨key, rfl, hlacks⟩
    exact .lacking hlacks

/-! ## Fields that select -/

section Select

variable {selector name : String} {strategy : Strategy} {flags : Flags} {root first : ν}
  {more : List ν}

theorem resolve_select_of_error {e : ExtractionError} (h : Source.select root selector = .error e) :
    (Field.select selector strategy flags).resolve name root = .error e := by
  rw [Field.resolve, h]

/-- Without a match a required field is missing; another is absent, or an empty list. -/
theorem resolve_select_of_nil (h : Source.select root selector = .ok []) :
    (Field.select selector strategy flags).resolve name root =
      if flags.required then .error (.missing name selector)
      else .ok (if flags.asList then .list [] else .absent) := by
  rw [Field.resolve, h]

/-- A list field with matches reads all of them. -/
theorem resolve_list_of_matches (h : Source.select root selector = .ok (first :: more))
    (hlist : flags.asList = true) :
    (Field.select selector strategy flags).resolve name root =
      (collect (fun node => strategy.read name node) (first :: more)).map .list := by
  rw [Field.resolve, h]
  simp only [hlist, if_true]
  cases collect (fun node => strategy.read name node) (first :: more) <;> rfl

/-- A single field with matches reads the first, and is missing if it is
required and the first lacks the attribute. -/
theorem resolve_single_of_matches (h : Source.select root selector = .ok (first :: more))
    (hlist : flags.asList = false) :
    (Field.select selector strategy flags).resolve name root =
      match strategy.read name first with
      | .error e => .error e
      | .ok v =>
        if flags.required && v.isAbsent then .error (.missing name (strategy.describe selector))
        else .ok v := by
  rw [Field.resolve, h]
  simp only [hlist, Bool.false_eq_true, if_false]
  cases strategy.read name first with
  | error e => rfl
  | ok v => cases v <;> cases flags.required <;> rfl

/-- A list field with matches fails only where one of them cannot be read. -/
theorem resolve_list_error_cases (hselect : Source.select root selector = .ok (first :: more))
    (hlist : flags.asList = true) {e : ExtractionError}
    (h : (Field.select selector strategy flags).resolve name root = .error e) :
    ∃ node ∈ first :: more, strategy.read name node = .error e := by
  rw [resolve_list_of_matches hselect hlist, map_eq_error_iff] at h
  exact exists_mem_of_collect_error h

/-- A single field with matches fails only where the first cannot be read, or
lacks the attribute that the field requires. -/
theorem resolve_single_error_cases (hselect : Source.select root selector = .ok (first :: more))
    (hlist : flags.asList = false) {e : ExtractionError}
    (h : (Field.select selector strategy flags).resolve name root = .error e) :
    strategy.read name first = .error e ∨
      ∃ key, flags.required = true ∧ strategy = .attr key ∧ Source.attr? first key = none ∧
        e = .missing name (strategy.describe selector) := by
  rw [resolve_single_of_matches hselect hlist] at h
  cases hread : strategy.read name first with
  | error d =>
      rw [hread] at h
      exact .inl h
  | ok v =>
      simp only [hread] at h
      by_cases hlacks : (flags.required && v.isAbsent) = true
      · rw [if_pos hlacks] at h
        injection h with he
        rw [Bool.and_eq_true, Value.isAbsent_iff] at hlacks
        obtain ⟨hreq, rfl⟩ := hlacks
        obtain ⟨key, hattr, hkey⟩ := Strategy.read_eq_absent_iff.1 hread
        exact .inr ⟨key, hreq, hattr, hkey, he.symm⟩
      · rw [if_neg hlacks] at h
        contradiction

end Select

/-- The match that a field reads: any of them in a list field, else the first. -/
def Flags.Reads {α : Type} (flags : Flags) (nodes : List α) (node : α) : Prop :=
  if flags.asList then node ∈ nodes else nodes.head? = some node

/-- The four failures of a selecting field: its selector is refused, a required
field has no match, a match that is read fails, or the only match that is read
lacks the attribute that the field requires. -/
theorem resolve_select_error_cases {selector name : String} {strategy : Strategy} {flags : Flags}
    {root : ν} {e : ExtractionError}
    (h : (Field.select selector strategy flags).resolve name root = .error e) :
    Source.select root selector = .error e ∨
      (Source.select root selector = .ok [] ∧ flags.required = true ∧
        e = .missing name selector) ∨
      (∃ nodes node, Source.select root selector = .ok nodes ∧ flags.Reads nodes node ∧
        strategy.read name node = .error e) ∨
      ∃ first more key, Source.select root selector = .ok (first :: more) ∧
        flags.asList = false ∧ flags.required = true ∧ strategy = .attr key ∧
        Source.attr? first key = none ∧ e = .missing name (strategy.describe selector) := by
  cases hselect : Source.select root selector with
  | error d =>
      rw [resolve_select_of_error hselect] at h
      injection h with he
      exact .inl (by rw [he])
  | ok nodes =>
      cases nodes with
      | nil =>
          rw [resolve_select_of_nil hselect] at h
          cases hreq : flags.required with
          | false => simp [hreq] at h
          | true =>
              rw [if_pos hreq] at h
              injection h with he
              exact .inr (.inl ⟨rfl, rfl, he.symm⟩)
      | cons first more =>
          refine .inr (.inr ?_)
          cases hlist : flags.asList with
          | true =>
              obtain ⟨node, hnode, hread⟩ := resolve_list_error_cases hselect hlist h
              have hreads : flags.Reads (first :: more) node := by
                rw [Flags.Reads, if_pos hlist]
                exact hnode
              exact .inl ⟨_, node, rfl, hreads, hread⟩
          | false =>
              rcases resolve_single_error_cases hselect hlist h with
                hread | ⟨key, hreq, hattr, hkey, he⟩
              · have hreads : flags.Reads (first :: more) first := by
                  rw [Flags.Reads, if_neg (by simp [hlist])]
                  rfl
                exact .inl ⟨_, first, rfl, hreads, hread⟩
              · exact .inr ⟨first, more, key, rfl, rfl, hreq, hattr, hkey, he⟩

/-- The three results of a selecting field: nothing where nothing matches and nothing
is required, a list with what each match becomes, or what the first match becomes. -/
theorem resolve_select_ok_cases {selector name : String} {strategy : Strategy} {flags : Flags}
    {root : ν} {v : Value}
    (h : (Field.select selector strategy flags).resolve name root = .ok v) :
    (Source.select root selector = .ok [] ∧ flags.required = false ∧
        v = if flags.asList then .list [] else .absent) ∨
      (∃ first more items, Source.select root selector = .ok (first :: more) ∧
        flags.asList = true ∧ v = .list items ∧
        List.Forall₂ (fun node item => strategy.read name node = .ok item) (first :: more) items) ∨
      ∃ first more, Source.select root selector = .ok (first :: more) ∧
        flags.asList = false ∧ strategy.read name first = .ok v ∧
        (flags.required = true → v ≠ .absent) := by
  cases hselect : Source.select root selector with
  | error e =>
      rw [resolve_select_of_error hselect] at h
      contradiction
  | ok nodes =>
      cases nodes with
      | nil =>
          rw [resolve_select_of_nil hselect] at h
          cases hreq : flags.required with
          | true => simp [hreq] at h
          | false =>
              rw [hreq, if_neg (by simp)] at h
              injection h with hv
              exact .inl ⟨rfl, rfl, hv.symm⟩
      | cons first more =>
          refine .inr ?_
          cases hlist : flags.asList with
          | true =>
              rw [resolve_list_of_matches hselect hlist] at h
              cases hitems : collect (fun node => strategy.read name node) (first :: more) with
              | error e => simp [hitems, Except.map] at h
              | ok items =>
                  rw [hitems, Except.map] at h
                  injection h with hv
                  exact .inl ⟨first, more, items, rfl, rfl, hv.symm, collect_eq_ok_iff.1 hitems⟩
          | false =>
              rw [resolve_single_of_matches hselect hlist] at h
              cases hread : strategy.read name first with
              | error e => simp [hread] at h
              | ok x =>
                  simp only [hread] at h
                  by_cases hlacks : (flags.required && x.isAbsent) = true
                  · rw [if_pos hlacks] at h
                    contradiction
                  · rw [if_neg hlacks] at h
                    injection h with hv
                    subst hv
                    refine .inr ⟨first, more, rfl, rfl, hread, fun hreq habsent => hlacks ?_⟩
                    rw [hreq, habsent]
                    rfl

/-! ## Fallbacks -/

/-- An alternative that a fallback passes over: its value is empty, or something
it requires is missing. -/
def Field.PassedOver (name : String) (root : ν) (f : Field) : Prop :=
  (∃ v, f.resolve name root = .ok v ∧ v.isEmpty = true) ∨
    ∃ e, f.resolve name root = .error e ∧ e.isMissing = true

section Fallback

variable {name : String} {root : ν} {alternative : Field} {rest alternatives : List Field}

theorem firstFound_of_passedOver (h : alternative.PassedOver name root) :
    firstFound name root (alternative :: rest) = firstFound name root rest := by
  rw [firstFound]
  rcases h with ⟨v, hv, hempty⟩ | ⟨e, he, hmissing⟩
  · rw [hv]
    simp only [hempty, if_true]
  · obtain ⟨field, path, selector, rfl⟩ := ExtractionError.isMissing_iff.1 hmissing
    rw [he]

theorem firstFound_of_found {v : Value} (hv : alternative.resolve name root = .ok v)
    (hempty : v.isEmpty = false) :
    firstFound name root (alternative :: rest) = .ok (some v) := by
  rw [firstFound, hv]
  simp only [hempty, Bool.false_eq_true, if_false]

theorem firstFound_of_failed {e : ExtractionError} (he : alternative.resolve name root = .error e)
    (hmissing : e.isMissing = false) :
    firstFound name root (alternative :: rest) = .error e := by
  rw [firstFound, he]
  cases e with
  | missingField field path selector => simp [ExtractionError.isMissing] at hmissing
  | invalidSelector selector detail => rfl
  | conversion field text cause => rfl

/-- An alternative is passed over, finds something, or fails for good. -/
theorem Field.passedOver_or (name : String) (root : ν) (f : Field) :
    f.PassedOver name root ∨ (∃ v, f.resolve name root = .ok v ∧ v.isEmpty = false) ∨
      ∃ e, f.resolve name root = .error e ∧ e.isMissing = false := by
  rw [Field.PassedOver]
  cases f.resolve name root with
  | error e => cases he : e.isMissing <;> simp [he]
  | ok v => cases hv : v.isEmpty <;> simp [hv]

/-- The alternatives that are passed over leave no trace. -/
theorem firstFound_append {before : List Field} (h : ∀ f ∈ before, f.PassedOver name root)
    (rest : List Field) : firstFound name root (before ++ rest) = firstFound name root rest := by
  induction before with
  | nil => rfl
  | cons f before ih =>
      obtain ⟨hf, hbefore⟩ := List.forall_mem_cons.1 h
      rw [List.cons_append, firstFound_of_passedOver hf, ih hbefore]

/-- The three ends of a fallback: it passes over every alternative, or the first
that it does not pass over is what it finds or what it fails with. -/
theorem firstFound_cases (name : String) (root : ν) (alternatives : List Field) :
    (firstFound name root alternatives = .ok none ∧
        ∀ f ∈ alternatives, f.PassedOver name root) ∨
      ∃ before f after, alternatives = before ++ f :: after ∧
        (∀ g ∈ before, g.PassedOver name root) ∧
        ((∃ v, firstFound name root alternatives = .ok (some v) ∧
            f.resolve name root = .ok v ∧ v.isEmpty = false) ∨
          ∃ e, firstFound name root alternatives = .error e ∧
            f.resolve name root = .error e ∧ e.isMissing = false) := by
  induction alternatives with
  | nil => exact .inl ⟨by rw [firstFound], by simp⟩
  | cons f rest ih =>
      rcases f.passedOver_or name root with hf | ⟨v, hv, hempty⟩ | ⟨e, he, hmissing⟩
      · rw [firstFound_of_passedOver hf]
        rcases ih with ⟨hnone, hrest⟩ | ⟨before, g, after, rfl, hbefore, hg⟩
        · exact .inl ⟨hnone, List.forall_mem_cons.2 ⟨hf, hrest⟩⟩
        · exact .inr ⟨f :: before, g, after, rfl, List.forall_mem_cons.2 ⟨hf, hbefore⟩, hg⟩
      · have hfound : firstFound name root (f :: rest) = .ok (some v) :=
          firstFound_of_found hv hempty
        exact .inr ⟨[], f, rest, rfl, by simp, .inl ⟨v, hfound, hv, hempty⟩⟩
      · have hfailed : firstFound name root (f :: rest) = .error e :=
          firstFound_of_failed he hmissing
        exact .inr ⟨[], f, rest, rfl, by simp, .inr ⟨e, hfailed, he, hmissing⟩⟩

/-- A fallback finds nothing exactly if every alternative is passed over. -/
theorem firstFound_eq_none_iff :
    firstFound name root alternatives = .ok none ↔ ∀ f ∈ alternatives, f.PassedOver name root := by
  constructor
  · intro h
    rcases firstFound_cases name root alternatives with
      ⟨-, hall⟩ | ⟨before, f, after, -, -, ⟨v, hv, -⟩ | ⟨e, he, -⟩⟩
    · exact hall
    · rw [h] at hv
      cases hv
    · rw [h] at he
      cases he
  · intro h
    have happend := firstFound_append h []
    rwa [List.append_nil, firstFound] at happend

/-- A fallback fails for good exactly if its first alternative that is not passed
over fails, which is then not about a missing field. -/
theorem firstFound_eq_error_iff {e : ExtractionError} :
    firstFound name root alternatives = .error e ↔
      ∃ before f after, alternatives = before ++ f :: after ∧
        (∀ g ∈ before, g.PassedOver name root) ∧
        f.resolve name root = .error e ∧ e.isMissing = false := by
  constructor
  · intro h
    rcases firstFound_cases name root alternatives with
      ⟨hnone, -⟩ | ⟨before, f, after, hsplit, hbefore, ⟨v, hv, -⟩ | ⟨d, hd, hres⟩⟩
    · rw [h] at hnone
      cases hnone
    · rw [h] at hv
      cases hv
    · rw [h] at hd
      cases hd
      exact ⟨before, f, after, hsplit, hbefore, hres⟩
  · rintro ⟨before, f, after, rfl, hbefore, he, hmissing⟩
    rw [firstFound_append hbefore, firstFound_of_failed he hmissing]

/-- A fallback that finds nothing is missing if it is required and absent if not. -/
theorem resolve_firstOf_eq (name : String) (root : ν) (alternatives : List Field) (flags : Flags) :
    (Field.firstOf alternatives flags).resolve name root =
      match firstFound name root alternatives with
      | .error e => .error e
      | .ok (some v) => .ok v
      | .ok none =>
        if flags.required then .error (.missing name (Field.firstOf alternatives flags).describe)
        else .ok .absent := by
  cases hfound : firstFound name root alternatives with
  | error e => simp only [Field.resolve, hfound]
  | ok found => cases found <;> simp only [Field.resolve, hfound]

/-- The two failures of a fallback: an alternative that is tried fails for good,
or none finds anything and the fallback is required. -/
theorem resolve_firstOf_error_cases {flags : Flags} {e : ExtractionError}
    (h : (Field.firstOf alternatives flags).resolve name root = .error e) :
    (∃ f ∈ alternatives, f.resolve name root = .error e ∧ e.isMissing = false) ∨
      ((∀ f ∈ alternatives, f.PassedOver name root) ∧ flags.required = true ∧
        e = .missing name (Field.firstOf alternatives flags).describe) := by
  rw [resolve_firstOf_eq] at h
  rcases firstFound_cases name root alternatives with
    ⟨hnone, hall⟩ | ⟨before, f, after, hsplit, -, ⟨v, hv, -⟩ | ⟨d, hd, hres, hmissing⟩⟩
  · rw [hnone] at h
    cases hreq : flags.required with
    | false => simp [hreq] at h
    | true =>
        simp only [hreq, if_true] at h
        injection h with he
        exact .inr ⟨hall, rfl, he.symm⟩
  · rw [hv] at h
    cases h
  · rw [hd] at h
    injection h with he
    subst he
    exact .inl ⟨f, by simp [hsplit], hres, hmissing⟩

/-- The two results of a fallback: what some alternative finds, or nothing where
none finds anything and nothing is required. -/
theorem resolve_firstOf_ok_cases {flags : Flags} {v : Value}
    (h : (Field.firstOf alternatives flags).resolve name root = .ok v) :
    (∃ f ∈ alternatives, f.resolve name root = .ok v ∧ v.isEmpty = false) ∨
      ((∀ f ∈ alternatives, f.PassedOver name root) ∧ flags.required = false ∧ v = .absent) := by
  rw [resolve_firstOf_eq] at h
  rcases firstFound_cases name root alternatives with
    ⟨hnone, hall⟩ | ⟨before, f, after, hsplit, -, ⟨w, hw, hres, hempty⟩ | ⟨e, he, -⟩⟩
  · rw [hnone] at h
    cases hreq : flags.required with
    | true => simp [hreq] at h
    | false =>
        simp only [hreq, Bool.false_eq_true, if_false] at h
        injection h with hv
        exact .inr ⟨hall, rfl, hv.symm⟩
  · rw [hw] at h
    injection h with hv
    subst hv
    exact .inl ⟨f, by simp [hsplit], hres, hempty⟩
  · rw [he] at h
    contradiction

end Fallback

end Glean
