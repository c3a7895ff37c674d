import Glean.Proofs.Extraction.Listed

/-!
# Glean.Proofs.Extraction.Satisfaction

What a schema demands of a node, said without running it.  `Schema.Satisfied`
looks at matches only: a required field needs one, a nested schema has to be
satisfied by every match of a list field and by the first match of any other,
and a required attribute has to be there.  A fallback is satisfied by an
alternative that is satisfied itself and `Yields` something, that is a text
with a character in it, a list with an item in it, or a record.

Extraction succeeds exactly on the nodes that satisfy the schema, and misses a
field on all others.
-/

namespace Glean

variable {ν : Type} [Source ν]

/-! ## Demands -/

/-- A single match has what a required field asks for: only an attribute can be lacking. -/
def Strategy.Present (node : ν) : Strategy → Prop
  | .attr key => ∃ value, Source.attr? node key = some value
  | _ => True

/-- What a single match becomes is not empty. -/
def Strategy.Fills (node : ν) : Strategy → Prop
  | .text | .any => Source.text node ≠ ""
  | .content => (Source.attr? node "content").getD (Source.text node) ≠ ""
  | .attr key => ∃ value, Source.attr? node key = some value ∧ value ≠ ""
  | .nested _ => True

mutual

/-- Every declared field of the schema is satisfied at the node. -/
def Schema.Satisfied (node : ν) : Schema → Prop
  | ⟨_, fields⟩ => AllSatisfied node fields

/-- Every one of the declared fields is satisfied at the node. -/
def AllSatisfied (node : ν) : List (String × Field) → Prop
  | [] => True
  | (_, f) :: rest => f.Satisfied node ∧ AllSatisfied node rest

/-- The field is satisfied at the node. -/
def Field.Satisfied (node : ν) : Field → Prop
  | .select selector strategy flags =>
    match Source.select node selector with
    | .error _ => False
    | .ok [] => flags.required = false
    | .ok (first :: more) =>
      if flags.asList then ∀ m ∈ first :: more, strategy.Admits m
      else strategy.Admits first ∧ (flags.required = true → strategy.Present first)
  | .firstOf alternatives flags => flags.required = false ∨ SomeYields node alternatives

/-- Some alternative is satisfied and yields a value that is not empty. -/
def SomeYields (node : ν) : List Field → Prop
  | [] => False
  | f :: rest => (f.Satisfied node ∧ f.Yields node) ∨ SomeYields node rest

/-- What the field finds at the node is not empty. -/
def Field.Yields (node : ν) : Field → Prop
  | .select selector strategy flags =>
    match Source.select node selector with
    | .error _ | .ok [] => False
    | .ok (first :: _) => flags.asList = true ∨ strategy.Fills first
  | .firstOf alternatives _ => SomeYields node alternatives

/-- A match satisfies the nested schema, if the strategy has one. -/
def Strategy.Admits (node : ν) : Strategy → Prop
  | .nested s => s.Satisfied node
  | _ => True

end

/-! ## Demands on several fields -/

theorem Schema.satisfied_iff {s : Schema} {node : ν} :
    s.Satisfied node ↔ ∀ p ∈ s.fields, p.2.Satisfied node := by
  obtain ⟨name, fields⟩ := s
  rw [Schema.Satisfied]
  induction fields with
  | nil => simp [AllSatisfied]
  | cons p rest ih =>
      obtain ⟨key, f⟩ := p
      rw [AllSatisfied, ih, List.forall_mem_cons]

theorem someYields_iff {alternatives : List Field} {node : ν} :
    SomeYields node alternatives ↔ ∃ f ∈ alternatives, f.Satisfied node ∧ f.Yields node := by
  induction alternatives with
  | nil => simp [SomeYields]
  | cons f rest ih => simp [SomeYields, ih]

/-! ## Matches -/

/-- A match can be read exactly if it satisfies the nested schema. -/
theorem Strategy.exists_read_eq_ok_iff {strategy : Strategy} {name : String} {node : ν}
    (hnested : ∀ s, strategy = .nested s →
      ∀ p ∈ s.fields, (∃ v, p.2.resolve p.1 node = .ok v) ↔ p.2.Satisfied node) :
    (∃ v, strategy.read name node = .ok v) ↔ strategy.Admits node := by
  cases strategy with
  | text | any | content => simp [Strategy.read, Strategy.Admits]
  | attr key =>
      rw [Strategy.read]
      cases Source.attr? node key <;> simp [Strategy.Admits]
  | nested s =>
      have hfields : (∃ r, s.extract node = .ok r) ↔ s.Satisfied node := by
        rw [Schema.exists_extract_eq_ok_iff, Schema.satisfied_iff]
        exact forall₂_congr (hnested s rfl)
      rw [Strategy.exists_read_nested_iff, Strategy.Admits, hfields]

/-- What is read from a match is there exactly if the match has what a required
field asks for. -/
theorem Strategy.isAbsent_eq_false_iff {strategy : Strategy} {name : String} {node : ν}
    {v : Value} (h : strategy.read name node = .ok v) :
    v.isAbsent = false ↔ strategy.Present node := by
  cases Strategy.read_eq_ok_iff.1 h with
  | text | any | content => simp [Value.isAbsent, Strategy.Present]
  | attr there => simp [Value.isAbsent, Strategy.Present, there]
  | lacking lacks => simp [Value.isAbsent, Strategy.Present, lacks]
  | nested extracted => simp [Value.isAbsent, Strategy.Present]

/-- What is read from a match is not empty exactly if the match fills the field. -/
theorem Strategy.isEmpty_eq_false_iff {strategy : Strategy} {name : String} {node : ν}
    {v : Value} (h : strategy.read name node = .ok v) :
    v.isEmpty = false ↔ strategy.Fills node := by
  cases Strategy.read_eq_ok_iff.1 h with
  | text | any | content => simp [Value.isEmpty, Strategy.Fills]
  | attr there => simp [Value.isEmpty, Strategy.Fills, there]
  | lacking lacks => simp [Value.isEmpty, Strategy.Fills, lacks]
  | nested extracted => simp [Value.isEmpty, Strategy.Fills]

/-! ## Fields -/

section Select

variable {selector name : String} {strategy : Strategy} {flags : Flags} {node first : ν}
  {more : List ν}

/-- A list field is resolved exactly if every match can be read, and then it is not empty. -/
theorem resolve_list_spec (hselect : Source.select node selector = .ok (first :: more))
    (hlist : flags.asList = true)
    (hread : ∀ m : ν, (∃ v, strategy.read name m = .ok v) ↔ strategy.Admits m) :
    ((∃ v, (Field.select selector strategy flags).resolve name node = .ok v) ↔
        ∀ m ∈ first :: more, strategy.Admits m) ∧
      ∀ v, (Field.select selector strategy flags).resolve name node = .ok v →
        v.isEmpty = false := by
  rw [resolve_list_of_matches hselect hlist]
  constructor
  · have hall : (∀ m ∈ first :: more, strategy.Admits m) ↔
        ∃ items, collect (fun m => strategy.read name m) (first :: more) = .ok items := by
      rw [exists_collect_eq_ok_iff]
      exact forall₂_congr fun m _ => (hread m).symm
    rw [hall]
    cases collect (fun m => strategy.read name m) (first :: more) <;> simp [Except.map]
  · intro v hv
    cases hitems : collect (fun m => strategy.read name m) (first :: more) with
    | error e => simp [hitems, Except.map] at hv
    | ok items =>
        have hlen := length_of_collect hitems
        simp only [hitems, Except.map, Except.ok.injEq] at hv
        cases items with
        | nil => simp at hlen
        | cons item items => simp [← hv, Value.isEmpty]

/-- A single field is resolved exactly if its first match can be read and is not
absent where it is required; it is empty only if the match is. -/
theorem resolve_single_spec (hselect : Source.select node selector = .ok (first :: more))
    (hlist : flags.asList = false)
    (hread : (∃ v, strategy.read name first = .ok v) ↔ strategy.Admits first) :
    ((∃ v, (Field.select selector strategy flags).resolve name node = .ok v) ↔
        strategy.Admits first ∧ (flags.required = true → strategy.Present first)) ∧
      ∀ v, (Field.select selector strategy flags).resolve name node = .ok v →
        (v.isEmpty = false ↔ strategy.Fills first) := by
  rw [resolve_single_of_matches hselect hlist, ← hread]
  cases hv : strategy.read name first with
  | error e => simp
  | ok v =>
      have hpresent := Strategy.isAbsent_eq_false_iff hv
      have hfills := Strategy.isEmpty_eq_false_iff hv
      cases hreq : flags.required with
      | false => simp [hfills]
      | true =>
          cases habsent : v.isAbsent with
          | false => simp [← hpresent, ← hfills, habsent]
          | true => simp [← hpresent, habsent]

end Select

/-- A fallback passes over the alternatives that are not satisfied or yield nothing. -/
theorem Field.passedOver_iff {f : Field} {name : String} {node : ν}
    (hans : Answers ν f.selectors)
    (hok : (∃ v, f.resolve name node = .ok v) ↔ f.Satisfied node)
    (hyields : ∀ v, f.resolve name node = .ok v → (v.isEmpty = false ↔ f.Yields node)) :
    f.PassedOver name node ↔ ¬ (f.Satisfied node ∧ f.Yields node) := by
  rw [← hok]
  cases hres : f.resolve name node with
  | error e =>
      have hmissing := Field.isMissing_of_answers hans hres
      simp [Field.PassedOver, hres, hmissing]
  | ok v =>
      rw [← hyields v hres]
      simp [Field.PassedOver, hres]

/-- A fallback is resolved unless it is required and nothing yields; it is empty
exactly if nothing yields. -/
theorem resolve_firstOf_spec {name : String} {node : ν} {alternatives : List Field} {flags : Flags}
    (hans : ∀ f ∈ alternatives, Answers ν f.selectors)
    (hpassed : ∀ f ∈ alternatives,
      f.PassedOver name node ↔ ¬ (f.Satisfied node ∧ f.Yields node)) :
    ((∃ v, (Field.firstOf alternatives flags).resolve name node = .ok v) ↔
        flags.required = false ∨ SomeYields node alternatives) ∧
      ∀ v, (Field.firstOf alternatives flags).resolve name node = .ok v →
        (v.isEmpty = false ↔ SomeYields node alternatives) := by
  have hnothing : firstFound name node alternatives = .ok none ↔ ¬ SomeYields node alternatives := by
    rw [firstFound_eq_none_iff, someYields_iff, not_exists]
    exact forall_congr' fun f => by
      rw [not_and]
      exact forall_congr' fun hf => hpassed f hf
  rw [resolve_firstOf_eq]
  rcases firstFound_cases name node alternatives with
    ⟨hnone, -⟩ | ⟨before, f, after, hsplit, -, ⟨v, hv, -, hempty⟩ | ⟨e, -, he, hmissing⟩⟩
  · have hnot := hnothing.1 hnone
    rw [hnone]
    cases hreq : flags.required <;> simp [hnot, Value.isEmpty]
  · have hyields : SomeYields node alternatives := by
      by_contra hnot
      rw [hnothing.2 hnot] at hv
      cases hv
    rw [hv]
    simp [hyields, hempty]
  · have hmissing' := Field.isMissing_of_answers (hans f (by simp [hsplit])) he
    rw [hmissing] at hmissing'
    contradiction

/-- A field whose selectors are all answered is resolved exactly where it is
satisfied, and what it finds there is not empty exactly if it yields something. -/
theorem Field.resolve_spec {f : Field} (hans : Answers ν f.selectors) (name : String) (node : ν) :
    ((∃ v, f.resolve name node = .ok v) ↔ f.Satisfied node) ∧
      ∀ v, f.resolve name node = .ok v → (v.isEmpty = false ↔ f.Yields node) := by
  -- Both halves at once: a fallback succeeds only where an alternative yields something.
  induction f using Field.nested_induction generalizing name node with
  | select selector strategy flags ih =>
      have hread : ∀ m : ν, (∃ v, strategy.read name m = .ok v) ↔ strategy.Admits m := by
        intro m
        refine Strategy.exists_read_eq_ok_iff ?_
        rintro s rfl p hp
        exact (ih s rfl p hp (hans.nested.field hp) p.1 m).1
      obtain ⟨nodes, hselect⟩ := hans selector (by simp) node
      rw [Field.Satisfied, Field.Yields, hselect]
      cases nodes with
      | nil =>
          rw [resolve_select_of_nil hselect]
          cases flags.required <;> cases flags.asList <;> simp [Value.isEmpty]
      | cons first more =>
          cases hlist : flags.asList with
          | true => simpa [hlist] using resolve_list_spec hselect hlist hread
          | false => simpa [hlist] using resolve_single_spec hselect hlist (hread first)
  | firstOf alternatives flags ih =>
      rw [Field.Satisfied, Field.Yields]
      refine resolve_firstOf_spec (fun f hf => hans.alternative hf) fun f hf => ?_
      obtain ⟨hok, hyields⟩ := ih f hf (hans.alternative hf) name node
      exact Field.passedOver_iff (hans.alternative hf) hok hyields

/-! ## Schemas -/

/-- **Success is satisfaction**: where all declared selectors are answered, a
schema yields a record exactly at the nodes that satisfy it, and everywhere else
reports a missing field. -/
theorem Schema.extract_ok_iff_satisfied {s : Schema} (hans : Answers ν s.selectors) (root : ν) :
    ((∃ r, s.extract root = .ok r) ↔ s.Satisfied root) ∧
      (¬ s.Satisfied root → ∃ field path selector,
        s.extract root = .error (.missingField field path selector)) := by
  have hok : (∃ r, s.extract root = .ok r) ↔ s.Satisfied root := by
    rw [Schema.exists_extract_eq_ok_iff, Schema.satisfied_iff]
    exact forall₂_congr fun p hp => (Field.resolve_spec (hans.field hp) p.1 root).1
  refine ⟨hok, fun hnot => ?_⟩
  cases hres : s.extract root with
  | ok r => exact absurd (hok.1 ⟨r, hres⟩) hnot
  | error e =>
      obtain ⟨field, path, selector, rfl⟩ :=
        ExtractionError.isMissing_iff.1 (Schema.isMissing_of_answers hans hres)
      exact ⟨field, path, selector, rfl⟩

namespace Satisfaction

/-- A link that is required. -/
def link : Schema := ⟨"Link", [("href", .select "a" (.attr "href") { required := true })]⟩

/-- A list of links that need not be there, and a note to be found in one of three places. -/
def page : Schema := ⟨"Page", [
  ("links", .select "li" (.nested link) { asList := true }),
  ("note", .firstOf [
    .select ".by" (.nested link) {},
    .select ".note" .text { required := true },
    .select "p" .text {}] { required := true })]⟩

/-- An item of a list, with the attributes of the link in it. -/
def item (attributes : List (String × String)) : Listed :=
  .node "" [] [("a", [.node "" attributes []])]

/-- Two items, a node that holds no link, and a paragraph. -/
def full : Listed := .node "" []
  [("li", [item [("href", "/1")], item [("href", "/2")]]), (".by", [.leaf ""]), ("p", [.leaf "x"])]

/-- The second item has a link that leads nowhere. -/
def broken : Listed := .node "" []
  [("li", [item [("href", "/1")], item []]), ("p", [.leaf "x"])]

theorem satisfied_full : page.Satisfied full := by
  simp [page, link, full, item, Listed.leaf, Schema.Satisfied, AllSatisfied, Field.Satisfied,
    SomeYields, Field.Yields, Strategy.Admits, Strategy.Present, Strategy.Fills, Source.select,
    Source.attr?, Source.text, List.lookup_cons, List.lookup_nil]

theorem not_satisfied_broken : ¬ page.Satisfied broken := by
  simp [page, link, broken, item, Listed.leaf, Schema.Satisfied, AllSatisfied, Field.Satisfied,
    Strategy.Admits, Strategy.Present, Source.select, Source.attr?, List.lookup_nil]

/-- The page is extracted where all is there, and misses a field where one of
several matches lacks an attribute. -/
theorem extract_full_broken :
    Answers Listed page.selectors ∧ (∃ r, page.extract full = .ok r) ∧
      ∃ field path selector, page.extract broken = .error (.missingField field path selector) :=
  have hans := Listed.answers page.selectors
  ⟨hans, (Schema.extract_ok_iff_satisfied hans full).1.2 satisfied_full,
    (Schema.extract_ok_iff_satisfied hans broken).2 not_satisfied_broken⟩

end Satisfaction

end Glean
