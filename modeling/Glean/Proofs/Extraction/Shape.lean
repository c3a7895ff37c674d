import Glean.Proofs.Extraction.Listed

/-!
# Glean.Proofs.Extraction.Shape

The shape of what extraction yields.  A schema says of each field what its value
can be (`Field.Conforms`): a text, a record of the nested schema, a list of these,
what some alternative allows, and nothing at all only where the field is not
required.  A record conforms to a schema if it has its name and one conforming
value under each declared name, in order.

Every record that a schema yields conforms to it.  `Value.Occurs` goes through the
whole of a record; whatever is found there follows from the shape of the record in
which it stands: no list holds a list, and each record inside is itself the yield of
a schema that the outer one applies, so what is required is nowhere absent.
-/

namespace Glean

variable {ν : Type} [Source ν]

/-! ## Shapes -/

mutual

/-- The record has the name of the schema and a conforming value for each declared field. -/
def Schema.Conforms : Schema → Record → Prop
  | ⟨name, fields⟩, r => r.schema = name ∧ AllConform fields r.fields

/-- The values stand under the declared names, in order, and conform to the fields. -/
def AllConform : List (String × Field) → List (String × Value) → Prop
  | [], [] => True
  | (name, f) :: rest, (key, v) :: values => key = name ∧ f.Conforms v ∧ AllConform rest values
  | _, _ => False

/-- The value is one that the field can have. -/
def Field.Conforms : Field → Value → Prop
  | .select _ strategy flags, v =>
    if flags.asList then
      ∃ items, v = .list items ∧ (flags.required = true → items ≠ []) ∧
        ∀ item ∈ items, strategy.Conforms item ∨
          ((∃ key, strategy = .attr key) ∧ item = .absent)
    else (v = .absent ∧ flags.required = false) ∨ strategy.Conforms v
  | .firstOf alternatives flags, v =>
    (v = .absent ∧ flags.required = false) ∨ (v.isEmpty = false ∧ SomeConforms alternatives v)

/-- The value is one that some alternative can have. -/
def SomeConforms : List Field → Value → Prop
  | [], _ => False
  | f :: rest, v => f.Conforms v ∨ SomeConforms rest v

/-- The value is one that a match can become: a record of the nested schema, or a text. -/
def Strategy.Conforms : Strategy → Value → Prop
  | .nested s, v => ∃ r, v = .record r ∧ s.Conforms r
  | _, v => ∃ content, v = .text content

end

theorem allConform_iff {fields : List (String × Field)} {values : List (String × Value)} :
    AllConform fields values ↔
      List.Forall₂ (fun p q => q.1 = p.1 ∧ p.2.Conforms q.2) fields values := by
  induction fields generalizing values with
  | nil => cases values <;> simp [AllConform]
  | cons p rest ih =>
      cases values with
      | nil => simp [AllConform]
      | cons q values => simp [AllConform, ih, and_assoc]

theorem Schema.conforms_iff {s : Schema} {r : Record} :
    s.Conforms r ↔ r.schema = s.name ∧
      List.Forall₂ (fun p q => q.1 = p.1 ∧ p.2.Conforms q.2) s.fields r.fields := by
  obtain ⟨name, fields⟩ := s
  rw [Schema.Conforms, allConform_iff]

theorem someConforms_iff {alternatives : List Field} {v : Value} :
    SomeConforms alternatives v ↔ ∃ f ∈ alternatives, f.Conforms v := by
  induction alternatives with
  | nil => simp [SomeConforms]
  | cons f rest ih => simp [SomeConforms, ih]

/-- What a match can become is there. -/
theorem Strategy.Conforms.ne_absent {strategy : Strategy} {v : Value} (h : strategy.Conforms v) :
    v ≠ .absent := by
  rintro rfl
  cases strategy <;> simp [Strategy.Conforms] at h

/-- A required field is not absent. -/
theorem Field.Conforms.ne_absent {f : Field} {v : Value} (h : f.Conforms v)
    (hreq : f.flags.required = true) : v ≠ .absent := by
  cases f with
  | select selector strategy flags =>
      rw [Field.flags] at hreq
      rw [Field.Conforms] at h
      split at h
      · obtain ⟨items, rfl, -⟩ := h
        simp
      · rcases h with ⟨-, hnot⟩ | h
        · simp [hreq] at hnot
        · exact h.ne_absent
  | firstOf alternatives flags =>
      rw [Field.flags] at hreq
      rw [Field.Conforms] at h
      rcases h with ⟨-, hnot⟩ | ⟨hempty, -⟩
      · simp [hreq] at hnot
      · rintro rfl
        simp [Value.isEmpty] at hempty

/-! ## What fields and schemas yield -/

/-- What is read from a match conforms, unless an attribute is lacking. -/
theorem Strategy.conforms_of_read {strategy : Strategy} {name : String} {node : ν} {v : Value}
    (hnested : ∀ s r, strategy = .nested s → s.extract node = .ok r → s.Conforms r)
    (h : strategy.read name node = .ok v) :
    strategy.Conforms v ∨ ((∃ key, strategy = .attr key) ∧ v = .absent) := by
  cases Strategy.read_eq_ok_iff.1 h with
  | text | any | content => exact .inl ⟨_, rfl⟩
  | attr there => exact .inl ⟨_, rfl⟩
  | @lacking key lacks => exact .inr ⟨⟨key, rfl⟩, rfl⟩
  | @nested s r extracted => exact .inl ⟨r, rfl, hnested s r rfl extracted⟩

/-- A schema whose fields yield conforming values yields conforming records. -/
theorem Schema.conforms_of_fields {s : Schema} {root : ν} {r : Record}
    (hfields : ∀ p ∈ s.fields, ∀ v, p.2.resolve p.1 root = .ok v → p.2.Conforms v)
    (h : s.extract root = .ok r) : s.Conforms r := by
  obtain ⟨hname, hvalues⟩ := Schema.extract_eq_ok_iff.1 h
  refine Schema.conforms_iff.2 ⟨hname, ?_⟩
  have hall := (List.forall₂_and_left s.fields r.fields).2 ⟨hfields, hvalues⟩
  exact hall.imp fun p q ⟨hconf, hkey, hres⟩ => ⟨hkey, hconf q.2 hres⟩

/-- The value of a field is one that the field can have. -/
theorem Field.conforms_of_resolve {f : Field} {name : String} {root : ν} {v : Value}
    (h : f.resolve name root = .ok v) : f.Conforms v := by
  induction f using Field.nested_induction generalizing name root v with
  | select selector strategy flags ih =>
      have hread : ∀ (node : ν) (x : Value), strategy.read name node = .ok x →
          strategy.Conforms x ∨ ((∃ key, strategy = .attr key) ∧ x = .absent) := by
        intro node x hx
        refine Strategy.conforms_of_read (fun s r hs hr => ?_) hx
        exact Schema.conforms_of_fields (fun p hp w hw => ih s hs p hp hw) hr
      rw [Field.Conforms]
      rcases resolve_select_ok_cases h with
        ⟨-, hreq, rfl⟩ | ⟨first, more, items, -, hlist, rfl, hitems⟩ |
          ⟨first, more, -, hlist, hfirst, hpresent⟩
      · cases flags.asList <;> simp [hreq]
      · rw [if_pos hlist]
        refine ⟨items, rfl, ?_, ?_⟩
        · rintro - rfl
          cases hitems
        · intro item hitem
          obtain ⟨node, -, hnode⟩ := exists_mem_of_mem_collect (collect_eq_ok_iff.2 hitems) hitem
          exact hread node item hnode
      · rw [if_neg (by simp [hlist])]
        rcases hread first v hfirst with hv | ⟨-, rfl⟩
        · exact .inr hv
        · refine .inl ⟨rfl, ?_⟩
          rw [← Bool.not_eq_true]
          exact fun hreq => hpresent hreq rfl
  | firstOf alternatives flags ih =>
      rw [Field.Conforms, someConforms_iff]
      rcases resolve_firstOf_ok_cases h with ⟨f, hf, hres, hempty⟩ | ⟨-, hreq, rfl⟩
      · exact .inr ⟨hempty, f, hf, ih f hf hres⟩
      · exact .inl ⟨rfl, hreq⟩

/-! ## Inside a record -/

/-- The value `w` stands somewhere in another, as an item or a field, at any depth. -/
inductive Value.Occurs (w : Value) : Value → Prop where
  | here : Occurs w w
  | item {x : Value} {items : List Value} (member : x ∈ items) (inside : Occurs w x) :
      Occurs w (.list items)
  | field {x : Value} {name : String} {r : Record} (member : (name, x) ∈ r.fields)
      (inside : Occurs w x) : Occurs w (.record r)

/-- Nothing but itself occurs in an empty value. -/
theorem Value.Occurs.of_isEmpty {w v : Value} (h : w.Occurs v) (hv : v.isEmpty = true) :
    w = v ∧ ∀ r, w ≠ .record r := by
  cases h with
  | here => exact ⟨rfl, by rintro r rfl; simp [Value.isEmpty] at hv⟩
  | @item x items member inside =>
      rw [Value.isEmpty, List.isEmpty_iff] at hv
      subst hv
      cases member
  | field member inside => simp [Value.isEmpty] at hv

/-- A schema applies itself, and what the nested schemas of its fields apply. -/
inductive Schema.Applies : Schema → Schema → Prop where
  | here {s : Schema} : Applies s s
  | nested {s t u : Schema} {p : String × Field} (declared : p ∈ s.fields)
      (inner : t ∈ p.2.schemas) (rest : Applies t u) : Applies s u

/-- The value itself, or an item of it. -/
def Value.IsOrHolds (v w : Value) : Prop := w = v ∨ ∃ items, v = .list items ∧ w ∈ items

/-- The value is a record that some schema which `s` applies yields at some node, or,
if it is no record, the value of a field of such a record or an item of this value. -/
def Schema.Shows (ν : Type) [Source ν] (s : Schema) (w : Value) : Prop :=
  ∃ t r, ∃ node : ν, s.Applies t ∧ t.extract node = .ok r ∧
    (w = .record r ∨ (∀ r', w ≠ .record r') ∧ ∃ q ∈ r.fields, q.2.IsOrHolds w)

theorem Schema.Shows.of_nested {s t : Schema} {p : String × Field} {w : Value}
    (hp : p ∈ s.fields) (ht : t ∈ p.2.schemas) (h : t.Shows ν w) : s.Shows ν w := by
  obtain ⟨u, r, node, happlies, hrest⟩ := h
  exact ⟨u, r, node, .nested hp ht happlies, hrest⟩

/-- What occurs in the yield of a schema is the yield itself, or occurs in a field. -/
theorem Schema.shows_of_fields {s : Schema} {root : ν} {r : Record} {w : Value}
    (hfields : ∀ p ∈ s.fields, ∀ v, p.2.resolve p.1 root = .ok v → w.Occurs v →
      (∃ t ∈ p.2.schemas, t.Shows ν w) ∨ ((∀ r', w ≠ .record r') ∧ v.IsOrHolds w))
    (h : s.extract root = .ok r) (hw : w.Occurs (.record r)) : s.Shows ν w := by
  cases hw with
  | here => exact ⟨s, r, root, .here, h, .inl rfl⟩
  | @field v name _ member inside =>
      obtain ⟨p, hp, -, hres⟩ := Schema.exists_field_of_mem_fields h member
      rcases hfields p hp v hres inside with ⟨t, ht, hshows⟩ | ⟨hnot, hv⟩
      · exact hshows.of_nested hp ht
      · exact ⟨s, r, root, .here, h, .inr ⟨hnot, (name, v), member, hv⟩⟩

/-- What occurs in what a match becomes is found by the nested schema, or is all of it. -/
theorem Strategy.shows_of_read {strategy : Strategy} {name : String} {node : ν} {v w : Value}
    (hnested : ∀ s r, strategy = .nested s → s.extract node = .ok r → w.Occurs (.record r) →
      s.Shows ν w)
    (h : strategy.read name node = .ok v) (hw : w.Occurs v) :
    (∃ s, strategy = .nested s ∧ s.Shows ν w) ∨ ((∀ r', w ≠ .record r') ∧ w = v) := by
  cases Strategy.read_eq_ok_iff.1 h with
  | @nested s r extracted => exact .inl ⟨s, rfl, hnested s r rfl extracted hw⟩
  | _ =>
      cases hw
      exact .inr ⟨by simp, rfl⟩

/-- What occurs in the value of a field is found by a schema that the field applies,
or is the value or an item of it. -/
theorem Field.shows_of_resolve {f : Field} {name : String} {root : ν} {v w : Value}
    (h : f.resolve name root = .ok v) (hw : w.Occurs v) :
    (∃ t ∈ f.schemas, t.Shows ν w) ∨ ((∀ r', w ≠ .record r') ∧ v.IsOrHolds w) := by
  induction f using Field.nested_induction generalizing name root v with
  | select selector strategy flags ih =>
      have hread : ∀ (node : ν) (x : Value), strategy.read name node = .ok x → w.Occurs x →
          (∃ t ∈ (Field.select selector strategy flags).schemas, t.Shows ν w) ∨
            ((∀ r', w ≠ .record r') ∧ w = x) := by
        intro node x hx hwx
        have hcases := Strategy.shows_of_read (fun s r hs hr hwr =>
          Schema.shows_of_fields (fun p hp u hu hwu => ih s hs p hp hu hwu) hr hwr) hx hwx
        simpa only [Field.mem_schemas_select] using hcases
      rcases resolve_select_ok_cases h with
        ⟨-, -, rfl⟩ | ⟨first, more, items, -, -, rfl, hitems⟩ | ⟨first, more, -, -, hfirst, -⟩
      · obtain ⟨rfl, hnot⟩ := hw.of_isEmpty (by cases flags.asList <;> rfl)
        exact .inr ⟨hnot, .inl rfl⟩
      · cases hw with
        | here => exact .inr ⟨by simp, .inl rfl⟩
        | @item x _ member inside =>
            obtain ⟨node, -, hnode⟩ := exists_mem_of_mem_collect (collect_eq_ok_iff.2 hitems) member
            rcases hread node x hnode inside with hshows | ⟨hnot, rfl⟩
            · exact .inl hshows
            · exact .inr ⟨hnot, .inr ⟨items, rfl, member⟩⟩
      · rcases hread first v hfirst hw with hshows | ⟨hnot, rfl⟩
        · exact .inl hshows
        · exact .inr ⟨hnot, .inl rfl⟩
  | firstOf alternatives flags ih =>
      rcases resolve_firstOf_ok_cases h with ⟨f, hf, hres, -⟩ | ⟨-, -, rfl⟩
      · rcases ih f hf hres hw with ⟨t, ht, hshows⟩ | hv
        · exact .inl ⟨t, Field.mem_schemas_firstOf.2 ⟨f, hf, ht⟩, hshows⟩
        · exact .inr hv
      · obtain ⟨rfl, hnot⟩ := hw.of_isEmpty rfl
        exact .inr ⟨hnot, .inl rfl⟩

/-- No item of a list that a field can have is a list. -/
theorem Field.Conforms.flat {f : Field} {items : List Value} (h : f.Conforms (.list items))
    {inner : List Value} : Value.list inner ∉ items := by
  induction f using Field.nested_induction with
  | select selector strategy flags _ =>
      have hnot : ∀ xs, ¬ strategy.Conforms (.list xs) := by
        intro xs
        cases strategy <;> simp [Strategy.Conforms]
      rw [Field.Conforms] at h
      split at h
      · obtain ⟨_, hitems, -, hall⟩ := h
        injection hitems with hitems
        subst hitems
        intro hinner
        rcases hall _ hinner with hconf | ⟨-, habsent⟩
        · exact hnot inner hconf
        · contradiction
      · rcases h with ⟨habsent, -⟩ | hconf
        · contradiction
        · exact absurd hconf (hnot items)
  | firstOf alternatives flags ih =>
      rw [Field.Conforms, someConforms_iff] at h
      rcases h with ⟨habsent, -⟩ | ⟨-, f, hf, hconf⟩
      · contradiction
      · exact ih f hf hconf

/-! ## Schemas -/

theorem Schema.Conforms.of_extract {s : Schema} {root : ν} {r : Record}
    (h : s.extract root = .ok r) : s.Conforms r :=
  Schema.conforms_of_fields (fun _ _ _ hv => Field.conforms_of_resolve hv) h

/-- In a record that conforms, no required field is absent. -/
theorem Schema.Conforms.present {s : Schema} {r : Record} (h : s.Conforms r) :
    List.Forall₂ (fun p q => p.2.flags.required = true → q.2 ≠ .absent) s.fields r.fields := by
  obtain ⟨-, hvalues⟩ := Schema.conforms_iff.1 h
  exact hvalues.imp fun p q ⟨_, hconf⟩ hreq => hconf.ne_absent hreq

/-- What occurs in the yield of a schema is found by some schema that it applies. -/
theorem Schema.shows_of_extract {s : Schema} {root : ν} {r : Record} {w : Value}
    (h : s.extract root = .ok r) (hw : w.Occurs (.record r)) : s.Shows ν w :=
  Schema.shows_of_fields (fun _ _ _ hv hwv => Field.shows_of_resolve hv hwv) h hw

/-- No list in the yield of a schema, at any depth, holds a list. -/
theorem Schema.flat_of_extract {s : Schema} {root : ν} {r : Record} (h : s.extract root = .ok r)
    {items : List Value} (hitems : (Value.list items).Occurs (.record r)) {inner : List Value} :
    Value.list inner ∉ items := by
  obtain ⟨t, r', node, -, hr', hsame | ⟨-, q, hq, hshown⟩⟩ := Schema.shows_of_extract h hitems
  · contradiction
  · obtain ⟨p, -, -, hres⟩ := Schema.exists_field_of_mem_fields hr' hq
    have hconf : p.2.Conforms q.2 := Field.conforms_of_resolve hres
    rcases hshown with hsame | ⟨outer, houter, hmem⟩
    · rw [← hsame] at hconf
      exact hconf.flat
    · rw [houter] at hconf
      exact absurd hmem hconf.flat

/-- **Records have the shape that is declared**: what a schema yields conforms to it;
inside, at any depth, no list holds a list, and every record is the yield of a schema
that the outer one applies, so it conforms to that one and lacks nothing required. -/
theorem Schema.conforms_of_extract {s : Schema} {root : ν} {r : Record}
    (h : s.extract root = .ok r) :
    s.Conforms r ∧
      (∀ items, (Value.list items).Occurs (.record r) → ∀ inner, Value.list inner ∉ items) ∧
      ∀ r', (Value.record r').Occurs (.record r) →
        ∃ t, ∃ node : ν, s.Applies t ∧ t.extract node = .ok r' ∧ t.Conforms r' ∧
          List.Forall₂ (fun p q => p.2.flags.required = true → q.2 ≠ .absent) t.fields r'.fields := by
  refine ⟨.of_extract h, fun items hitems inner => Schema.flat_of_extract h hitems, ?_⟩
  intro r' hr'
  obtain ⟨t, r'', node, happlies, hextract, hsame | ⟨hnot, -⟩⟩ := Schema.shows_of_extract h hr'
  · injection hsame with hsame
    subst hsame
    have hconf : t.Conforms r' := .of_extract hextract
    exact ⟨t, node, happlies, hextract, hconf, hconf.present⟩
  · exact absurd rfl (hnot r')

namespace Shape

/-- A comment, by someone, with links. -/
def comment : Schema := ⟨"Comment", [
  ("by", .select "b" .text { required := true }),
  ("links", .select "a" (.attr "href") { asList := true })]⟩

/-- A post with comments, a lead to be found in one of three places, and a note. -/
def post : Schema := ⟨"Post", [
  ("comments", .select "li" (.nested comment) { required := true, asList := true }),
  ("lead", .firstOf [.select "h1" .text { required := true },
    .firstOf [.select "img" (.attr "alt") {}, .select "p" (.nested comment) {}] {}]
    { required := true }),
  ("note", .select "i" .content {})]⟩

/-- Two comments, the first with a link that leads nowhere; a paragraph for a lead; no note. -/
def page : Listed := .node "" [] [
  ("li", [
    .node "" [] [("b", [.leaf "x"]), ("a", [.node "" [("href", "/1")] [], .leaf ""])],
    .node "" [] [("b", [.leaf "y"])]]),
  ("img", [.leaf ""]),
  ("p", [.node "" [] [("b", [.leaf ""])]])]

/-- What the schema of the post yields there. -/
def yielded : Record := ⟨"Post", [
  ("comments", .list [
    .record ⟨"Comment", [("by", .text "x"), ("links", .list [.text "/1", .absent])]⟩,
    .record ⟨"Comment", [("by", .text "y"), ("links", .list [])]⟩]),
  ("lead", .record ⟨"Comment", [("by", .text ""), ("links", .list [])]⟩),
  ("note", .absent)]⟩

theorem extract_post : post.extract page = .ok yielded := by
  rfl

/-- The shape of a post on a page with a missing attribute and a nested fallback. -/
theorem conforms_post :
    post.extract page = .ok yielded ∧ post.Conforms yielded ∧
      (∀ items, (Value.list items).Occurs (.record yielded) → ∀ inner, Value.list inner ∉ items) ∧
      ∀ r', (Value.record r').Occurs (.record yielded) →
        ∃ t, ∃ node : Listed, post.Applies t ∧ t.extract node = .ok r' ∧ t.Conforms r' ∧
          List.Forall₂ (fun p q => p.2.flags.required = true → q.2 ≠ .absent) t.fields r'.fields :=
  ⟨extract_post, Schema.conforms_of_extract extract_post⟩

end Shape

end Glean
