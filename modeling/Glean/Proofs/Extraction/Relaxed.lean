import Glean.Proofs.Extraction.Listed

/-!
# Glean.Proofs.Extraction.Relaxed

What is required is checked and never alters a value.  `Schema.RelaxesTo` clears the
flag `required` on any of the declared fields, and in nested schemas that plain fields
apply, to any depth; a schema with more demands then either comes to the same or misses
something (`UpToMissing`).

Alternatives of a fallback keep their nested schemas.  What these demand decides which
alternative a fallback takes, so there a demand does alter the value.
-/

namespace Glean

/-! ## Clearing demands -/

/-- The same flags, maybe without the demand. -/
def Flags.RelaxesTo (flags flags' : Flags) : Prop :=
  flags'.asList = flags.asList ∧ (flags'.required = true → flags.required = true)

/-- The second list declares the same fields with fewer demands, also in the nested
schemas of plain fields. -/
inductive FieldsRelaxTo : List (String × Field) → List (String × Field) → Prop where
  | nil : FieldsRelaxTo [] []
  | flags {name : String} {f : Field} {flags' : Flags} {fields fields' : List (String × Field)}
      (fewer : f.flags.RelaxesTo flags') (rest : FieldsRelaxTo fields fields') :
      FieldsRelaxTo ((name, f) :: fields) ((name, f.withFlags flags') :: fields')
  | nested {name selector schema : String} {flags flags' : Flags}
      {inner inner' fields fields' : List (String × Field)}
      (fewer : flags.RelaxesTo flags') (below : FieldsRelaxTo inner inner')
      (rest : FieldsRelaxTo fields fields') :
      FieldsRelaxTo ((name, .select selector (.nested ⟨schema, inner⟩) flags) :: fields)
        ((name, .select selector (.nested ⟨schema, inner'⟩) flags') :: fields')

/-- The second schema declares the same fields under the same name, with fewer demands. -/
def Schema.RelaxesTo (s s' : Schema) : Prop :=
  s'.name = s.name ∧ FieldsRelaxTo s.fields s'.fields

/-! ## The same, or something is missing -/

/-- Both come to the same, or the first misses something. -/
def UpToMissing {α : Type} (x y : Except ExtractionError α) : Prop :=
  x = y ∨ ∃ e, x = .error e ∧ e.isMissing = true

namespace UpToMissing

variable {α β γ : Type} {x y : Except ExtractionError α}

theorem refl (x : Except ExtractionError α) : UpToMissing x x := .inl rfl

/-- What fails on fewer grounds comes to the same unless the original fails for want of
something. -/
theorem of_demand {b b' : Bool} (h : b' = true → b = true) (name shown shown' : String) :
    UpToMissing (if b then .error (.missing name shown) else x)
      (if b' then .error (.missing name shown') else x) := by
  cases b with
  | true => exact .inr ⟨_, if_pos rfl, rfl⟩
  | false =>
      have hb' : ¬ b' = true := fun hb' => by simpa using h hb'
      rw [if_neg hb']
      exact .refl _

theorem map (h : UpToMissing x y) (k : α → β) : UpToMissing (x.map k) (y.map k) := by
  rcases h with rfl | ⟨e, rfl, hmissing⟩
  · exact .refl _
  · exact .inr ⟨e, rfl, hmissing⟩

theorem collect_cons {f : β → Except ExtractionError α} {g : γ → Except ExtractionError α}
    {b : β} {c : γ} {xs : List β} {ys : List γ} (h : UpToMissing (f b) (g c))
    (hrest : UpToMissing (collect f xs) (collect g ys)) :
    UpToMissing (collect f (b :: xs)) (collect g (c :: ys)) := by
  rcases h with hsame | ⟨e, he, hmissing⟩
  · rw [Glean.collect, Glean.collect, hsame]
    cases g c with
    | error e => exact .refl _
    | ok z => exact hrest.map (z :: ·)
  · exact .inr ⟨e, collect_cons_error he, hmissing⟩

/-- A run along a list misses something where one of its steps does. -/
theorem collect {f g : β → Except ExtractionError α} (h : ∀ x, UpToMissing (f x) (g x))
    (xs : List β) : UpToMissing (collect f xs) (collect g xs) := by
  induction xs with
  | nil => exact .refl _
  | cons x rest ih => exact .collect_cons (h x) ih

end UpToMissing

/-! ## Fields -/

variable {ν : Type} [Source ν]

/-- A field that selects, with fewer demands of its own and of what reads its matches,
comes to the same unless the original misses something. -/
theorem resolve_select_upToMissing {selector name : String} {strategy strategy' : Strategy}
    {flags flags' : Flags} (hflags : flags.RelaxesTo flags')
    (hread : ∀ node : ν, UpToMissing (strategy.read name node) (strategy'.read name node))
    (root : ν) :
    UpToMissing ((Field.select selector strategy flags).resolve name root)
      ((Field.select selector strategy' flags').resolve name root) := by
  obtain ⟨hsame, hreq⟩ := hflags
  cases hselect : Source.select root selector with
  | error e =>
      rw [resolve_select_of_error hselect, resolve_select_of_error hselect]
      exact .refl _
  | ok nodes =>
      cases nodes with
      | nil =>
          rw [resolve_select_of_nil hselect, resolve_select_of_nil hselect, hsame]
          exact .of_demand hreq name selector selector
      | cons first more =>
          cases hlist : flags.asList with
          | true =>
              rw [resolve_list_of_matches hselect hlist,
                resolve_list_of_matches hselect (hsame.trans hlist)]
              exact (UpToMissing.collect hread (first :: more)).map Value.list
          | false =>
              rw [resolve_single_of_matches hselect hlist,
                resolve_single_of_matches hselect (hsame.trans hlist)]
              rcases hread first with hfirst | ⟨e, he, hmissing⟩
              · rw [hfirst]
                cases strategy'.read name first with
                | error e => exact .refl _
                | ok v =>
                    have hlacks : (flags'.required && v.isAbsent) = true →
                        (flags.required && v.isAbsent) = true := by
                      simp only [Bool.and_eq_true]
                      exact fun h => ⟨hreq h.1, h.2⟩
                    exact .of_demand hlacks name (strategy.describe selector)
                      (strategy'.describe selector)
              · rw [he]
                exact .inr ⟨e, rfl, hmissing⟩

/-- A fallback with fewer demands of its own comes to the same unless nothing is found. -/
theorem resolve_firstOf_upToMissing {alternatives : List Field} {flags flags' : Flags}
    (hflags : flags.RelaxesTo flags') (name : String) (root : ν) :
    UpToMissing ((Field.firstOf alternatives flags).resolve name root)
      ((Field.firstOf alternatives flags').resolve name root) := by
  rw [resolve_firstOf_eq, resolve_firstOf_eq]
  cases firstFound name root alternatives with
  | error e => exact .refl _
  | ok found =>
      cases found with
      | some v => exact .refl _
      | none =>
          exact .of_demand hflags.2 name (Field.firstOf alternatives flags).describe
            (Field.firstOf alternatives flags').describe

theorem Field.resolve_withFlags_upToMissing {f : Field} {flags' : Flags}
    (hflags : f.flags.RelaxesTo flags') (name : String) (root : ν) :
    UpToMissing (f.resolve name root) ((f.withFlags flags').resolve name root) := by
  cases f with
  | select selector strategy flags =>
      exact resolve_select_upToMissing hflags (fun node => .refl _) root
  | firstOf alternatives flags => exact resolve_firstOf_upToMissing hflags name root

/-! ## Schemas -/

theorem Strategy.read_nested_upToMissing {s s' : Schema} {node : ν}
    (h : UpToMissing (s.extract node) (s'.extract node)) (name : String) :
    UpToMissing ((Strategy.nested s).read name node) ((Strategy.nested s').read name node) := by
  rw [Strategy.read, Strategy.read]
  rcases h with hsame | ⟨e, he, hmissing⟩
  · rw [hsame]
    exact .refl _
  · rw [he]
    exact .inr ⟨e.within name, rfl, by rwa [ExtractionError.isMissing_within]⟩

/-- Declared fields with fewer demands come to the same unless something is missing. -/
theorem FieldsRelaxTo.collect_upToMissing {fields fields' : List (String × Field)}
    (h : FieldsRelaxTo fields fields') (root : ν) :
    UpToMissing (collect (resolveDeclared root) fields)
      (collect (resolveDeclared root) fields') := by
  -- Each step needs the run along the nested fields at other nodes, so the root varies.
  induction h generalizing root with
  | nil => exact .refl _
  | @flags name f flags' _ _ fewer _ ih =>
      have hf := Field.resolve_withFlags_upToMissing fewer name root
      exact .collect_cons (hf.map (Prod.mk name)) (ih root)
  | @nested name selector schema flags flags' inner inner' _ _ fewer _ _ ihbelow ih =>
      have hread : ∀ node : ν, UpToMissing
          ((Strategy.nested ⟨schema, inner⟩).read name node)
          ((Strategy.nested ⟨schema, inner'⟩).read name node) := by
        intro node
        refine Strategy.read_nested_upToMissing ?_ name
        rw [Schema.extract_eq, Schema.extract_eq]
        exact (ihbelow node).map (Record.mk schema)
      have hf : UpToMissing
          ((Field.select selector (.nested ⟨schema, inner⟩) flags).resolve name root)
          ((Field.select selector (.nested ⟨schema, inner'⟩) flags').resolve name root) :=
        resolve_select_upToMissing fewer hread root
      exact .collect_cons (hf.map (Prod.mk name)) (ih root)

/-- A schema with fewer demands comes to the same unless the original misses something. -/
theorem Schema.RelaxesTo.extract_upToMissing {s s' : Schema} (h : s.RelaxesTo s') (root : ν) :
    UpToMissing (s.extract root) (s'.extract root) := by
  obtain ⟨hname, hfields⟩ := h
  rw [Schema.extract_eq, Schema.extract_eq, hname]
  exact (hfields.collect_upToMissing root).map (Record.mk s.name)

/-- **What is required is only checked**: with fewer demands a schema yields the same
record wherever it yielded one, and where it yields one the original yields the same
or reports a missing field. -/
theorem Schema.extract_relaxed {s s' : Schema} (h : s.RelaxesTo s') (root : ν) :
    (∀ r, s.extract root = .ok r → s'.extract root = .ok r) ∧
      ∀ r, s'.extract root = .ok r → s.extract root = .ok r ∨
        ∃ field path selector, s.extract root = .error (.missingField field path selector) := by
  rcases h.extract_upToMissing root with hsame | ⟨e, he, hmissing⟩
  · rw [hsame]
    exact ⟨fun r hr => hr, fun r hr => .inl hr⟩
  · obtain ⟨field, path, selector, rfl⟩ := ExtractionError.isMissing_iff.1 hmissing
    rw [he]
    exact ⟨fun r hr => (by cases hr), fun r _ => .inr ⟨field, path, selector, rfl⟩⟩

namespace Relaxed

/-- A link and a name, each of which may have to be there. -/
def author (required : Bool) : Schema := ⟨"Author", [
  ("link", .select "a" (.attr "href") { required }),
  ("name", .firstOf [.select "b" .text { required := true }, .select "i" .text {}] { required })]⟩

/-- A list of authors, which may have to be there. -/
def page (required : Bool) : Schema := ⟨"Page", [
  ("title", .select "h1" .text { required := true }),
  ("authors", .select "li" (.nested (author required)) { required, asList := true })]⟩

/-- The demands on the authors are dropped, that on the title is kept. -/
theorem page_relaxesTo : (page true).RelaxesTo (page false) := by
  have fewer (asList : Bool) : Flags.RelaxesTo { required := true, asList } { asList } :=
    ⟨rfl, by simp⟩
  have hauthor : FieldsRelaxTo (author true).fields (author false).fields :=
    .flags (f := .select "a" (.attr "href") { required := true }) (fewer false)
      (.flags (f := .firstOf _ { required := true }) (fewer false) .nil)
  have hkept : Flags.RelaxesTo { required := true } { required := true } := ⟨rfl, id⟩
  exact ⟨rfl, .flags (f := .select "h1" .text { required := true }) hkept
    (.nested (fewer true) hauthor .nil)⟩

/-- An author with a link and a name. -/
def known : Listed := .node "" [] [("a", [.node "" [("href", "/")] []]), ("i", [.leaf "x"])]

def wall (authors : List Listed) : Listed := .node "" [] [("h1", [.leaf "y"]), ("li", authors)]

/-- The record of the page with these authors. -/
def record (authors : List (Value × Value)) : Record := ⟨"Page", [("title", .text "y"),
  ("authors", .list (authors.map fun (link, name) =>
    .record ⟨"Author", [("link", link), ("name", name)]⟩))]⟩

/-- An author that is known is the same with and without the demands; with one that is
not, the page has a record or misses something. -/
theorem extract_page :
    (page true).RelaxesTo (page false) ∧
      (page true).extract (wall [known]) = .ok (record [(.text "/", .text "x")]) ∧
      (page false).extract (wall [known]) = .ok (record [(.text "/", .text "x")]) ∧
      (page false).extract (wall [known, .leaf ""]) =
        .ok (record [(.text "/", .text "x"), (.absent, .absent)]) ∧
      ((page true).extract (wall [known, .leaf ""]) =
          .ok (record [(.text "/", .text "x"), (.absent, .absent)]) ∨
        ∃ field path selector, (page true).extract (wall [known, .leaf ""]) =
          .error (.missingField field path selector)) :=
  ⟨page_relaxesTo, rfl, (Schema.extract_relaxed page_relaxesTo (wall [known])).1 _ rfl, rfl,
    (Schema.extract_relaxed page_relaxesTo (wall [known, .leaf ""])).2 _ rfl⟩

/-- Somewhere an author, or else a name. -/
def byline (required : Bool) : Schema := ⟨"Byline", [
  ("by", .firstOf [.select "li" (.nested (author required)) {}, .select "h1" .text {}] {})]⟩

/-- Below a fallback a demand does alter the value: without it an author of whom nothing is
known is taken. -/
example :
    (byline true).extract (wall [.leaf ""]) = .ok ⟨"Byline", [("by", .text "y")]⟩ ∧
      (byline false).extract (wall [.leaf ""]) = .ok ⟨"Byline", [
        ("by", .record ⟨"Author", [("link", .absent), ("name", .absent)]⟩)]⟩ :=
  ⟨rfl, rfl⟩

end Relaxed

end Glean
