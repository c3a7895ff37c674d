import Glean.Proofs.Extraction.Listed
import Glean.Proofs.Schema.Obtained

/-!
# Glean.Proofs.Extraction.Report

The report of a missing field is true.  From the root a chain of nested fields
leads down, each through a match that the field reads (`Schema.LeadsTo`), to a
node at which a required field lacks something: a match, the attribute of its
only match, or an alternative that finds anything (`Field.Lacks`).  The report
names this field, the fields on the way to it, and what was looked for.

The path is put together from the inside out while the error passes through the
enclosing fields, so the chain is found by induction on the schema, one nested
field per step (`Field.missing_cases`).  No fallback is on the way: what is
missing inside an alternative is passed over and never reported.
-/

namespace Glean

variable {ν : Type} [Source ν]

/-! ## What can be lacking -/

/-- What a required field can lack. -/
inductive Lack where
  | noMatch
  | noAttribute
  | noAlternative
deriving DecidableEq, Repr

/-- The field called `name` lacks something at the node, where `shown` is what it looked for. -/
def Field.Lacks (name : String) (node : ν) (shown : String) (f : Field) : Lack → Prop
  | .noMatch => ∃ strategy flags,
      f = .select shown strategy flags ∧ Source.select node shown = .ok []
  | .noAttribute => ∃ selector key flags first more,
      f = .select selector (.attr key) flags ∧ flags.asList = false ∧
        Source.select node selector = .ok (first :: more) ∧ Source.attr? first key = none ∧
        shown = selector ++ "[" ++ key ++ "]"
  | .noAlternative => ∃ alternatives flags,
      f = .firstOf alternatives flags ∧ (∀ g ∈ alternatives, g.PassedOver name node) ∧
        shown = " | ".intercalate f.leaves

/-- The only thing that a field can lack at a node, read off its matches there. -/
def Field.lackAt (node : ν) : Field → Lack
  | .select selector _ _ =>
    match Source.select node selector with
    | .ok [] => .noMatch
    | _ => .noAttribute
  | .firstOf .. => .noAlternative

/-- A field lacks one thing at a time. -/
theorem Field.Lacks.eq_lackAt {name : String} {node : ν} {shown : String} {f : Field}
    {lack : Lack} (h : f.Lacks name node shown lack) : lack = f.lackAt node := by
  cases lack with
  | noMatch =>
      obtain ⟨strategy, flags, rfl, hselect⟩ := h
      simp only [Field.lackAt, hselect]
  | noAttribute =>
      obtain ⟨selector, key, flags, first, more, rfl, -, hselect, -⟩ := h
      simp only [Field.lackAt, hselect]
  | noAlternative =>
      obtain ⟨alternatives, flags, rfl, -⟩ := h
      rfl

/-! ## The way down -/

/-- From a schema at a node, the nested fields called `names` lead to a schema at
another node, each through a match that it reads. -/
inductive Schema.LeadsTo : Schema → ν → List String → Schema → ν → Prop where
  | here {s : Schema} {node : ν} : LeadsTo s node [] s node
  | nested {s inner last : Schema} {node below end_ : ν} {name selector : String} {flags : Flags}
      {nodes : List ν} {names : List String}
      (declared : s.field? name = some (.select selector (.nested inner) flags))
      (selected : Source.select node selector = .ok nodes)
      (read : flags.Reads nodes below)
      (rest : LeadsTo inner below names last end_) : LeadsTo s node (name :: names) last end_

/-- A missing field is the field itself, which lacks something, or it was missed
by the nested schema at a match that the field reads. -/
theorem Field.missing_cases {f : Field} (hwf : f.WellFormed) (honly : OnlyRefuses ν)
    {name field path shown : String} {root : ν}
    (h : f.resolve name root = .error (.missingField field path shown)) :
    (field = name ∧ path = name ∧ f.flags.required = true ∧ ∃ lack, f.Lacks name root shown lack) ∨
      ∃ selector inner flags nodes below rest, f = .select selector (.nested inner) flags ∧
        Source.select root selector = .ok nodes ∧ flags.Reads nodes below ∧
        inner.extract below = .error (.missingField field rest shown) ∧
        path = name ++ "." ++ rest := by
  cases f with
  | select selector strategy flags =>
      rcases resolve_select_error_cases h with
        hselect | ⟨hselect, hreq, he⟩ | ⟨nodes, below, hselect, hreads, hread⟩ |
          ⟨first, more, key, hselect, hlist, hreq, rfl, hattr, he⟩
      · have hmissing := honly.not_missing hselect
        simp [ExtractionError.isMissing] at hmissing
      · rw [ExtractionError.missing] at he
        injection he with hfield hpath hshown
        subst hshown
        exact .inl ⟨hfield, hpath, hreq, .noMatch, strategy, flags, rfl, hselect⟩
      · obtain ⟨inner, d, rfl, hextract, he⟩ := Strategy.read_eq_error_iff.1 hread
        cases d with
        | missingField field' rest shown' =>
            rw [ExtractionError.within] at he
            injection he with hfield hpath hshown
            subst hfield hshown
            exact .inr ⟨selector, inner, flags, nodes, below, rest, rfl, hselect, hreads,
              hextract, hpath⟩
        | invalidSelector refused detail => cases he
        | conversion field' text cause => cases he
      · rw [ExtractionError.missing, Strategy.describe] at he
        injection he with hfield hpath hshown
        exact .inl ⟨hfield, hpath, hreq, .noAttribute, selector, key, flags, first, more, rfl,
          hlist, hselect, hattr, hshown⟩
  | firstOf alternatives flags =>
      -- What an alternative misses is passed over, so only the fallback itself can be missing.
      rcases resolve_firstOf_error_cases h with ⟨g, -, -, hmissing⟩ | ⟨hall, hreq, he⟩
      · simp [ExtractionError.isMissing] at hmissing
      · rw [ExtractionError.missing, hwf.describe_eq] at he
        injection he with hfield hpath hshown
        exact .inl ⟨hfield, hpath, hreq, .noAlternative, alternatives, flags, rfl, hall, hshown⟩

/-- A missing field was missed at the end of a chain of nested fields. -/
theorem Schema.Sound.exists_lack {s : Schema} (h : s.Sound) (honly : OnlyRefuses ν) {root : ν}
    {field path shown : String}
    (hres : s.extract root = .error (.missingField field path shown)) :
    ∃ names t node f, s.LeadsTo root names t node ∧ t.field? field = some f ∧
      f.flags.required = true ∧ path = ".".intercalate (names ++ [field]) ∧
      ∃ lack, f.Lacks field node shown lack := by
  induction h generalizing root path with
  | @intro s checked inner ih =>
      have hsound : s.Sound := .intro checked inner
      obtain ⟨⟨name, f⟩, hp, hfield⟩ := Schema.exists_field_of_extract_error hres
      have hdeclared : s.field? name = some f := hsound.field?_eq hp
      rcases Field.missing_cases (checked.wellFormed _ hp) honly hfield with
        ⟨rfl, rfl, hreq, hlack⟩ |
          ⟨selector, t, flags, nodes, below, rest, rfl, hselect, hreads, hextract, rfl⟩
      · exact ⟨[], s, root, f, .here, hdeclared, hreq, by simp, hlack⟩
      · obtain ⟨names, last, node, g, hleads, hg, hreq, rfl, hlack⟩ :=
          ih _ hp t (by simp) hextract
        refine ⟨name :: names, last, node, g, .nested hdeclared hselect hreads hleads, hg, hreq, ?_,
          hlack⟩
        rw [List.cons_append, String.intercalate_cons_of_ne_nil (by simp)]

/-- **Every report of a missing field is true**: on a source that fails only by
refusing selectors, a chain of nested fields leads from the root to a required
field that lacks exactly one thing there; the report names this field, joins the
names on the way to it, and shows what was looked for. -/
theorem Schema.Obtained.missing_report {s : Schema} (h : s.Obtained) (honly : OnlyRefuses ν)
    {root : ν} {field path shown : String}
    (hres : s.extract root = .error (.missingField field path shown)) :
    ∃ names t node f, s.LeadsTo root names t node ∧ t.field? field = some f ∧
      f.flags.required = true ∧ path = ".".intercalate (names ++ [field]) ∧
      ∃! lack, f.Lacks field node shown lack := by
  obtain ⟨names, t, node, f, hleads, hf, hreq, hpath, lack, hlack⟩ := h.sound.exists_lack honly hres
  refine ⟨names, t, node, f, hleads, hf, hreq, hpath, lack, hlack, ?_⟩
  intro other hother
  rw [hother.eq_lackAt, hlack.eq_lackAt]

namespace Report

/-- A name to be found in one of three places. -/
def author : Schema := ⟨"Author", [
  ("name", .firstOf [.select "b" .text {},
    .firstOf [.select "a" (.attr "title") {}, .select "i" .text { required := true }] {}]
    { required := true })]⟩

/-- An author that need not be there. -/
def post : Schema := ⟨"Post", [("author", .select ".by" (.nested author) {})]⟩

/-- All posts. -/
def feed : Schema := ⟨"Feed", [("posts", .select "li" (.nested post) { asList := true })]⟩

/-- Three posts: one without an author, one with a name, and one with an empty link only. -/
def wall : Listed := .node "" [] [("li", [
  .leaf "",
  .node "" [] [(".by", [.node "" [] [("i", [.leaf "x"])]])],
  .node "" [] [(".by", [.node "" [] [("a", [.leaf "y"])]])]])]

theorem obtained_feed : feed.Obtained := by
  have hauthor : author.Obtained :=
    .built (b := ⟨author.name, author.fields⟩) rfl (by simp [author])
  have hpost : post.Obtained :=
    .built (b := ⟨post.name, post.fields⟩) rfl (by simpa [post] using hauthor)
  exact .built (b := ⟨feed.name, feed.fields⟩) rfl (by simpa [feed] using hpost)

theorem missing_name :
    feed.extract wall = .error (.missingField "name" "posts.author.name" "b | a | i") := by
  rfl

/-- The last post is at the end of the chain that the report of the feed tells of. -/
theorem missing_report_feed :
    feed.Obtained ∧ OnlyRefuses Listed ∧
      ∃ names t node f, feed.LeadsTo wall names t node ∧ t.field? "name" = some f ∧
        f.flags.required = true ∧ "posts.author.name" = ".".intercalate (names ++ ["name"]) ∧
        ∃! lack, f.Lacks "name" node "b | a | i" lack :=
  ⟨obtained_feed, Listed.onlyRefuses,
    Schema.Obtained.missing_report obtained_feed Listed.onlyRefuses missing_name⟩

end Report

end Glean
