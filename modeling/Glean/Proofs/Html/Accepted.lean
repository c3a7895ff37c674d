import Glean.Html.Source
import Glean.Proofs.Extraction.Refusal
import Glean.Proofs.Schema.Obtained

/-!
# Glean.Proofs.Html.Accepted

A schema that has been obtained fails on an HTML document only by missing a
field.  A root refuses exactly the selectors that cannot be read
(`select_of_parse`, `select_of_parse_error`), all that a schema declares have
been read when it was built, and extraction asks for no others.  What is left is the one selector that
a caller gives by hand for many records: that one can be refused, and then it is
named together with the reason for which it cannot be read.
-/

namespace Glean

/-! ## Roots -/

namespace Html.Root

theorem select_of_parse {selector : String} {parsed : Css.SelectorList}
    (h : Css.parse selector = .ok parsed) (root : Root) :
    Source.select root selector = .ok ((root.select parsed).map .element) := by
  simp only [Source.select, h]

theorem select_of_parse_error {selector : String} {cause : Css.SelectorError}
    (h : Css.parse selector = .error cause) (root : Root) :
    Source.select root selector = .error (.invalidSelector selector cause.message) := by
  simp only [Source.select, h]

/-- A root answers all selectors that can be read. -/
theorem answers {selectors : List String}
    (h : ∀ selector ∈ selectors, ∃ parsed, Css.parse selector = .ok parsed) :
    Answers Root selectors := by
  intro selector hselector root
  obtain ⟨parsed, hparsed⟩ := h selector hselector
  exact ⟨_, select_of_parse hparsed root⟩

end Html.Root

/-! ## Outcomes -/

/-- The outcome is a result or the report of a missing field. -/
def FindsOrMisses {α : Type} (outcome : Except ExtractionError α) : Prop :=
  (∃ a, outcome = .ok a) ∨
    ∃ field path selector, outcome = .error (.missingField field path selector)

theorem FindsOrMisses.of_error {α : Type} {outcome : Except ExtractionError α}
    (h : ∀ e, outcome = .error e → e.isMissing = true) : FindsOrMisses outcome := by
  cases outcome with
  | ok a => exact .inl ⟨a, rfl⟩
  | error e =>
      obtain ⟨field, path, selector, rfl⟩ := ExtractionError.isMissing_iff.1 (h e rfl)
      exact .inr ⟨field, path, selector, rfl⟩

/-- A sound schema finds or misses at every root. -/
theorem Schema.Sound.extract_findsOrMisses {s : Schema} (h : s.Sound) (root : Html.Root) :
    FindsOrMisses (s.extract root) :=
  .of_error fun _ he => Schema.isMissing_of_answers (Html.Root.answers h.parses) he

/-- The outcome is a result or the report of a missing field, unless the selector
cannot be read: then it is the refusal of this selector, with the reason. -/
def FindsOrMissesUnlessRefused {α : Type} (selector : String)
    (outcome : Except ExtractionError α) : Prop :=
  match Css.parse selector with
  | .ok _ => FindsOrMisses outcome
  | .error cause => outcome = .error (.invalidSelector selector cause.message)

/-- With a sound schema the only refusal that many records can meet is that of
the selector given for them. -/
theorem Schema.Sound.extractAll_findsOrMisses {s : Schema} (h : s.Sound) (root : Html.Root)
    (selector : String) : FindsOrMissesUnlessRefused selector (s.extractAll root selector) := by
  rw [FindsOrMissesUnlessRefused]
  cases hparse : Css.parse selector with
  | error cause => simp only [Schema.extractAll, Html.Root.select_of_parse_error hparse]
  | ok parsed =>
      refine .of_error fun e he => ?_
      simp only [Schema.extractAll, Html.Root.select_of_parse hparse] at he
      obtain ⟨node, -, hnode⟩ := exists_mem_of_collect_error he
      exact Schema.isMissing_of_answers (Html.Root.answers h.parses) hnode

/-- **Building covers every selector that is ever run**: a schema that has been
obtained is never refused a selector of its own, on any document and from any
element, and never fails to convert; only the selector given for many records
can be refused. -/
theorem Schema.Obtained.findsOrMisses {s : Schema} (h : s.Obtained) :
    (∀ html, FindsOrMisses (s.parse html)) ∧
      (∀ root : Html.Root, FindsOrMisses (s.extract root)) ∧
      (∀ html selector, FindsOrMissesUnlessRefused selector (s.parseAll html selector)) ∧
      ∀ (root : Html.Root) selector,
        FindsOrMissesUnlessRefused selector (s.extractAll root selector) :=
  ⟨fun html => h.sound.extract_findsOrMisses (.document (Html.parse html)),
    h.sound.extract_findsOrMisses,
    fun html => h.sound.extractAll_findsOrMisses (.document (Html.parse html)),
    h.sound.extractAll_findsOrMisses⟩

namespace Accepted

/-- A required link, as a configuration. -/
def link : SchemaConfig :=
  ⟨"Link", [⟨"href", .attr, "a", true, false, some "href", none, []⟩]⟩

/-- The schema of a required link. -/
def linkSchema : Schema := ⟨"Link", [("href", .select "a" (.attr "href") { required := true })]⟩

/-- A page with configured links in a list and behind a fallback. -/
def page : Builder := ⟨"Page", [
  ("links", .select "li" (.nested linkSchema) { asList := true }),
  ("note", .firstOf [.select ".by" (.nested linkSchema) {}, .select "p" .text {}] {})]⟩

theorem obtained_page : (Schema.mk page.name page.fields).Obtained := by
  have hlink : linkSchema.Obtained := .configured (c := link) rfl
  have hall : ∀ p ∈ page.fields, ∀ t ∈ p.2.schemas, t = linkSchema := by
    simp [page, eq_comm]
  refine .built (b := page) rfl ?_
  intro p hp t ht
  rw [hall p hp t ht]
  exact hlink

/-- The page on a document in which the second item lacks its link, and for all
items of a list whose selector cannot be read. -/
theorem findsOrMisses_page :
    (Schema.mk page.name page.fields).Obtained ∧
      FindsOrMisses ((Schema.mk page.name page.fields).parse "<li><a href=/1>1</a><li>2<p>x") ∧
      FindsOrMissesUnlessRefused "li["
        ((Schema.mk page.name page.fields).parseAll "<li><a href=/1>1</a>" "li[") :=
  have h := Schema.Obtained.findsOrMisses obtained_page
  ⟨obtained_page, h.1 _, h.2.2.1 _ _⟩

end Accepted

end Glean
