import Glean.Proofs.Extraction.Agreement

/-!
# Glean.Proofs.Extraction.FailFast

Extraction ends with its first failure, in the order in which fields are declared
and, below a list field, in the order of the matches.  Two runs that have the same
in front of the failure fail alike, whatever stands behind it: `Schema.FailsAlike`
follows the chain of nested fields down to the innermost failure and says at each
level what the two runs have to share.

What stands behind the failure still counts where something in front reads it too: a
node that a field in front matches, and the schema of a list field.  It is applied to
every match, so a field that is declared behind the failing one is still asked for at the
matches in front of the failing one, and can fail there first.  The matches in front
must therefore be extracted by the changed schema too (`Schema.Passes`), as they are
by any schema that merely declares less (`TrimsTo`).
-/

namespace Glean

variable {ν μ : Type} [Source ν] [Source μ]

/-! ## Nested fields -/

section Nested

variable {selector name : String} {s : Schema} {flags : Flags} {root first : ν} {more : List ν}

/-- A single nested field is its first match read: a record is never absent. -/
theorem resolve_single_nested (hselect : Source.select root selector = .ok (first :: more))
    (hlist : flags.asList = false) :
    (Field.select selector (.nested s) flags).resolve name root =
      (Strategy.nested s).read name first := by
  rw [resolve_single_of_matches hselect hlist, Strategy.read]
  cases s.extract first <;> simp [Value.isAbsent]

/-- A list of nested records fails with its selector, for want of a required match, or
at the first match that its schema fails on. -/
theorem resolve_list_nested_eq_error_iff (hlist : flags.asList = true) {e : ExtractionError} :
    (Field.select selector (.nested s) flags).resolve name root = .error e ↔
      Source.select root selector = .error e ∨
        (Source.select root selector = .ok [] ∧ flags.required = true ∧
          e = .missing name selector) ∨
        ∃ before node after d, Source.select root selector = .ok (before ++ node :: after) ∧
          (∀ m ∈ before, ∃ r, s.extract m = .ok r) ∧ s.extract node = .error d ∧
          e = d.within name := by
  cases hselect : Source.select root selector with
  | error d => simp [resolve_select_of_error hselect]
  | ok nodes =>
      cases nodes with
      | nil =>
          rw [resolve_select_of_nil hselect]
          cases hreq : flags.required <;> simp [eq_comm (a := e)]
      | cons first more =>
          rw [resolve_list_of_matches hselect hlist, map_eq_error_iff, collect_eq_error_iff]
          simp [Strategy.exists_read_nested_iff, Strategy.read_eq_error_iff]

/-- A nested field is resolved exactly if its selector is answered, with a match where
one is required, and its schema extracts every match that the field reads. -/
theorem exists_resolve_nested_iff :
    (∃ v, (Field.select selector (.nested s) flags).resolve name root = .ok v) ↔
      ∃ nodes, Source.select root selector = .ok nodes ∧
        (nodes = [] → flags.required = false) ∧
        ∀ node, flags.Reads nodes node → ∃ r, s.extract node = .ok r := by
  cases hselect : Source.select root selector with
  | error e => simp [resolve_select_of_error hselect]
  | ok nodes =>
      cases nodes with
      | nil =>
          rw [resolve_select_of_nil hselect]
          cases hreq : flags.required <;> simp [Flags.Reads]
      | cons first more =>
          cases hlist : flags.asList with
          | true =>
              have hall : (∃ items, collect (fun node => (Strategy.nested s).read name node)
                  (first :: more) = .ok items) ↔
                    ∀ node ∈ first :: more, ∃ r, s.extract node = .ok r := by
                rw [exists_collect_eq_ok_iff]
                simp only [Strategy.exists_read_nested_iff]
              rw [resolve_list_of_matches hselect hlist]
              simp only [Flags.Reads, hlist, if_true, Except.ok.injEq, exists_eq_left', ← hall]
              cases collect (fun node => (Strategy.nested s).read name node) (first :: more) <;>
                simp [Except.map]
          | false =>
              rw [resolve_single_nested hselect hlist, Strategy.exists_read_nested_iff]
              simp [Flags.Reads, hlist]

end Nested

/-! ## Declaring less -/

/-- The second list of fields declares less than the first: some of the fields are
dropped, and the nested schemas of others declare less in turn. -/
inductive TrimsTo : List (String × Field) → List (String × Field) → Prop where
  | nil : TrimsTo [] []
  | drop {p : String × Field} {fields fields' : List (String × Field)}
      (rest : TrimsTo fields fields') : TrimsTo (p :: fields) fields'
  | keep {p : String × Field} {fields fields' : List (String × Field)}
      (rest : TrimsTo fields fields') : TrimsTo (p :: fields) (p :: fields')
  | nested {name selector : String} {s s' : Schema} {flags : Flags}
      {fields fields' : List (String × Field)} (inner : TrimsTo s.fields s'.fields)
      (rest : TrimsTo fields fields') :
      TrimsTo ((name, .select selector (.nested s) flags) :: fields)
        ((name, .select selector (.nested s') flags) :: fields')

/-- Where all fields are resolved, so are those of a list that declares less. -/
theorem TrimsTo.resolves {fields fields' : List (String × Field)} (h : TrimsTo fields fields')
    {root : ν} (hall : ∀ p ∈ fields, ∃ v, p.2.resolve p.1 root = .ok v) :
    ∀ p ∈ fields', ∃ v, p.2.resolve p.1 root = .ok v := by
  induction h generalizing root with
  | nil => exact hall
  | drop rest ih => exact ih (List.forall_mem_cons.1 hall).2
  | keep rest ih =>
      obtain ⟨hp, hfields⟩ := List.forall_mem_cons.1 hall
      exact List.forall_mem_cons.2 ⟨hp, ih hfields⟩
  | nested inner rest ihinner ihrest =>
      obtain ⟨hp, hfields⟩ := List.forall_mem_cons.1 hall
      obtain ⟨nodes, hselect, hreq, hreads⟩ := exists_resolve_nested_iff.1 hp
      refine List.forall_mem_cons.2 ⟨?_, ihrest hfields⟩
      refine exists_resolve_nested_iff.2 ⟨nodes, hselect, hreq, fun node hnode => ?_⟩
      exact Schema.exists_extract_eq_ok_iff.2
        (ihinner (Schema.exists_extract_eq_ok_iff.1 (hreads node hnode)))

/-- The changed schema `s'` extracts the matches in front of the failing one, as `s`
does: by itself, or because it declares less and the matches are the same to `s`. -/
def Schema.Passes (s s' : Schema) (before : List ν) (before' : List μ) : Prop :=
  (∀ n ∈ before', ∃ r, s'.extract n = .ok r) ∨
    (TrimsTo s.fields s'.fields ∧ List.Forall₂ (fun m n => s.Agree m n) before before')

theorem Schema.Passes.extracts {s s' : Schema} {before : List ν} {before' : List μ}
    (h : s.Passes s' before before') (hok : ∀ m ∈ before, ∃ r, s.extract m = .ok r) :
    ∀ n ∈ before', ∃ r, s'.extract n = .ok r := by
  rcases h with hall | ⟨htrims, hagree⟩
  · exact hall
  · induction hagree with
    | nil => simp
    | @cons m n _ _ hmn _ ih =>
        obtain ⟨hm, hrest⟩ := List.forall_mem_cons.1 hok
        refine List.forall_mem_cons.2 ⟨Schema.exists_extract_eq_ok_iff.2 ?_, ih hrest⟩
        refine htrims.resolves fun p hp => ?_
        rw [← Field.resolve_congr (Schema.agree_iff.1 hmn p hp)]
        exact Schema.exists_extract_eq_ok_iff.1 hm p hp

/-! ## Two failing runs -/

/-- The field `f` of `s`, applied to `a`, and the field `f'` of `s'`, applied to `b`,
have the same in front of them: the same fields, all resolved, for which the two
nodes agree.  The fields behind them are of no concern. -/
def SameUpTo (s : Schema) (a : ν) (s' : Schema) (b : μ) (name : String) (f f' : Field) : Prop :=
  ∃ before after after', s.fields = before ++ (name, f) :: after ∧
    s'.fields = before ++ (name, f') :: after' ∧
    ∀ p ∈ before, (∃ v, p.2.resolve p.1 a = .ok v) ∧ p.2.Agree a b

/-- Two fields fail alike: they are one field and fail of themselves, at nodes that
agree on it, or what fails alike is a nested schema, at a match that either field
reads, or an alternative that either fallback tries. -/
inductive Field.FailsAlike : String → Field → ν → Field → μ → ExtractionError → Prop where
  | same {name : String} {f : Field} {a : ν} {b : μ} {e : ExtractionError}
      (fails : f.resolve name a = .error e) (agree : f.Agree a b) : FailsAlike name f a f b e
  | first {name selector : String} {s s' : Schema} {flags : Flags} {a m : ν} {b n : μ}
      {after : List ν} {after' : List μ} {key : String} {f f' : Field} {e : ExtractionError}
      (single : flags.asList = false)
      (selected : Source.select a selector = .ok (m :: after))
      (selected' : Source.select b selector = .ok (n :: after'))
      (front : SameUpTo s m s' n key f f') (inner : FailsAlike key f m f' n e) :
      FailsAlike name (.select selector (.nested s) flags) a
        (.select selector (.nested s') flags) b (e.within name)
  | listed {name selector : String} {s s' : Schema} {flags : Flags} {a m : ν} {b n : μ}
      {before after : List ν} {before' after' : List μ} {key : String} {f f' : Field}
      {e : ExtractionError} (list : flags.asList = true)
      (selected : Source.select a selector = .ok (before ++ m :: after))
      (selected' : Source.select b selector = .ok (before' ++ n :: after'))
      (extracted : ∀ x ∈ before, ∃ r, s.extract x = .ok r) (passes : s.Passes s' before before')
      (front : SameUpTo s m s' n key f f') (inner : FailsAlike key f m f' n e) :
      FailsAlike name (.select selector (.nested s) flags) a
        (.select selector (.nested s') flags) b (e.within name)
  | alternative {name : String} {before after after' : List Field} {f f' : Field} {flags : Flags}
      {a : ν} {b : μ} {e : ExtractionError}
      (passed : ∀ g ∈ before, g.PassedOver name a ∧ g.Agree a b)
      (inner : FailsAlike name f a f' b e) (hard : e.isMissing = false) :
      FailsAlike name (.firstOf (before ++ f :: after) flags) a
        (.firstOf (before ++ f' :: after') flags) b e

/-- Two runs have the same in front of the first failure, which is alike. -/
def Schema.FailsAlike (s : Schema) (a : ν) (s' : Schema) (b : μ) (e : ExtractionError) : Prop :=
  ∃ name f f', SameUpTo s a s' b name f f' ∧ Field.FailsAlike name f a f' b e

section Alike

variable {s s' : Schema} {name : String} {f f' : Field} {a : ν} {b : μ} {e : ExtractionError}

/-- Schemas with the same in front of failing fields fail with them. -/
theorem SameUpTo.extract_eq_error (h : SameUpTo s a s' b name f f')
    (hf : f.resolve name a = .error e) (hf' : f'.resolve name b = .error e) :
    s.extract a = .error e ∧ s'.extract b = .error e := by
  obtain ⟨before, after, after', hfields, hfields', hbefore⟩ := h
  constructor
  · exact Schema.extract_eq_error_iff.2
      ⟨before, (name, f), after, hfields, fun p hp => (hbefore p hp).1, hf⟩
  · refine Schema.extract_eq_error_iff.2 ⟨before, (name, f'), after', hfields', fun p hp => ?_, hf'⟩
    rw [← Field.resolve_congr (hbefore p hp).2]
    exact (hbefore p hp).1

/-- The nested record of a field that fails is reported under the field. -/
theorem resolve_first_eq_error {selector : String} {flags : Flags} {m : ν} {after : List ν}
    (hlist : flags.asList = false) (hselect : Source.select a selector = .ok (m :: after))
    (hextract : s.extract m = .error e) :
    (Field.select selector (.nested s) flags).resolve name a = .error (e.within name) := by
  rw [resolve_single_nested hselect hlist]
  exact Strategy.read_eq_error_iff.2 ⟨s, e, rfl, hextract, rfl⟩

/-- A fallback fails with the first alternative that it does not pass over. -/
theorem resolve_firstOf_eq_error {before after : List Field} {flags : Flags}
    (hbefore : ∀ g ∈ before, g.PassedOver name a) (hf : f.resolve name a = .error e)
    (hard : e.isMissing = false) :
    (Field.firstOf (before ++ f :: after) flags).resolve name a = .error e := by
  rw [resolve_firstOf_eq, firstFound_append hbefore, firstFound_of_failed hf hard]

/-- A fallback passes over the same alternatives at nodes that agree on them. -/
theorem Field.PassedOver.of_agree (h : f.PassedOver name a) (hagree : f.Agree a b) :
    f.PassedOver name b := by
  rw [Field.PassedOver, ← Field.resolve_congr hagree]
  exact h

/-- Two fields that fail alike fail with the same error. -/
theorem Field.FailsAlike.resolve_eq_error (h : Field.FailsAlike name f a f' b e) :
    f.resolve name a = .error e ∧ f'.resolve name b = .error e := by
  induction h with
  | same fails agree =>
      refine ⟨fails, ?_⟩
      rw [← Field.resolve_congr agree]
      exact fails
  | first single selected selected' front _ ih =>
      obtain ⟨hextract, hextract'⟩ := front.extract_eq_error ih.1 ih.2
      exact ⟨resolve_first_eq_error single selected hextract,
        resolve_first_eq_error single selected' hextract'⟩
  | listed list selected selected' extracted passes front _ ih =>
      obtain ⟨hextract, hextract'⟩ := front.extract_eq_error ih.1 ih.2
      constructor
      · exact (resolve_list_nested_eq_error_iff list).2
          (.inr (.inr ⟨_, _, _, _, selected, extracted, hextract, rfl⟩))
      · exact (resolve_list_nested_eq_error_iff list).2
          (.inr (.inr ⟨_, _, _, _, selected', passes.extracts extracted, hextract', rfl⟩))
  | alternative passed _ hard ih =>
      constructor
      · exact resolve_firstOf_eq_error (fun g hg => (passed g hg).1) ih.1 hard
      · exact resolve_firstOf_eq_error (fun g hg => (passed g hg).1.of_agree (passed g hg).2)
          ih.2 hard

/-- Two runs that fail alike fail with the same error. -/
theorem Schema.FailsAlike.extract_eq_error (h : s.FailsAlike a s' b e) :
    s.extract a = .error e ∧ s'.extract b = .error e := by
  obtain ⟨name, f, f', hfront, hfails⟩ := h
  obtain ⟨hf, hf'⟩ := hfails.resolve_eq_error
  exact hfront.extract_eq_error hf hf'

end Alike

/-- **Fail-fast order**: extraction fails with the first declared field that does not
resolve, a list of nested records with its first match that is not extracted, and
runs that have the same in front of the failure fail alike, whatever is changed,
added or dropped behind it; a record that is returned is whole. -/
theorem Schema.extract_failFast (s : Schema) (root : ν) :
    (∀ e, s.extract root = .error e ↔
      ∃ before p after, s.fields = before ++ p :: after ∧
        (∀ q ∈ before, ∃ v, q.2.resolve q.1 root = .ok v) ∧ p.2.resolve p.1 root = .error e) ∧
    (∀ name selector t flags e, flags.asList = true →
      ((Field.select selector (.nested t) flags).resolve name root = .error e ↔
        Source.select root selector = .error e ∨
          (Source.select root selector = .ok [] ∧ flags.required = true ∧
            e = .missing name selector) ∨
          ∃ before node after d, Source.select root selector = .ok (before ++ node :: after) ∧
            (∀ m ∈ before, ∃ r, t.extract m = .ok r) ∧ t.extract node = .error d ∧
            e = d.within name)) ∧
    (∀ s' (b : μ) e, s.FailsAlike root s' b e →
      s.extract root = .error e ∧ s'.extract b = .error e) ∧
    ∀ r, s.extract root = .ok r → r.schema = s.name ∧
      List.Forall₂ (fun p q => q.1 = p.1 ∧ p.2.resolve p.1 root = .ok q.2) s.fields r.fields := by
  refine ⟨fun e => Schema.extract_eq_error_iff, ?_, ?_, fun r => Schema.extract_eq_ok_iff.1⟩
  · intro name selector t flags e hlist
    exact resolve_list_nested_eq_error_iff hlist
  · intro s' b e h
    exact h.extract_eq_error

namespace FailFast

/-- A name that has to be there, and more fields behind it. -/
def author (more : List (String × Field)) : Schema :=
  ⟨"Author", ("name", .select "b" .text { required := true }) :: more⟩

/-- All posts with their authors, and more fields behind them. -/
def feed (inner more : List (String × Field)) : Schema :=
  ⟨"Feed", ("posts", .select "li" (.nested ⟨"Post",
    [("author", .select ".by" (.nested (author inner)) {})]⟩) { asList := true }) :: more⟩

def note : String × Field := ("note", .select "i" .text { required := true })

/-- Someone with a name and a note. -/
def known : Listed := .node "" [] [("b", [.leaf "x"]), ("i", [.leaf "y"])]

def post (by_ : Listed) : Listed := .node "" [] [(".by", [by_])]

def noted : Listed := post known

def signed : Listed := post (.node "" [] [("b", [.leaf "x"])])

def anonymous : Listed := post (.leaf "")

def wall (posts : List Listed) : Listed := .node "" [] [("li", posts)]

theorem failsAlike_feed :
    (feed [] [note]).FailsAlike (wall [noted, anonymous, noted]) (feed [note] [])
      (wall [noted, anonymous, signed]) (.missingField "name" "posts.author.name" "b") := by
  have hli : Source.select (wall [noted, anonymous, noted]) "li" =
      .ok ([noted] ++ anonymous :: [noted]) := rfl
  have hli' : Source.select (wall [noted, anonymous, signed]) "li" =
      .ok ([noted] ++ anonymous :: [signed]) := rfl
  have hby : Source.select anonymous ".by" = .ok (.leaf "" :: []) := rfl
  have hname : Field.FailsAlike "name" (.select "b" .text { required := true }) (Listed.leaf "")
      (.select "b" .text { required := true }) (Listed.leaf "") (.missing "name" "b") :=
    .same rfl (by simp [Field.Agree, Source.select, Listed.leaf])
  have hauthor : Field.FailsAlike "author" (.select ".by" (.nested (author [])) {}) anonymous
      (.select ".by" (.nested (author [note])) {}) anonymous
      ((ExtractionError.missing "name" "b").within "author") :=
    .first rfl hby hby ⟨[], _, _, rfl, rfl, by simp⟩ hname
  refine ⟨"posts", _, _, ⟨[], _, _, rfl, rfl, by simp⟩, ?_⟩
  refine .listed rfl hli hli' ?_ (.inl ?_) ⟨[], _, _, rfl, rfl, by simp⟩ hauthor
  · exact List.forall_mem_singleton.2 ⟨_, rfl⟩
  · exact List.forall_mem_singleton.2 ⟨_, rfl⟩

/-- The first post without a name is reported, whatever is asked for behind the name,
as long as the posts in front of it have that too. -/
theorem extract_anonymous :
    (feed [] [note]).FailsAlike (wall [noted, anonymous, noted]) (feed [note] [])
        (wall [noted, anonymous, signed]) (.missingField "name" "posts.author.name" "b") ∧
      (feed [] [note]).extract (wall [noted, anonymous, noted]) =
        .error (.missingField "name" "posts.author.name" "b") ∧
      (feed [note] []).extract (wall [noted, anonymous, signed]) =
        .error (.missingField "name" "posts.author.name" "b") :=
  ⟨failsAlike_feed, (Schema.extract_failFast _ _).2.2.1 _ _ _ failsAlike_feed⟩

/-- A listed node that refuses two selectors. -/
structure Guarded where
  listed : Listed

instance : Source Guarded where
  select node selector :=
    if selector ∈ ["!", "?"] then .error (.invalidSelector selector "unexpected character")
    else (Source.select node.listed selector).map (List.map Guarded.mk)
  text node := Source.text node.listed
  attr? node := Source.attr? node.listed

/-- A link that cannot be read, and more fields behind it. -/
def part (more : List (String × Field)) : Schema :=
  ⟨"Part", ("link", .select "a" (.nested ⟨"Link", [("href", .select "!" .text {})]⟩) {}) :: more⟩

/-- All items, each with its part if it has one. -/
def page (inner : List (String × Field)) : Schema :=
  ⟨"Page", [("items", .select "li" (.nested ⟨"Item",
    [("part", .firstOf [.select "p" (.nested (part inner)) {}] {})]⟩) { asList := true })]⟩

def title : String × Field := ("title", .select "h1" .text { required := true })

def rest : String × Field := ("rest", .select "?" .text {})

/-- An item whose part is blank, and one whose part has a link. -/
def items : Guarded := .mk (.node "" [] [("li", [
  .node "" [] [("p", [.leaf ""])],
  .node "" [] [("p", [.node "" [] [("a", [.leaf ""])]])]])])

/-- The notes of all entries, and then their names. -/
def digest : Schema := ⟨"Digest", [
  ("notes", .select "li" (.nested ⟨"Note", [note]⟩) { asList := true }),
  ("names", .select "li" (.nested (author [])) { asList := true })]⟩

def nameless : Listed := .node "" [] [("i", [.leaf "y"])]

/-- What stands behind a failure may not be changed at will.  A field that is added is
asked for at the matches in front of the failing one, and one that is dropped below a
fallback may have kept another from being resolved there; a match behind the failing
one may be read by a field in front. -/
theorem extract_ne_of_change_behind :
    ((feed [] []).extract (wall [signed, anonymous]) =
        .error (.missingField "name" "posts.author.name" "b") ∧
      (feed [note] []).extract (wall [signed, anonymous]) =
        .error (.missingField "note" "posts.author.note" "i")) ∧
    ((page [title, rest]).extract items = .error (.invalidSelector "!" "unexpected character") ∧
      (page [rest]).extract items = .error (.invalidSelector "?" "unexpected character")) ∧
    (digest.extract (wall [known, nameless, known]) =
        .error (.missingField "name" "names.name" "b") ∧
      digest.extract (wall [known, nameless, .leaf ""]) =
        .error (.missingField "note" "notes.note" "i")) :=
  ⟨⟨rfl, rfl⟩, ⟨rfl, rfl⟩, ⟨rfl, rfl⟩⟩

end FailFast

end Glean
