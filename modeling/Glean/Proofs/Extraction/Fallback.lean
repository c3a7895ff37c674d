import Glean.Proofs.Extraction.FailFast
import Glean.Proofs.Schema.Checked

/-!
# Glean.Proofs.Extraction.Fallback

Which alternative a fallback takes.  Alternatives that find nothing
(`Field.FindsNothing`) are passed over; the first other one ends the search, with what it
finds or with its failure (`StopsAt`), and what is declared behind it is never tried.  So
a fallback has exactly one of three endings (`Ending`), which says what it resolves to.
One that is required and finds nothing is reported by the selectors of its alternatives
(`Field.Shown`).

A missing field counts as nothing however far below it is: a nested schema fails for want
of a field of its own, or of a schema nested in it at any depth (`Schema.MissesAt`).
-/

namespace Glean

variable {ν : Type} [Source ν]

/-! ## Finding nothing -/

/-- What does not count as found.  Everything else does: a record, and a list of any
items, even if all of them are absent. -/
inductive Value.Blank : Value → Prop where
  | absent : Value.Blank .absent
  | text : Value.Blank (.text "")
  | list : Value.Blank (.list [])

theorem Value.blank_iff_isEmpty {v : Value} : v.Blank ↔ v.isEmpty = true := by
  constructor
  · intro h
    cases h <;> rfl
  · intro h
    cases v with
    | absent => exact .absent
    | text content =>
        have hcontent : content = "" := String.isEmpty_iff.1 h
        subst hcontent
        exact .text
    | list items =>
        have hitems : items = [] := List.isEmpty_iff.1 h
        subst hitems
        exact .list
    | record r => simp [Value.isEmpty] at h

/-- What counts as found. -/
theorem Value.not_blank_iff {v : Value} :
    ¬ v.Blank ↔ (∃ content, content ≠ "" ∧ v = .text content) ∨
      (∃ items, items ≠ [] ∧ v = .list items) ∨ ∃ r, v = .record r := by
  rw [Value.blank_iff_isEmpty]
  cases v <;> simp [Value.isEmpty]

/-- An alternative finds nothing: its value does not count, or a field is missing, be it
the alternative itself or one inside. -/
inductive Field.FindsNothing (name : String) (root : ν) (f : Field) : Prop where
  | blank {v : Value} (resolved : f.resolve name root = .ok v) (blank : v.Blank)
  | missing {field path shown : String}
      (failed : f.resolve name root = .error (.missingField field path shown))

section FindsNothing

variable {name : String} {root : ν} {f : Field}

theorem Field.FindsNothing.blank_of_ok (h : f.FindsNothing name root) {v : Value}
    (hv : f.resolve name root = .ok v) : v.Blank := by
  cases h with
  | blank resolved blank =>
      rw [hv] at resolved
      injection resolved with hvw
      exact hvw ▸ blank
  | missing failed =>
      rw [hv] at failed
      contradiction

theorem Field.FindsNothing.missing_of_error (h : f.FindsNothing name root) {e : ExtractionError}
    (he : f.resolve name root = .error e) :
    ∃ field path shown, e = .missingField field path shown := by
  cases h with
  | blank resolved =>
      rw [he] at resolved
      contradiction
  | missing failed =>
      rw [he] at failed
      injection failed with hmissing
      exact ⟨_, _, _, hmissing⟩

theorem Field.findsNothing_iff_passedOver :
    f.FindsNothing name root ↔ f.PassedOver name root := by
  constructor
  · intro h
    cases h with
    | blank resolved blank => exact .inl ⟨_, resolved, Value.blank_iff_isEmpty.1 blank⟩
    | missing failed => exact .inr ⟨_, failed, rfl⟩
  · rintro (⟨v, hv, hempty⟩ | ⟨e, he, hmissing⟩)
    · exact .blank hv (Value.blank_iff_isEmpty.2 hempty)
    · obtain ⟨field, path, shown, rfl⟩ := ExtractionError.isMissing_iff.1 hmissing
      exact .missing he

end FindsNothing

/-! ## Missing further down -/

/-- Applying the schema to the node fails for want of a field that is declared this many
schemas further down: all that is tried before it is resolved. -/
inductive Schema.MissesAt : Nat → Schema → ν → Prop where
  | own {s : Schema} {root : ν} {before after : List (String × Field)} {p : String × Field}
      {shown : String} (declared : s.fields = before ++ p :: after)
      (front : ∀ q ∈ before, ∃ v, q.2.resolve q.1 root = .ok v)
      (missing : p.2.resolve p.1 root = .error (.missing p.1 shown)) : MissesAt 0 s root
  | nested {depth : Nat} {s inner : Schema} {root node : ν}
      {before after : List (String × Field)} {name selector : String} {flags : Flags}
      {passed others : List ν}
      (declared : s.fields = before ++ (name, .select selector (.nested inner) flags) :: after)
      (front : ∀ q ∈ before, ∃ v, q.2.resolve q.1 root = .ok v)
      (selected : Source.select root selector = .ok (passed ++ node :: others))
      (single : flags.asList = false → passed = [])
      (extracted : ∀ m ∈ passed, ∃ r, inner.extract m = .ok r)
      (deeper : MissesAt depth inner node) : MissesAt (depth + 1) s root

/-- What a nested schema misses at a match that the field reads, the field misses. -/
theorem resolve_nested_missing {selector name : String} {s : Schema} {flags : Flags} {root node : ν}
    {passed others : List ν} (hselect : Source.select root selector = .ok (passed ++ node :: others))
    (hsingle : flags.asList = false → passed = [])
    (hextracted : ∀ m ∈ passed, ∃ r, s.extract m = .ok r) {field path shown : String}
    (hmissing : s.extract node = .error (.missingField field path shown)) :
    (Field.select selector (.nested s) flags).resolve name root =
      .error (.missingField field (name ++ "." ++ path) shown) := by
  cases hlist : flags.asList with
  | true =>
      exact (resolve_list_nested_eq_error_iff hlist).2
        (.inr (.inr ⟨passed, node, others, _, hselect, hextracted, hmissing, rfl⟩))
  | false =>
      obtain rfl := hsingle hlist
      exact resolve_first_eq_error hlist hselect hmissing

/-- A field that is missing at any depth makes the whole schema miss it. -/
theorem Schema.MissesAt.extract_eq {depth : Nat} {s : Schema} {root : ν}
    (h : s.MissesAt depth root) :
    ∃ field path shown, s.extract root = .error (.missingField field path shown) := by
  induction h with
  | @own s root before after p shown declared front missing =>
      exact ⟨p.1, p.1, shown, Schema.extract_eq_error_iff.2 ⟨_, _, _, declared, front, missing⟩⟩
  | @nested depth s inner root node before after name selector flags passed others declared front
      selected single extracted deeper ih =>
      obtain ⟨field, path, shown, hinner⟩ := ih
      have hfield : (Field.select selector (.nested inner) flags).resolve name root =
          .error (.missingField field (name ++ "." ++ path) shown) :=
        resolve_nested_missing selected single extracted hinner
      exact ⟨field, _, shown, Schema.extract_eq_error_iff.2 ⟨_, _, _, declared, front, hfield⟩⟩

/-! ## The alternative that ends the search -/

section Stops

variable {name : String} {root : ν} {alternatives : List Field} {k : Nat} {f : Field}

/-- The alternative `f` at position `k` is the first that does not find nothing. -/
structure StopsAt (name : String) (root : ν) (alternatives : List Field) (k : Nat) (f : Field) :
    Prop where
  declared : alternatives[k]? = some f
  decides : ¬ f.FindsNothing name root
  front : ∀ i < k, ∀ g, alternatives[i]? = some g → g.FindsNothing name root

/-- There is one such alternative at most. -/
theorem StopsAt.unique (h : StopsAt name root alternatives k f) {k' : Nat} {f' : Field}
    (h' : StopsAt name root alternatives k' f') : k = k' ∧ f = f' := by
  obtain hlt | rfl | hgt := Nat.lt_trichotomy k k'
  · exact absurd (h'.front k hlt f h.declared) h.decides
  · have hsome : some f = some f' := h.declared.symm.trans h'.declared
    injection hsome with hf
    exact ⟨rfl, hf⟩
  · exact absurd (h.front k' hgt f' h'.declared) h'.decides

/-- Either every alternative finds nothing, or one of them ends the search. -/
theorem all_findNothing_or_stopsAt (name : String) (root : ν) (alternatives : List Field) :
    (∀ f ∈ alternatives, f.FindsNothing name root) ∨
      ∃ k f, StopsAt name root alternatives k f := by
  induction alternatives with
  | nil => exact .inl (by simp)
  | cons f rest ih =>
      by_cases hf : f.FindsNothing name root
      · obtain hall | ⟨k, g, hg⟩ := ih
        · exact .inl (List.forall_mem_cons.2 ⟨hf, hall⟩)
        · refine .inr ⟨k + 1, g, hg.declared, hg.decides, fun i hi g' hg' => ?_⟩
          cases i with
          | zero =>
              injection hg' with hfg
              exact hfg ▸ hf
          | succ i => exact hg.front i (Nat.lt_of_succ_lt_succ hi) g' hg'
      · exact .inr ⟨0, f, rfl, hf, fun i hi => absurd hi (Nat.not_lt_zero i)⟩

/-- The search comes to what this alternative resolves to, whatever is declared behind it. -/
theorem StopsAt.firstFound_eq (h : StopsAt name root alternatives k f) (others : List Field) :
    firstFound name root (alternatives.take (k + 1) ++ others) = (f.resolve name root).map some := by
  have hfront : ∀ g ∈ alternatives.take k, g.PassedOver name root := by
    intro g hg
    obtain ⟨i, hi, hget⟩ := List.mem_take_iff_getElem.1 hg
    refine Field.findsNothing_iff_passedOver.1 (h.front i (by omega) g ?_)
    rw [List.getElem?_eq_getElem (by omega), hget]
  have hdecides := h.decides
  rw [Field.findsNothing_iff_passedOver] at hdecides
  rw [List.take_add_one, h.declared, Option.toList_some, List.append_assoc, List.singleton_append,
    firstFound_append hfront]
  obtain hpassed | ⟨v, hv, hempty⟩ | ⟨e, he, hmissing⟩ := f.passedOver_or name root
  · contradiction
  · rw [firstFound_of_found hv hempty, hv]
    rfl
  · rw [firstFound_of_failed he hmissing, he]
    rfl

/-- A fallback resolves to what the alternative resolves to that ends the search. -/
theorem StopsAt.resolve_eq (h : StopsAt name root alternatives k f) (flags : Flags)
    (others : List Field) :
    (Field.firstOf (alternatives.take (k + 1) ++ others) flags).resolve name root =
      f.resolve name root := by
  rw [resolve_firstOf_eq, h.firstFound_eq others]
  cases f.resolve name root <;> rfl

end Stops

/-! ## What is shown of a fallback -/

/-- What an error shows of a field: its selector, or what it shows of each alternative, in
the order in which they are declared and with bars between them. -/
inductive Field.Shown : Field → String → Prop where
  | select {selector : String} {strategy : Strategy} {flags : Flags} :
      Field.Shown (.select selector strategy flags) selector
  | firstOf {alternatives : List Field} {flags : Flags} {texts : List String}
      (each : List.Forall₂ Field.Shown alternatives texts) :
      Field.Shown (.firstOf alternatives flags) (" | ".intercalate texts)

theorem Field.shown_iff {f : Field} {shown : String} : f.Shown shown ↔ shown = f.describe := by
  induction f using Field.nested_induction generalizing shown with
  | select selector strategy flags _ =>
      rw [Field.describe]
      constructor
      · intro h
        cases h
        rfl
      · rintro rfl
        exact .select
  | firstOf alternatives flags ih =>
      -- by induction the alternatives are shown as they are described, one by one
      have heach (texts : List String) : List.Forall₂ Field.Shown alternatives texts ↔
          alternatives.map Field.describe = texts.map id :=
        forall₂_iff_map_eq_map fun f hf text => (ih f hf).trans eq_comm
      rw [Field.describe, descriptions_eq_map]
      constructor
      · intro h
        cases h with
        | firstOf each => rw [(heach _).1 each, List.map_id]
      · rintro rfl
        exact .firstOf ((heach _).2 (List.map_id _).symm)

theorem Field.exists_unique_shown (f : Field) : ∃! shown, f.Shown shown :=
  ⟨f.describe, Field.shown_iff.2 rfl, fun _ h => Field.shown_iff.1 h⟩

/-- A well-formed field is shown by the selectors that it tries. -/
theorem Field.WellFormed.shown_leaves {f : Field} (h : f.WellFormed) :
    f.Shown (" | ".intercalate f.leaves) :=
  Field.shown_iff.2 h.describe_eq.symm

/-! ## How a fallback ends -/

/-- The ways in which a fallback can end. -/
inductive Ending where
  /-- The alternative at this position finds the value. -/
  | found (position : Nat) (v : Value)
  /-- The alternative at this position fails for good. -/
  | failed (position : Nat) (e : ExtractionError)
  /-- No alternative finds anything. -/
  | nothing

namespace Ending

/-- Whether the alternatives come to this end at the node. -/
def Holds (name : String) (root : ν) (alternatives : List Field) : Ending → Prop
  | .found k v => ∃ f, alternatives[k]? = some f ∧ f.resolve name root = .ok v ∧ ¬ v.Blank ∧
      ∀ i < k, ∀ g, alternatives[i]? = some g → g.FindsNothing name root
  | .failed k e => ∃ f, alternatives[k]? = some f ∧ f.resolve name root = .error e ∧
      (∀ field path shown, e ≠ .missingField field path shown) ∧
      ∀ i < k, ∀ g, alternatives[i]? = some g → g.FindsNothing name root
  | .nothing => ∀ g ∈ alternatives, g.FindsNothing name root

/-- What the fallback resolves to in the end, where `shown` is what an error shows of it. -/
def result (name shown : String) (flags : Flags) : Ending → Except ExtractionError Value
  | .found _ v => .ok v
  | .failed _ e => .error e
  | .nothing => if flags.required then .error (.missingField name name shown) else .ok .absent

/-- The position of the alternative that ends the search. -/
def position? : Ending → Option Nat
  | .found k _ => some k
  | .failed k _ => some k
  | .nothing => none

/-- The end that an alternative puts to the search. -/
def stopped (k : Nat) : Except ExtractionError Value → Ending
  | .ok v => .found k v
  | .error e => .failed k e

variable {name shown : String} {root : ν} {alternatives : List Field} {flags : Flags}
  {ending : Ending}

theorem position?_stopped (k : Nat) (outcome : Except ExtractionError Value) :
    (stopped k outcome).position? = some k := by
  cases outcome <;> rfl

theorem result_stopped (k : Nat) (outcome : Except ExtractionError Value) :
    (stopped k outcome).result name shown flags = outcome := by
  cases outcome <;> rfl

/-- An end is one that no alternative puts to the search, or that the first one does which
does not find nothing. -/
theorem holds_iff : ending.Holds name root alternatives ↔
    (ending = .nothing ∧ ∀ g ∈ alternatives, g.FindsNothing name root) ∨
      ∃ k f, StopsAt name root alternatives k f ∧ ending = stopped k (f.resolve name root) := by
  constructor
  · intro h
    cases ending with
    | found k v =>
        obtain ⟨f, hget, hv, hblank, hfront⟩ := h
        have hdecides : ¬ f.FindsNothing name root := fun hnone => hblank (hnone.blank_of_ok hv)
        exact .inr ⟨k, f, ⟨hget, hdecides, hfront⟩, by rw [hv, stopped]⟩
    | failed k e =>
        obtain ⟨f, hget, he, hhard, hfront⟩ := h
        have hdecides : ¬ f.FindsNothing name root := by
          intro hnone
          obtain ⟨field, path, shown, hmissing⟩ := hnone.missing_of_error he
          exact hhard field path shown hmissing
        exact .inr ⟨k, f, ⟨hget, hdecides, hfront⟩, by rw [he, stopped]⟩
    | nothing => exact .inl ⟨rfl, h⟩
  · rintro (⟨rfl, hall⟩ | ⟨k, f, hstops, rfl⟩)
    · exact hall
    · cases hres : f.resolve name root with
      | ok v =>
          exact ⟨f, hstops.declared, hres, fun hblank => hstops.decides (.blank hres hblank),
            hstops.front⟩
      | error e =>
          refine ⟨f, hstops.declared, hres, ?_, hstops.front⟩
          rintro field path shown rfl
          exact hstops.decides (.missing hres)

/-- A fallback has one end. -/
theorem exists_unique (name : String) (root : ν) (alternatives : List Field) :
    ∃! ending : Ending, ending.Holds name root alternatives := by
  obtain hall | ⟨k, f, hstops⟩ := all_findNothing_or_stopsAt name root alternatives
  · refine ⟨.nothing, hall, fun other hother => ?_⟩
    obtain ⟨rfl, -⟩ | ⟨k, f, hstops, -⟩ := holds_iff.1 hother
    · rfl
    · exact absurd (hall f (List.mem_of_getElem? hstops.declared)) hstops.decides
  · refine ⟨stopped k (f.resolve name root), holds_iff.2 (.inr ⟨k, f, hstops, rfl⟩), ?_⟩
    intro other hother
    obtain ⟨-, hall⟩ | ⟨k', f', hstops', rfl⟩ := holds_iff.1 hother
    · exact absurd (hall f (List.mem_of_getElem? hstops.declared)) hstops.decides
    · obtain ⟨rfl, rfl⟩ := hstops.unique hstops'
      rfl

/-- The end of a fallback says what it resolves to. -/
theorem Holds.resolve_eq (h : ending.Holds name root alternatives)
    (hshown : (Field.firstOf alternatives flags).Shown shown) :
    (Field.firstOf alternatives flags).resolve name root = ending.result name shown flags := by
  obtain ⟨rfl, hall⟩ | ⟨k, f, hstops, rfl⟩ := holds_iff.1 h
  · have hnone : firstFound name root alternatives = .ok none :=
      firstFound_eq_none_iff.2 fun g hg => Field.findsNothing_iff_passedOver.1 (hall g hg)
    rw [resolve_firstOf_eq, hnone, result, Field.shown_iff.1 hshown]
    rfl
  · have hwhole := hstops.resolve_eq flags (alternatives.drop (k + 1))
    rw [List.take_append_drop] at hwhole
    rw [hwhole, result_stopped]

/-- What is declared behind the alternative that ends the search is of no account. -/
theorem Holds.resolve_take_eq (h : ending.Holds name root alternatives) {k : Nat}
    (hk : ending.position? = some k) (others : List Field) :
    (Field.firstOf (alternatives.take (k + 1) ++ others) flags).resolve name root =
      ending.result name shown flags := by
  obtain ⟨rfl, -⟩ | ⟨k', f, hstops, rfl⟩ := holds_iff.1 h
  · contradiction
  · rw [position?_stopped] at hk
    injection hk with hk
    subst hk
    rw [result_stopped, hstops.resolve_eq]

end Ending

/-- **A fallback takes its first alternative that does not find nothing**: it has exactly
one of three ends, which says what it resolves to, whatever is declared behind the
alternative that ends the search.  A required fallback that finds nothing is missing, and
shown by the selectors of its alternatives.  Every list with items and every record counts as
found, and a nested schema that misses a field at any depth finds nothing. -/
theorem Field.resolve_firstOf_ends (alternatives : List Field) (flags : Flags) (name : String)
    (root : ν) :
    (∃! ending : Ending, ending.Holds name root alternatives) ∧
    (∃! shown, (Field.firstOf alternatives flags).Shown shown) ∧
    ((Field.firstOf alternatives flags).WellFormed →
      (Field.firstOf alternatives flags).Shown
        (" | ".intercalate (Field.firstOf alternatives flags).leaves)) ∧
    (∀ (ending : Ending) (shown : String), ending.Holds name root alternatives →
      (Field.firstOf alternatives flags).Shown shown →
      (Field.firstOf alternatives flags).resolve name root = ending.result name shown flags ∧
        ∀ k, ending.position? = some k → ∀ others,
          (Field.firstOf (alternatives.take (k + 1) ++ others) flags).resolve name root =
            ending.result name shown flags) ∧
    (∀ v : Value, ¬ v.Blank ↔ (∃ content, content ≠ "" ∧ v = .text content) ∨
      (∃ items, items ≠ [] ∧ v = .list items) ∨ ∃ r, v = .record r) ∧
    ∀ selector s inner passed node others depth,
      Source.select root selector = .ok (passed ++ node :: others) →
      (inner.asList = false → passed = []) → (∀ m ∈ passed, ∃ r, s.extract m = .ok r) →
      s.MissesAt depth node →
      (Field.select selector (.nested s) inner).FindsNothing name root := by
  refine ⟨Ending.exists_unique name root alternatives, Field.exists_unique_shown _,
    fun hwf => hwf.shown_leaves, fun ending shown h hshown => ⟨h.resolve_eq hshown, ?_⟩,
    fun v => Value.not_blank_iff, ?_⟩
  · intro k hk others
    exact h.resolve_take_eq hk others
  · intro selector s inner passed node others depth hselect hsingle hextracted hmisses
    obtain ⟨field, path, shown, hmissing⟩ := hmisses.extract_eq
    exact .missing (resolve_nested_missing hselect hsingle hextracted hmissing)

namespace Fallback

open FailFast (Guarded signed anonymous)

/-- A post is by someone with a name. -/
def post : Schema := ⟨"Post", [
  ("author", .select ".by" (.nested ⟨"Author", [("name", .select "b" .text { required := true })]⟩)
    {})]⟩

/-- All posts, or a title, or where the links lead; and something that cannot be selected. -/
def sources : List Field := [
  .select "li" (.nested post) { asList := true },
  .select "h1" .text { required := true },
  .select "a" (.attr "href") { asList := true, required := true },
  .select "!" .text {}]

/-- Two posts of which one is by nobody, an empty title, and a link that leads nowhere. -/
def wall : Guarded :=
  ⟨.node "" [] [("li", [signed, anonymous]), ("h1", [.leaf ""]), ("a", [.leaf "x"])]⟩

theorem missesAt_anonymous : post.MissesAt 1 (Guarded.mk anonymous) := by
  have hby : Source.select (Guarded.mk anonymous) ".by" = .ok ([] ++ ⟨.leaf ""⟩ :: []) := rfl
  have hname : (Field.select "b" .text { required := true }).resolve "name"
      (Guarded.mk (.leaf "")) = .error (.missing "name" "b") := rfl
  have hauthor : (Schema.mk "Author" [("name", .select "b" .text { required := true })]).MissesAt 0
      (Guarded.mk (.leaf "")) := .own (List.nil_append _).symm (by simp) hname
  exact .nested (List.nil_append _).symm (by simp) hby (fun _ => rfl) (by simp) hauthor

theorem holds_wall : (Ending.found 2 (.list [.absent])).Holds "seen" wall sources := by
  refine ⟨_, rfl, rfl, by simp [Value.not_blank_iff], fun i hi g hg => ?_⟩
  obtain rfl | rfl : i = 0 ∨ i = 1 := by omega
  · injection hg with hg
    subst hg
    have hmissing : (Field.select "li" (.nested post) { asList := true }).resolve "seen" wall =
        .error (.missingField "name" "seen.author.name" "b") := rfl
    exact .missing hmissing
  · injection hg with hg
    subst hg
    exact .blank rfl .text

/-- A title, or else one of two lesser headings, the second by its address. -/
def headings : List Field := [
  .select "h1" .text {},
  .firstOf [.select "h2" .text { required := true },
    .select "h3" (.attr "id") { required := true }] { required := true }]

/-- A wall without a title has no heading: the two lesser ones are asked for in vain. -/
theorem holds_headings : Ending.nothing.Holds "title" wall headings := by
  have htitle : (Field.select "h1" .text {}).FindsNothing "title" wall := .blank rfl .text
  refine List.forall_mem_cons.2 ⟨htitle, List.forall_mem_singleton.2 ?_⟩
  have hmissing : (headings[1]).resolve "title" wall =
      .error (.missingField "title" "title" "h2 | h3") := rfl
  exact .missing hmissing

/-- The headings, and behind them something that cannot be selected. -/
theorem holds_unreadable :
    (Ending.failed 2 (.invalidSelector "!" "unexpected character")).Holds "title" wall
      (headings ++ sources.drop 3) := by
  refine ⟨_, rfl, rfl, nofun, fun i hi g hg => holds_headings g ?_⟩
  rw [List.getElem?_append_left hi] at hg
  exact List.mem_of_getElem? hg

/-- The post by nobody is no find, and neither is the empty title; the link is one, even
without an address, and nothing behind it counts.  Headings that are required and not there
are missing, and all their selectors are shown; what cannot be selected behind them fails. -/
theorem resolve_wall :
    ((Ending.found 2 (.list [.absent])).Holds "seen" wall sources ∧
      (Field.firstOf sources { required := true }).Shown "li | h1 | a | !" ∧
      (Field.firstOf sources { required := true }).resolve "seen" wall = .ok (.list [.absent]) ∧
      ∀ others, (Field.firstOf (sources.take 3 ++ others) { required := true }).resolve "seen"
        wall = .ok (.list [.absent])) ∧
    (Ending.nothing.Holds "title" wall headings ∧
      (Field.firstOf headings { required := true }).WellFormed ∧
      (Field.firstOf headings { required := true }).Shown "h1 | h2 | h3" ∧
      (Field.firstOf headings { required := true }).resolve "title" wall =
        .error (.missingField "title" "title" "h1 | h2 | h3")) ∧
    ((Ending.failed 2 (.invalidSelector "!" "unexpected character")).Holds "title" wall
        (headings ++ sources.drop 3) ∧
      (Field.firstOf (headings ++ sources.drop 3) {}).resolve "title" wall =
        .error (.invalidSelector "!" "unexpected character")) ∧
    post.MissesAt 1 (Guarded.mk anonymous) ∧
      (Field.select "li" (.nested post) { asList := true }).FindsNothing "seen" wall := by
  obtain ⟨-, -, -, hfound, -, hmisses⟩ :=
    Field.resolve_firstOf_ends sources { required := true } "seen" wall
  obtain ⟨-, -, hleaves, hnothing, -⟩ :=
    Field.resolve_firstOf_ends headings { required := true } "title" wall
  obtain ⟨-, ⟨shown, hshown, -⟩, -, hfailed, -⟩ :=
    Field.resolve_firstOf_ends (headings ++ sources.drop 3) {} "title" wall
  have hsources : (Field.firstOf sources { required := true }).Shown "li | h1 | a | !" :=
    .firstOf (.cons .select (.cons .select (.cons .select (.cons .select .nil))))
  have hchecked : (Field.firstOf headings { required := true }).check "title" = .ok () := rfl
  have hwf : (Field.firstOf headings { required := true }).WellFormed :=
    Field.check_eq_ok_iff.1 hchecked
  have hheadings : (Field.firstOf headings { required := true }).Shown "h1 | h2 | h3" := hleaves hwf
  obtain ⟨hresolve, hbehind⟩ := hfound _ _ holds_wall hsources
  obtain ⟨hmissing, -⟩ := hnothing _ _ holds_headings hheadings
  obtain ⟨hrefused, -⟩ := hfailed _ _ holds_unreadable hshown
  refine ⟨⟨holds_wall, hsources, hresolve, hbehind 2 rfl⟩,
    ⟨holds_headings, hwf, hheadings, hmissing⟩, ⟨holds_unreadable, hrefused⟩,
    missesAt_anonymous, ?_⟩
  refine hmisses "li" post { asList := true } [⟨signed⟩] ⟨anonymous⟩ [] 1 rfl nofun ?_
    missesAt_anonymous
  exact List.forall_mem_singleton.2 ⟨_, rfl⟩

end Fallback

end Glean
