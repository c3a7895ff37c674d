import Glean.Proofs.Extraction.Listed
import Glean.Proofs.Extraction.Parallel

/-!
# Glean.Proofs.Extraction.Renamed

Schemas that differ in nothing but names (`Schema.Renamed`): those of the schemas and
those of the declared fields, at any depth, also in schemas that alternatives of a
fallback apply.  Names are carried through the whole of an extraction, but nothing is
ever decided by them.  Two runs therefore go the same way: both yield records with the
same values position by position, each under its own names (`Schema.Alike`), or both
fail at the same place (`Schema.FailTogether`).

A place is a chain of positions, one for each schema on the way.  What a run reports of
a missing field is read off this chain (`Schema.Along`).
-/

namespace Glean

/-! ## Other names -/

mutual

/-- Equal but for the names of the schema and its fields, and the names inside. -/
inductive Schema.Renamed : Schema → Schema → Prop where
  | intro {name name' : String} {fields fields' : List (String × Field)}
      (each : List.Forall₂ (fun p q => Field.Renamed p.2 q.2) fields fields') :
      Schema.Renamed ⟨name, fields⟩ ⟨name', fields'⟩

/-- Equal but for the names in nested schemas. -/
inductive Field.Renamed : Field → Field → Prop where
  | select {selector : String} {strategy strategy' : Strategy} {flags : Flags}
      (strategies : Strategy.Renamed strategy strategy') :
      Field.Renamed (.select selector strategy flags) (.select selector strategy' flags)
  | firstOf {alternatives alternatives' : List Field} {flags : Flags}
      (each : List.Forall₂ Field.Renamed alternatives alternatives') :
      Field.Renamed (.firstOf alternatives flags) (.firstOf alternatives' flags)

/-- Equal but for the names in the nested schema. -/
inductive Strategy.Renamed : Strategy → Strategy → Prop where
  | same {strategy : Strategy} (plain : strategy.schemas = []) :
      Strategy.Renamed strategy strategy
  | nested {s s' : Schema} (schemas : Schema.Renamed s s') :
      Strategy.Renamed (.nested s) (.nested s')

end

/-- Names are no part of what an error shows of a field. -/
theorem Field.Renamed.describe_eq {f g : Field} (h : f.Renamed g) : f.describe = g.describe := by
  induction f using Field.nested_induction generalizing g with
  | select selector strategy flags _ =>
      cases h
      rfl
  | firstOf alternatives flags ih =>
      cases h with
      | @firstOf _ alternatives' _ each =>
          have hall : alternatives.map Field.describe = alternatives'.map Field.describe :=
            map_eq_map_of_forall₂ <| forall₂_imp_of_mem each fun f hf g hfg => ih f hf hfg
          rw [Field.describe, Field.describe, descriptions_eq_map, descriptions_eq_map, hall]

/-! ## The same values under other names -/

mutual

/-- Records of two schemas with the same values position by position, each under the
names that its schema declares. -/
inductive Schema.Alike : Schema → Schema → Record → Record → Prop where
  | intro {name name' : String} {fields fields' : List (String × Field)}
      {values values' : List (String × Value)} (each : AllAlike fields fields' values values') :
      Schema.Alike ⟨name, fields⟩ ⟨name', fields'⟩ ⟨name, values⟩ ⟨name', values'⟩

/-- The same values of declared fields, position by position, under the declared names. -/
inductive AllAlike : List (String × Field) → List (String × Field) →
    List (String × Value) → List (String × Value) → Prop where
  | nil : AllAlike [] [] [] []
  | cons {name name' : String} {f g : Field} {v w : Value} {fields fields' : List (String × Field)}
      {values values' : List (String × Value)} (head : Field.Alike f g v w)
      (rest : AllAlike fields fields' values values') :
      AllAlike ((name, f) :: fields) ((name', g) :: fields') ((name, v) :: values)
        ((name', w) :: values')

/-- The same value of two fields, where records inside have the names of the nested
schemas at the same place: of the fields, or of the same alternative of both. -/
inductive Field.Alike : Field → Field → Value → Value → Prop where
  | absent {f g : Field} : Field.Alike f g .absent .absent
  | text {f g : Field} {content : String} : Field.Alike f g (.text content) (.text content)
  | list {f g : Field} {xs ys : List Value} (items : ItemsAlike f g xs ys) :
      Field.Alike f g (.list xs) (.list ys)
  | nested {selector selector' : String} {s s' : Schema} {flags flags' : Flags} {r r' : Record}
      (records : Schema.Alike s s' r r') :
      Field.Alike (.select selector (.nested s) flags) (.select selector' (.nested s') flags')
        (.record r) (.record r')
  | alternative {alternatives alternatives' : List Field} {flags flags' : Flags} {f g : Field}
      {v w : Value} {i : Nat} (left : alternatives[i]? = some f)
      (right : alternatives'[i]? = some g) (values : Field.Alike f g v w) :
      Field.Alike (.firstOf alternatives flags) (.firstOf alternatives' flags') v w

/-- The same items of two fields, one by one. -/
inductive ItemsAlike : Field → Field → List Value → List Value → Prop where
  | nil {f g : Field} : ItemsAlike f g [] []
  | cons {f g : Field} {v w : Value} {xs ys : List Value} (head : Field.Alike f g v w)
      (rest : ItemsAlike f g xs ys) : ItemsAlike f g (v :: xs) (w :: ys)

end

theorem ItemsAlike.of_forall₂ {f g : Field} {xs ys : List Value}
    (h : List.Forall₂ (Field.Alike f g) xs ys) : ItemsAlike f g xs ys := by
  induction h with
  | nil => exact .nil
  | cons head _ ih => exact .cons head ih

/-- Values that are alike are absent together and empty together. -/
theorem Field.Alike.isAbsent_isEmpty {f g : Field} {v w : Value} (h : f.Alike g v w) :
    v.isAbsent = w.isAbsent ∧ v.isEmpty = w.isEmpty := by
  induction f using Field.nested_induction generalizing g v w with
  | select selector strategy flags _ =>
      cases h with
      | absent => exact ⟨rfl, rfl⟩
      | text => exact ⟨rfl, rfl⟩
      | list items => cases items <;> exact ⟨rfl, rfl⟩
      | nested records => exact ⟨rfl, rfl⟩
  | firstOf alternatives flags ih =>
      cases h with
      | absent => exact ⟨rfl, rfl⟩
      | text => exact ⟨rfl, rfl⟩
      | list items => cases items <;> exact ⟨rfl, rfl⟩
      | @alternative _ _ _ _ f _ _ _ _ left _ values =>
          have hmem : f ∈ alternatives := List.mem_of_getElem? left
          exact ih f hmem values

/-- Extraction does not tell values apart that are alike. -/
theorem Field.Alike.congruent (f g : Field) : Value.Congruent (f.Alike g) where
  absent := .absent
  text _ := .text
  list items := .list (.of_forall₂ items)
  isAbsent h := h.isAbsent_isEmpty.1
  isEmpty h := h.isAbsent_isEmpty.2

/-! ## Failures at the same place -/

/-- Going down through nested fields at these positions, the last one being that of any
field, one comes by these names. -/
inductive Schema.Along : Schema → List Nat → List String → Prop where
  | field {s : Schema} {i : Nat} {name : String} {f : Field}
      (declared : s.fields[i]? = some (name, f)) : Along s [i] [name]
  | nested {s inner : Schema} {i : Nat} {name selector : String} {flags : Flags}
      {positions : List Nat} {names : List String}
      (declared : s.fields[i]? = some (name, .select selector (.nested inner) flags))
      (below : Along inner positions names) : Along s (i :: positions) (name :: names)

/-- Both runs have the same selector refused, or they miss the fields at the same chain of
positions, for want of the same. -/
inductive Schema.FailTogether (s s' : Schema) : ExtractionError → ExtractionError → Prop where
  | refused {selector detail : String} :
      FailTogether s s' (.invalidSelector selector detail) (.invalidSelector selector detail)
  | missing {positions : List Nat} {names names' : List String} {field field' shown : String}
      (along : s.Along positions (names ++ [field]))
      (along' : s'.Along positions (names' ++ [field'])) :
      FailTogether s s' (.missingField field (".".intercalate (names ++ [field])) shown)
        (.missingField field' (".".intercalate (names' ++ [field'])) shown)

/-- Both runs have the same selector refused, miss the field itself for want of the same,
or fail together in the nested schemas of both fields. -/
inductive Field.FailTogether (f g : Field) (name name' : String) :
    ExtractionError → ExtractionError → Prop where
  | refused {selector detail : String} : FailTogether f g name name'
      (.invalidSelector selector detail) (.invalidSelector selector detail)
  | missing {shown : String} :
      FailTogether f g name name' (.missing name shown) (.missing name' shown)
  | nested {selector selector' : String} {s s' : Schema} {flags flags' : Flags}
      {d e : ExtractionError} (left : f = .select selector (.nested s) flags)
      (right : g = .select selector' (.nested s') flags') (inner : s.FailTogether s' d e) :
      FailTogether f g name name' (d.within name) (e.within name')

/-- Both miss something, or both have the same selector refused. -/
inductive ExtractionError.SameKind : ExtractionError → ExtractionError → Prop where
  | missing {d e : ExtractionError} (left : d.isMissing = true) (right : e.isMissing = true) :
      SameKind d e
  | refused {selector detail : String} :
      SameKind (.invalidSelector selector detail) (.invalidSelector selector detail)

theorem ExtractionError.SameKind.isMissing_eq {d e : ExtractionError} (h : d.SameKind e) :
    d.isMissing = e.isMissing := by
  cases h with
  | missing left right => exact left.trans right.symm
  | refused => rfl

theorem Field.FailTogether.sameKind {f g : Field} {name name' : String} {d e : ExtractionError}
    (h : f.FailTogether g name name' d e) : d.SameKind e := by
  cases h with
  | refused => exact .refused
  | missing => exact .missing rfl rfl
  | nested left right inner =>
      cases inner with
      | refused => exact .refused
      | missing along along' => exact .missing rfl rfl

/-- Fields at the same position that fail together make their schemas fail together. -/
theorem Field.FailTogether.declared {s s' : Schema} {i : Nat} {name name' : String} {f g : Field}
    {d e : ExtractionError} (hf : s.fields[i]? = some (name, f))
    (hg : s'.fields[i]? = some (name', g)) (h : f.FailTogether g name name' d e) :
    s.FailTogether s' d e := by
  cases h with
  | refused => exact .refused
  | missing =>
      have along : s.Along [i] ([] ++ [name]) := .field hf
      have along' : s'.Along [i] ([] ++ [name']) := .field hg
      exact .missing along along'
  | @nested selector selector' t t' flags flags' _ _ left right inner =>
      subst left right
      cases inner with
      | refused => exact .refused
      | @missing positions names names' field field' shown along along' =>
          have hjoin (key : String) (keys : List String) (last : String) :
              key ++ "." ++ ".".intercalate (keys ++ [last]) =
                ".".intercalate (key :: keys ++ [last]) := by
            rw [List.cons_append, String.intercalate_cons_of_ne_nil (by simp)]
          rw [ExtractionError.within, ExtractionError.within, hjoin, hjoin]
          exact .missing (.nested hf along) (.nested hg along')

/-! ## Two runs -/

variable {ν : Type} [Source ν]

/-- Declared fields with outcomes that are alike have values that are alike in a row. -/
theorem collect_alike {E : ExtractionError → ExtractionError → Prop} {root : ν}
    {fields fields' : List (String × Field)}
    (h : List.Forall₂ (fun p q => Parallel (p.2.Alike q.2) E (p.2.resolve p.1 root)
      (q.2.resolve q.1 root)) fields fields') :
    Parallel (AllAlike fields fields') E (collect (resolveDeclared root) fields)
      (collect (resolveDeclared root) fields') := by
  induction h with
  | nil => exact .ok .nil
  | @cons p q fields fields' hpq _ ih =>
      obtain ⟨name, f⟩ := p
      obtain ⟨name', g⟩ := q
      rw [collect, collect, resolveDeclared, resolveDeclared]
      generalize f.resolve name root = x at hpq
      generalize g.resolve name' root = y at hpq
      cases hpq with
      | ok related => exact ih.map fun _ _ hrest => .cons related hrest
      | error related => exact .error related

/-- Schemas that differ in names go the same way if their fields do. -/
theorem Schema.Renamed.extract_parallel_of_fields {s s' : Schema} (h : s.Renamed s') {root : ν}
    (hfields : ∀ p ∈ s.fields, ∀ name' g, p.2.Renamed g →
      Parallel (p.2.Alike g) (p.2.FailTogether g p.1 name') (p.2.resolve p.1 root)
        (g.resolve name' root)) :
    Parallel (s.Alike s') (s.FailTogether s') (s.extract root) (s'.extract root) := by
  cases h with
  | @intro name name' fields fields' each =>
      rw [Schema.extract_eq, Schema.extract_eq]
      have hstep : List.Forall₂ (fun p q => Parallel (p.2.Alike q.2)
          (Schema.FailTogether ⟨name, fields⟩ ⟨name', fields'⟩) (p.2.resolve p.1 root)
          (q.2.resolve q.1 root)) fields fields' := by
        refine (forall₂_at_position each).imp fun p q hpq => ?_
        obtain ⟨hrenamed, i, hp, hq⟩ := hpq
        have hrun := hfields p (List.mem_of_getElem? hp) q.1 q.2 hrenamed
        exact hrun.imp (fun _ _ hvalues => hvalues) fun _ _ _ hfail => hfail.declared hp hq
      exact (collect_alike hstep).map fun _ _ hvalues => .intro hvalues

/-- Fields that differ in names inside go the same way, whatever they are called. -/
theorem Field.Renamed.resolve_parallel {f g : Field} (h : f.Renamed g) (honly : OnlyRefuses ν)
    {name name' : String} {root : ν} :
    Parallel (f.Alike g) (f.FailTogether g name name') (f.resolve name root)
      (g.resolve name' root) := by
  induction f using Field.nested_induction generalizing g name name' root with
  | select selector strategy flags ih =>
      cases h with
      | select strategies =>
          refine resolve_select_parallel (Field.Alike.congruent _ _) ?_ ?_ ?_ ?_
          · intro e he
            obtain ⟨refused, detail, rfl⟩ := honly root selector e he
            exact .refused
          · exact fun shown => .missing
          · cases strategies <;> rfl
          · intro node
            cases strategies with
            | same plain => exact Strategy.read_parallel (Field.Alike.congruent _ _) plain node
            | @nested s s' schemas =>
                have hrun : Parallel (s.Alike s') (s.FailTogether s') (s.extract node)
                    (s'.extract node) :=
                  schemas.extract_parallel_of_fields fun p hp _ _ hg => ih s rfl p hp hg
                refine Strategy.read_nested_parallel (fun d e hfail => .nested rfl rfl hfail) ?_
                exact hrun.imp (fun _ _ hrecords => .nested hrecords) fun _ _ _ hfail => hfail
  | firstOf alternatives flags ih =>
      cases h with
      | @firstOf _ alternatives' _ each =>
          have hstep : List.Forall₂ (fun f g => Parallel
              (Field.Alike (.firstOf alternatives flags) (.firstOf alternatives' flags))
              ExtractionError.SameKind (f.resolve name root) (g.resolve name' root))
              alternatives alternatives' := by
            refine (forall₂_at_position each).imp fun f g hfg => ?_
            obtain ⟨hrenamed, i, hf, hg⟩ := hfg
            have hrun : Parallel (f.Alike g) (f.FailTogether g name name') (f.resolve name root)
                (g.resolve name' root) := ih f (List.mem_of_getElem? hf) hrenamed
            exact hrun.imp (fun _ _ hvalues => .alternative hf hg hvalues)
              fun _ _ _ hfail => hfail.sameKind
          have hfound := firstFound_parallel (Field.Alike.congruent _ _)
            (fun _ _ hkind => hkind.isMissing_eq) hstep
          have hrenamed : (Field.firstOf alternatives flags).Renamed (.firstOf alternatives' flags) :=
            .firstOf each
          refine resolve_firstOf_parallel (Field.Alike.congruent _ _) ?_ ?_
          · rw [hrenamed.describe_eq]
            exact .missing
          · -- What is missing inside an alternative never comes out of the fallback.
            refine hfound.imp (fun _ _ hvalues => hvalues) fun d e hd hkind => ?_
            obtain ⟨_, _, _, -, -, -, hmissing⟩ := firstFound_eq_error_iff.1 hd
            cases hkind with
            | missing left right =>
                rw [hmissing] at left
                contradiction
            | refused => exact .refused

/-- Schemas that differ in names go the same way. -/
theorem Schema.Renamed.extract_parallel {s s' : Schema} (h : s.Renamed s')
    (honly : OnlyRefuses ν) (root : ν) :
    Parallel (s.Alike s') (s.FailTogether s') (s.extract root) (s'.extract root) :=
  h.extract_parallel_of_fields fun _ _ _ _ hg => hg.resolve_parallel honly

/-- **Names decide nothing**: on a source that fails only by refusing selectors, schemas
that differ in nothing but names both yield records, with the same values position by
position and each with its own names; or both have the same selector refused; or both miss
a field for want of the same, where each reports the names that it declares along one
chain of positions. -/
theorem Schema.extract_renamed {s s' : Schema} (h : s.Renamed s') (honly : OnlyRefuses ν)
    (root : ν) :
    (∃ r r', s.extract root = .ok r ∧ s'.extract root = .ok r' ∧ s.Alike s' r r') ∨
      (∃ selector detail, s.extract root = .error (.invalidSelector selector detail) ∧
        s'.extract root = .error (.invalidSelector selector detail)) ∨
      ∃ positions names field names' field' shown,
        s.Along positions (names ++ [field]) ∧ s'.Along positions (names' ++ [field']) ∧
        s.extract root =
          .error (.missingField field (".".intercalate (names ++ [field])) shown) ∧
        s'.extract root =
          .error (.missingField field' (".".intercalate (names' ++ [field'])) shown) := by
  have hrun := h.extract_parallel honly root
  generalize s.extract root = x at hrun
  generalize s'.extract root = y at hrun
  cases hrun with
  | @ok r r' related => exact .inl ⟨r, r', rfl, rfl, related⟩
  | error related =>
      cases related with
      | @refused selector detail => exact .inr (.inl ⟨selector, detail, rfl, rfl⟩)
      | @missing positions names names' field field' shown along along' =>
          exact .inr (.inr ⟨positions, names, field, names', field', shown, along, along', rfl, rfl⟩)

namespace Renamed

/-- A post, by someone. -/
def post (schema by_ : String) : Schema := ⟨schema, [
  (by_, .select "b" .text { required := true })]⟩

/-- All posts, and a lead that is a post or else a title. -/
def page (schema posts lead inner by_ : String) : Schema := ⟨schema, [
  (posts, .select "li" (.nested (post inner by_)) { asList := true }),
  (lead, .firstOf [.select "th" (.nested (post inner by_)) {}, .select "h1" .text {}]
    { required := true })]⟩

def plain : Schema := page "Page" "posts" "lead" "Post" "by"
def short : Schema := page "P" "ps" "l" "Q" "b"

theorem renamed_page : plain.Renamed short := by
  have hpost : (post "Post" "by").Renamed (post "Q" "b") := .intro (.cons (.select (.same rfl)) .nil)
  have htitle : (Field.select "h1" .text {}).Renamed (.select "h1" .text {}) := .select (.same rfl)
  exact .intro (.cons (.select (.nested hpost))
    (.cons (.firstOf (.cons (.select (.nested hpost)) (.cons htitle .nil))) .nil))

/-- Posts and a title behind a lead of which nobody is known to be the author. -/
def wall (posts : List Listed) : Listed :=
  .node "" [] [("li", posts), ("th", [.leaf ""]), ("h1", [.leaf "y"])]

def signed : Listed := .node "" [] [("b", [.leaf "x"])]

/-- With a signed post both find it, and pass over the lead; with another post behind it
that is not signed both miss the author there, each in its own words. -/
theorem extract_plain_short :
    plain.Renamed short ∧ OnlyRefuses Listed ∧
      (∃ r r', plain.extract (wall [signed]) = .ok r ∧ short.extract (wall [signed]) = .ok r' ∧
        plain.Alike short r r') ∧
      ∃ positions names field names' field' shown,
        plain.Along positions (names ++ [field]) ∧ short.Along positions (names' ++ [field']) ∧
        plain.extract (wall [signed, .leaf ""]) =
          .error (.missingField field (".".intercalate (names ++ [field])) shown) ∧
        short.extract (wall [signed, .leaf ""]) =
          .error (.missingField field' (".".intercalate (names' ++ [field'])) shown) := by
  have hfound : plain.extract (wall [signed]) = .ok ⟨"Page", [
      ("posts", .list [.record ⟨"Post", [("by", .text "x")]⟩]), ("lead", .text "y")]⟩ := rfl
  have hmissed : plain.extract (wall [signed, .leaf ""]) =
      .error (.missingField "by" "posts.by" "b") := rfl
  refine ⟨renamed_page, Listed.onlyRefuses, ?_, ?_⟩
  · obtain h | ⟨_, _, h, -⟩ | ⟨_, _, _, _, _, _, -, -, h, -⟩ :=
      Schema.extract_renamed renamed_page Listed.onlyRefuses (wall [signed])
    · exact h
    · rw [hfound] at h
      contradiction
    · rw [hfound] at h
      contradiction
  · obtain ⟨_, _, h, -⟩ | ⟨_, _, h, -⟩ | h :=
      Schema.extract_renamed renamed_page Listed.onlyRefuses (wall [signed, .leaf ""])
    · rw [hmissed] at h
      contradiction
    · rw [hmissed] at h
      injection h with h
      contradiction
    · exact h

end Renamed

end Glean
