import Glean.Proofs.Extraction.Listed
import Glean.Proofs.Schema.Normal

/-!
# Glean.Proofs.Extraction.Normalised

Normalising a schema changes nothing that it yields.  A fallback passes over an
alternative that misses something just as over one that is empty, so demands of
alternatives do not count (`interchangeable_of_asList`); a fallback among the alternatives
either finds what its own first alternative finds, or is passed over with them all
(`firstFound_firstOf`); and no transformation is the text.

What a required fallback reports is the one place where its alternatives show, and
normalising keeps the selectors that are reported.
-/

namespace Glean

variable {ν : Type} [Source ν]

/-! ## Strategies -/

/-- A strategy in normal form reads a match alike, if its nested schema does. -/
theorem Strategy.read_normal {strategy : Strategy} {name : String} {node : ν}
    (hnested : ∀ s, strategy = .nested s → s.normal.extract node = s.extract node) :
    strategy.normal.read name node = strategy.read name node := by
  cases strategy with
  | text | any | content | attr key => rfl
  | nested s => rw [Strategy.normal, Strategy.read, Strategy.read, hnested s rfl]

theorem Strategy.describe_normal (selector : String) (strategy : Strategy) :
    strategy.normal.describe selector = strategy.describe selector := by
  cases strategy <;> rfl

/-- Strategies that read all matches alike and are described alike make for the same field. -/
theorem resolve_select_congr {selector name : String} {strategy strategy' : Strategy}
    {flags : Flags} {root : ν}
    (hread : ∀ node : ν, strategy.read name node = strategy'.read name node)
    (hdescribe : strategy.describe selector = strategy'.describe selector) :
    (Field.select selector strategy flags).resolve name root =
      (Field.select selector strategy' flags).resolve name root := by
  cases hselect : Source.select root selector with
  | error e => rw [resolve_select_of_error hselect, resolve_select_of_error hselect]
  | ok nodes =>
      cases nodes with
      | nil => rw [resolve_select_of_nil hselect, resolve_select_of_nil hselect]
      | cons first more =>
          cases hlist : flags.asList with
          | true =>
              rw [resolve_list_of_matches hselect hlist, resolve_list_of_matches hselect hlist]
              simp only [hread]
          | false =>
              rw [resolve_single_of_matches hselect hlist, resolve_single_of_matches hselect hlist,
                hread, hdescribe]

/-! ## Alternatives -/

/-- No fallback can tell the two fields apart: they have the same outcome, or both are
passed over. -/
def Field.Interchangeable (name : String) (root : ν) (f g : Field) : Prop :=
  f.resolve name root = g.resolve name root ∨
    (f.PassedOver name root ∧ g.PassedOver name root)

section Alternative

variable {name : String} {root : ν} {f g : Field} {rest rest' alternatives : List Field}

theorem Field.PassedOver.of_isEmpty {v : Value} (h : f.resolve name root = .ok v)
    (hempty : v.isEmpty = true) : f.PassedOver name root :=
  .inl ⟨v, h, hempty⟩

theorem Field.PassedOver.of_missing {shown : String}
    (h : f.resolve name root = .error (.missing name shown)) : f.PassedOver name root :=
  .inr ⟨_, h, rfl⟩

theorem firstFound_cons_congr (h : f.Interchangeable name root g)
    (hrest : firstFound name root rest = firstFound name root rest') :
    firstFound name root (f :: rest) = firstFound name root (g :: rest') := by
  rcases h with hsame | ⟨hf, hg⟩
  · rw [firstFound, firstFound, hsame, hrest]
  · rw [firstFound_of_passedOver hf, firstFound_of_passedOver hg, hrest]

/-- A fallback that starts with another one finds what it would find if the
alternatives of the other stood in its place. -/
theorem firstFound_firstOf (flags : Flags) :
    firstFound name root (.firstOf alternatives flags :: rest) =
      firstFound name root (alternatives ++ rest) := by
  have houter := resolve_firstOf_eq name root alternatives flags
  rcases firstFound_cases name root alternatives with
    ⟨hnone, hall⟩ | ⟨before, f, after, rfl, hbefore, ⟨v, hv, hres, hempty⟩ | ⟨e, he, hres, hmissing⟩⟩
  · have hpassed : (Field.firstOf alternatives flags).PassedOver name root := by
      simp only [hnone] at houter
      cases hreq : flags.required with
      | true => exact .of_missing (by rw [houter, if_pos hreq])
      | false => exact .of_isEmpty (by rw [houter, if_neg (by simp [hreq])]) rfl
    rw [firstFound_of_passedOver hpassed, firstFound_append hall]
  · simp only [hv] at houter
    rw [firstFound_of_found houter hempty, List.append_assoc, firstFound_append hbefore,
      List.cons_append, firstFound_of_found hres hempty]
  · simp only [he] at houter
    rw [firstFound_of_failed houter hmissing, List.append_assoc, firstFound_append hbefore,
      List.cons_append, firstFound_of_failed hres hmissing]

/-- An alternative that matches nothing is passed over, whatever its flags. -/
theorem passedOver_of_nil {selector : String} {strategy : Strategy} {flags : Flags}
    (hselect : Source.select root selector = .ok []) :
    (Field.select selector strategy flags).PassedOver name root := by
  have hres : (Field.select selector strategy flags).resolve name root =
      if flags.required then .error (.missing name selector)
      else .ok (if flags.asList then .list [] else .absent) := resolve_select_of_nil hselect
  cases hreq : flags.required with
  | true => exact .of_missing (by rw [hres, if_pos hreq])
  | false =>
      rw [if_neg (by simp [hreq])] at hres
      exact .of_isEmpty hres (by cases flags.asList <;> rfl)

/-- So is one whose first match lacks the attribute. -/
theorem passedOver_of_absent {selector : String} {strategy : Strategy} {flags : Flags} {first : ν}
    {more : List ν} (hselect : Source.select root selector = .ok (first :: more))
    (hlist : flags.asList = false) (hread : strategy.read name first = .ok .absent) :
    (Field.select selector strategy flags).PassedOver name root := by
  have hres : (Field.select selector strategy flags).resolve name root =
      if flags.required then .error (.missing name (strategy.describe selector))
      else .ok .absent := by
    rw [resolve_single_of_matches hselect hlist, hread]
    simp [Value.isAbsent]
  cases hreq : flags.required with
  | true => exact .of_missing (by rw [hres, hreq]; rfl)
  | false => exact .of_isEmpty (by rw [hres, hreq]; rfl) rfl

/-- Whether an alternative demands anything makes no difference to a fallback: what
fails for want of something is empty without the demand. -/
theorem interchangeable_of_asList {selector : String} {strategy : Strategy} {flags flags' : Flags}
    (h : flags.asList = flags'.asList) :
    (Field.select selector strategy flags).Interchangeable name root
      (.select selector strategy flags') := by
  cases hselect : Source.select root selector with
  | error e => exact .inl (by rw [resolve_select_of_error hselect, resolve_select_of_error hselect])
  | ok nodes =>
      cases nodes with
      | nil => exact .inr ⟨passedOver_of_nil hselect, passedOver_of_nil hselect⟩
      | cons first more =>
          cases hlist : flags'.asList with
          | true =>
              rw [hlist] at h
              left
              rw [resolve_list_of_matches hselect h, resolve_list_of_matches hselect hlist]
          | false =>
              rw [hlist] at h
              by_cases habsent : strategy.read name first = .ok .absent
              · exact .inr ⟨passedOver_of_absent hselect h habsent,
                  passedOver_of_absent hselect hlist habsent⟩
              · left
                rw [resolve_single_of_matches hselect h, resolve_single_of_matches hselect hlist]
                cases hread : strategy.read name first with
                | error e => rfl
                | ok v =>
                    have hv : v.isAbsent = false := by
                      rw [← Bool.not_eq_true, Value.isAbsent_iff]
                      rintro rfl
                      exact habsent hread
                    simp [hv]

end Alternative

/-! ## Fields and schemas -/

/-- What stands for several alternatives finds what they find, if this holds of each. -/
theorem firstFound_normalAlternatives {name : String} {root : ν} {alternatives : List Field}
    {rest : List Field}
    (h : ∀ f ∈ alternatives, ∀ rest,
      firstFound name root (f.spliced ++ rest) = firstFound name root (f :: rest)) :
    firstFound name root (normalAlternatives alternatives ++ rest) =
      firstFound name root (alternatives ++ rest) := by
  induction alternatives with
  | nil => rw [normalAlternatives]
  | cons f alternatives ih =>
      obtain ⟨hf, halternatives⟩ := List.forall_mem_cons.1 h
      rw [normalAlternatives, List.append_assoc, hf]
      exact firstFound_cons_congr (.inl rfl) (ih halternatives)

/-- What stands for an alternative finds what the alternative finds. -/
theorem Field.firstFound_spliced {f : Field} {name : String} {root : ν}
    (hnested : ∀ t ∈ f.schemas, ∀ node : ν, t.normal.extract node = t.extract node)
    (rest : List Field) :
    firstFound name root (f.spliced ++ rest) = firstFound name root (f :: rest) := by
  induction f using Field.nested_induction generalizing rest with
  | select selector strategy flags _ =>
      have hread : ∀ node : ν, strategy.normal.read name node = strategy.read name node := by
        intro node
        exact Strategy.read_normal fun s hs => hnested s (by simp [hs]) node
      rw [Field.spliced, List.singleton_append]
      calc
        _ = firstFound name root
            (.select selector strategy { flags with required := false } :: rest) :=
          firstFound_cons_congr
            (.inl (resolve_select_congr hread (strategy.describe_normal selector))) rfl
        _ = firstFound name root (.select selector strategy flags :: rest) :=
          firstFound_cons_congr (interchangeable_of_asList rfl) rfl
  | firstOf alternatives flags ih =>
      rw [Field.spliced, firstFound_firstOf]
      refine firstFound_normalAlternatives fun f hf rest => ?_
      exact ih f hf (fun t ht => hnested t (Field.mem_schemas_firstOf.2 ⟨f, hf, ht⟩)) rest

/-- A well-formed field in normal form is resolved alike, if the schemas that it
applies are. -/
theorem Field.resolve_normal {f : Field} (hwf : f.WellFormed) {name : String} {root : ν}
    (hnested : ∀ t ∈ f.schemas, ∀ node : ν, t.normal.extract node = t.extract node) :
    f.normal.resolve name root = f.resolve name root := by
  cases f with
  | select selector strategy flags =>
      rw [Field.normal]
      refine resolve_select_congr (fun node => ?_) (strategy.describe_normal selector)
      exact Strategy.read_normal fun s hs => hnested s (by simp [hs]) node
  | firstOf alternatives flags =>
      have hfound : firstFound name root (normalAlternatives alternatives) =
          firstFound name root alternatives := by
        have hspliced : firstFound name root ((Field.firstOf alternatives flags).spliced ++ []) =
            firstFound name root [.firstOf alternatives flags] :=
          Field.firstFound_spliced hnested []
        rwa [Field.spliced, firstFound_firstOf, List.append_nil, List.append_nil] at hspliced
      have hdescribe := hwf.describe_normal
      rw [Field.normal] at hdescribe ⊢
      rw [resolve_firstOf_eq, resolve_firstOf_eq, hfound, hdescribe]

/-- A schema in normal form yields the same, if its fields do. -/
theorem Schema.extract_normal_of_fields {s : Schema} {root : ν}
    (h : ∀ p ∈ s.fields, p.2.normal.resolve p.1 root = p.2.resolve p.1 root) :
    s.normal.extract root = s.extract root := by
  rw [Schema.extract_eq, Schema.extract_eq, Schema.fields_normal, Schema.name_normal]
  congr 1
  apply collect_congr
  rw [List.forall₂_map_left_iff, List.forall₂_same]
  intro p hp
  rw [resolveDeclared, resolveDeclared, h p hp]

/-- A sound schema yields the same in normal form. -/
theorem Schema.Sound.extract_normal {s : Schema} (h : s.Sound) (root : ν) :
    s.normal.extract root = s.extract root := by
  induction h generalizing root with
  | @intro s checked _ ih =>
      refine Schema.extract_normal_of_fields fun p hp => ?_
      exact Field.resolve_normal (checked.wellFormed p hp) fun t ht node => ih p hp t ht node

/-- **Normalising changes nothing**: the normal form of a schema that has been obtained
can be obtained too, has nothing left to normalise, and yields the same record or the
same error at every node of every source. -/
theorem Schema.Obtained.extract_normal_eq {s : Schema} (h : s.Obtained) (root : ν) :
    s.normal.Obtained ∧ s.normal.IsNormal ∧ s.normal.extract root = s.extract root :=
  ⟨h.sound.normal.obtained, s.isNormal_normal, h.sound.extract_normal root⟩

namespace Normalised

/-- Someone who is named in one of three places. -/
def author : Schema := ⟨"Author", [
  ("name", .firstOf [.select "b" .any { required := true },
    .firstOf [.select "a" (.attr "title") { required := true }, .select "i" .text {}]
      { required := true }] { required := true })]⟩

/-- A post by someone, and what is said to it. -/
def post : Schema := ⟨"Post", [
  ("by", .firstOf [.firstOf [.select ".by" (.nested author) {}] {}, .select "u" .any {}] {}),
  ("said", .select "p" .any { required := true, asList := true }),
  ("authors", .select "li" (.nested author) { asList := true })]⟩

/-- In normal form every fallback tries selectors only, and none of them insists. -/
example : author.normal = ⟨"Author", [
    ("name", .firstOf [.select "b" .text {}, .select "a" (.attr "title") {}, .select "i" .text {}]
      { required := true })]⟩ := by
  rfl

/-- Two authors without a name in a place where one is looked for first. -/
def page : Listed := .node "" [] [
  (".by", [.node "" [] [("a", [.leaf "x"])]]),
  ("p", [.leaf "y"]),
  ("li", [.node "" [] [("i", [.leaf "z"])], .node "" [] [("b", [.leaf ""])]])]

theorem obtained_post : post.Obtained := by
  have hauthor : author.Obtained :=
    .built (b := ⟨author.name, author.fields⟩) rfl (by simp [author])
  exact .built (b := ⟨post.name, post.fields⟩) rfl (by simpa [post] using hauthor)

/-- A post whose second author is missed, with all that the report shows. -/
theorem extract_normal_post :
    post.Obtained ∧ post.normal.Obtained ∧ post.normal.IsNormal ∧
      post.normal.extract page = post.extract page ∧
      post.extract page = .error (.missingField "name" "authors.name" "b | a | i") :=
  have h := Schema.Obtained.extract_normal_eq obtained_post page
  ⟨obtained_post, h.1, h.2.1, h.2.2, by rfl⟩

end Normalised

end Glean
