import Glean.Proofs.Extraction.FailFast

/-!
# Glean.Proofs.Extraction.Modes

The two modes of a field that selects: it keeps its first match, or every match in a list.
What a match becomes is the same in both (`Strategy.Makes`), so the list tells the single
value, and the failure of the list is that of the single field.  There are two exceptions.
The list does not mind that its first match lacks an attribute, on which a single field
insists if it is required; and the single field does not get to a later match, which the
nested schema may fail on (`FailsLater`).
-/

namespace Glean

variable {ν : Type} [Source ν]

/-! ## Texts of matches -/

/-- The text or the attribute that a strategy without a schema looks for, if the node has it. -/
def Strategy.text? (node : ν) : Strategy → Option String
  | .text | .any => some (Source.text node)
  | .content => some ((Source.attr? node "content").getD (Source.text node))
  | .attr key => Source.attr? node key
  | .nested _ => none

theorem Strategy.Makes.asText?_eq {strategy : Strategy} {node : ν} {v : Value}
    (h : strategy.Makes node v) : v.asText? = strategy.text? node := by
  cases h with
  | text => rfl
  | any => rfl
  | content => rfl
  | attr there => exact there.symm
  | lacking lacks => exact lacks.symm
  | nested extracted => rfl

/-- The texts of a list are those of the matches that have one, in their order. -/
theorem texts_list_eq {strategy : Strategy} {nodes : List ν} {vs : List Value}
    (h : List.Forall₂ strategy.Makes nodes vs) :
    (Value.list vs).texts = nodes.filterMap strategy.text? := by
  show vs.filterMap Value.asText? = nodes.filterMap strategy.text?
  induction h with
  | nil => rfl
  | cons hmakes _ ih => rw [List.filterMap_cons, List.filterMap_cons, hmakes.asText?_eq, ih]

/-! ## From the list to the single value -/

section Modes

variable {selector name : String} {strategy : Strategy} {required : Bool} {root : ν}

/-- A single field has what its first match becomes, unless it is required and this is
nothing. -/
theorem resolve_single_of_makes {first : ν} {more : List ν} {v : Value}
    (hselect : Source.select root selector = .ok (first :: more))
    (hmakes : strategy.Makes first v) :
    (Field.select selector strategy { required := required }).resolve name root =
      if required && v.isAbsent then .error (.missing name (strategy.describe selector))
      else .ok v := by
  have hread : strategy.read name first = .ok v := Strategy.read_eq_ok_iff.2 hmakes
  rw [resolve_single_of_matches hselect rfl, hread]

/-- What the single field comes to where the list has these items. -/
inductive HeadOf (selector name : String) (strategy : Strategy) (required : Bool) :
    List Value → Except ExtractionError Value → Prop where
  | nothing : HeadOf selector name strategy required [] (.ok .absent)
  | lacking {key : String} {rest : List Value} (insists : required = true)
      (attr : strategy = .attr key) : HeadOf selector name strategy required (.absent :: rest)
        (.error (.missingField name name (selector ++ "[" ++ key ++ "]")))
  | head {v : Value} {rest : List Value}
      (has : ¬ (required = true ∧ (∃ key, strategy = .attr key) ∧ v = .absent)) :
      HeadOf selector name strategy required (v :: rest) (.ok v)

/-- A list tells what the single field comes to. -/
theorem headOf_of_makes {nodes : List ν} {vs : List Value}
    (hselect : Source.select root selector = .ok nodes)
    (hmakes : List.Forall₂ strategy.Makes nodes vs) (hreq : nodes = [] → required = false) :
    HeadOf selector name strategy required vs
      ((Field.select selector strategy { required := required }).resolve name root) := by
  cases hmakes with
  | nil =>
      rw [resolve_select_of_nil hselect, hreq rfl]
      exact .nothing
  | @cons first v more rest hfirst _ =>
      rw [resolve_single_of_makes hselect hfirst]
      by_cases hlacks : (required && v.isAbsent) = true
      · rw [if_pos hlacks]
        rw [Bool.and_eq_true, Value.isAbsent_iff] at hlacks
        obtain ⟨hrequired, rfl⟩ := hlacks
        cases hfirst
        exact .lacking hrequired rfl
      · rw [if_neg hlacks]
        refine .head fun hattr => hlacks ?_
        obtain ⟨hrequired, -, rfl⟩ := hattr
        rw [hrequired]
        rfl

/-- A list field has one item for every match. -/
theorem resolve_asList_eq_ok {w : Value}
    (h : (Field.select selector strategy { required := required }).asList.resolve name root =
      .ok w) :
    ∃ nodes vs, Source.select root selector = .ok nodes ∧ w = .list vs ∧
      List.Forall₂ strategy.Makes nodes vs ∧ (nodes = [] → required = false) := by
  obtain ⟨hselect, hreq, rfl⟩ | ⟨first, more, vs, hselect, -, rfl, hread⟩ |
    ⟨first, more, -, hlist, -⟩ := resolve_select_ok_cases h
  · exact ⟨[], [], hselect, rfl, .nil, fun _ => hreq⟩
  · have hmakes := hread.imp fun _ _ hv => Strategy.read_eq_ok_iff.1 hv
    exact ⟨first :: more, vs, hselect, rfl, hmakes, nofun⟩
  · contradiction

/-- The first match is extracted, and a later one is the first that fails. -/
def FailsLater (strategy : Strategy) (name : String) (nodes : List ν) (r : Record)
    (e : ExtractionError) : Prop :=
  ∃ s first before node after d, strategy = .nested s ∧
    nodes = first :: (before ++ node :: after) ∧ s.extract first = .ok r ∧
    (∀ m ∈ before, ∃ r', s.extract m = .ok r') ∧ s.extract node = .error d ∧ e = d.within name

/-- The single field has the record of the first match, whatever a later one fails with. -/
theorem FailsLater.resolve_single {nodes : List ν} {r : Record} {e : ExtractionError}
    (h : FailsLater strategy name nodes r e) (hselect : Source.select root selector = .ok nodes) :
    (Field.select selector strategy { required := required }).resolve name root =
      .ok (.record r) := by
  obtain ⟨s, first, before, node, after, d, rfl, rfl, hfirst, -⟩ := h
  rw [resolve_single_of_makes hselect (.nested hfirst)]
  simp [Value.isAbsent]

/-- A list field fails as the single field does, or at a later match. -/
theorem resolve_asList_eq_error {e : ExtractionError}
    (h : (Field.select selector strategy { required := required }).asList.resolve name root =
      .error e) :
    (Field.select selector strategy { required := required }).resolve name root = .error e ∨
      ∃ nodes r, Source.select root selector = .ok nodes ∧ FailsLater strategy name nodes r e := by
  rw [Field.asList, Field.withFlags, Field.flags] at h
  cases hselect : Source.select root selector with
  | error d =>
      rw [resolve_select_of_error hselect] at h ⊢
      exact .inl h
  | ok nodes =>
      cases nodes with
      | nil =>
          rw [resolve_select_of_nil hselect] at h ⊢
          cases required with
          | true => exact .inl h
          | false => contradiction
      | cons first more =>
          rw [resolve_list_of_matches hselect rfl, map_eq_error_iff] at h
          obtain ⟨before, node, after, hsplit, hbefore, hnode⟩ := collect_eq_error_iff.1 h
          cases before with
          | nil =>
              injection hsplit with hfirst _
              subst hfirst
              refine .inl ?_
              rw [resolve_single_of_matches hselect rfl, hnode]
          | cons m before =>
              injection hsplit with hm hmore
              subst hm hmore
              obtain ⟨s, d, rfl, hextract, rfl⟩ := Strategy.read_eq_error_iff.1 hnode
              simp only [Strategy.exists_read_nested_iff, List.forall_mem_cons] at hbefore
              obtain ⟨⟨r, hr⟩, hbefore⟩ := hbefore
              exact .inr ⟨_, r, rfl, s, first, before, node, after, d, rfl, rfl, hr, hbefore,
                hextract, rfl⟩

end Modes

/-- **Single and list mode agree**: a list has one item for every match, in their order,
and its head is what the single field has, unless this is required and lacks its attribute;
an empty list goes with an absent value.  Where the list fails the single field fails alike,
unless a nested schema extracts the first match and fails on a later one.  The texts of the
list are those of the matches that have one. -/
theorem Field.resolve_modes (selector : String) (strategy : Strategy) (required : Bool)
    (name : String) (root : ν) :
    (∀ w, (Field.select selector strategy { required := required }).asList.resolve name root =
        .ok w →
      ∃ nodes vs, Source.select root selector = .ok nodes ∧ w = .list vs ∧
        List.Forall₂ strategy.Makes nodes vs ∧
        HeadOf selector name strategy required vs
          ((Field.select selector strategy { required := required }).resolve name root) ∧
        ((∀ s, strategy ≠ .nested s) → w.texts = nodes.filterMap strategy.text?)) ∧
    ∀ e, (Field.select selector strategy { required := required }).asList.resolve name root =
        .error e →
      (∀ nodes r, Source.select root selector = .ok nodes → FailsLater strategy name nodes r e →
        (Field.select selector strategy { required := required }).resolve name root =
          .ok (.record r)) ∧
      ((∀ nodes r, Source.select root selector = .ok nodes →
          ¬ FailsLater strategy name nodes r e) →
        (Field.select selector strategy { required := required }).resolve name root =
          .error e) := by
  refine ⟨fun w hw => ?_, fun e he => ⟨fun nodes r hselect hlater => ?_, fun hnone => ?_⟩⟩
  · obtain ⟨nodes, vs, hselect, rfl, hmakes, hreq⟩ := resolve_asList_eq_ok hw
    exact ⟨nodes, vs, hselect, rfl, hmakes, headOf_of_makes hselect hmakes hreq,
      fun _ => texts_list_eq hmakes⟩
  · exact hlater.resolve_single hselect
  · obtain hsame | ⟨nodes, r, hselect, hlater⟩ := resolve_asList_eq_error he
    · exact hsame
    · exact absurd hlater (hnone nodes r hselect)

namespace Modes

open FailFast (author known wall)

/-- Two links, the first of which leads nowhere. -/
def links : Listed :=
  .node "" [] [("a", [.leaf "x", .node "y" [("href", "/y")] []])]

/-- The list has an item for the first link, which has no text in it, where a single field
insists on the attribute; and the list fails on the second author, who has no name, where
a single field has the first. -/
theorem resolve_links_authors :
    ((Field.select "a" (.attr "href") { required := true }).asList.resolve "to" links =
        .ok (.list [.absent, .text "/y"]) ∧
      (Value.list [.absent, .text "/y"]).texts = ["/y"] ∧
      (Field.select "a" (.attr "href") { required := true }).resolve "to" links =
        .error (.missingField "to" "to" "a[href]")) ∧
    (Field.select "li" (.nested (author [])) {}).asList.resolve "by" (wall [known, .leaf ""]) =
        .error (.missingField "name" "by.name" "b") ∧
      (Field.select "li" (.nested (author [])) {}).resolve "by" (wall [known, .leaf ""]) =
        .ok (.record ⟨"Author", [("name", .text "x")]⟩) := by
  have hlinks : (Field.select "a" (.attr "href") { required := true }).asList.resolve "to" links =
      .ok (.list [.absent, .text "/y"]) := rfl
  have hauthors : (Field.select "li" (.nested (author [])) {}).asList.resolve "by"
      (wall [known, .leaf ""]) = .error (.missingField "name" "by.name" "b") := rfl
  refine ⟨?_, hauthors, ?_⟩
  · obtain ⟨hok, -⟩ := Field.resolve_modes "a" (.attr "href") true "to" links
    obtain ⟨nodes, vs, hselect, hvs, -, hhead, htexts⟩ := hok _ hlinks
    cases hselect
    cases hvs
    refine ⟨hlinks, htexts nofun, ?_⟩
    generalize (Field.select "a" (.attr "href") { required := true }).resolve "to" links = x
      at hhead
    cases hhead with
    | lacking insists attr =>
        cases attr
        rfl
    | head has => exact absurd ⟨rfl, ⟨_, rfl⟩, rfl⟩ has
  · obtain ⟨-, herror⟩ := Field.resolve_modes "li" (.nested (author [])) false "by"
      (wall [known, .leaf ""])
    obtain ⟨hlater, -⟩ := herror _ hauthors
    refine hlater _ _ rfl ?_
    exact ⟨_, known, [], .leaf "", [], .missing "name" "b", rfl, rfl, rfl, by simp, rfl, rfl⟩

end Modes

end Glean
