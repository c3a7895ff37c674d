import Glean.Proofs.Extraction.Listed

/-!
# Glean.Proofs.Extraction.Agreement

What extraction reads of a source, and that it reads nothing else.  Two nodes,
maybe of two different sources, agree on a schema (`Schema.Agree`) if every
selector that is run on them meets the same refusal, or no match on either side,
or matches on both sides that have in common what the field reads: all of them
in pairs for a list field, the first ones for any other.  Below a nested field
the matches have to agree on the nested schema.

Nodes that agree yield the same record or the same error, to the last detail of
it.  Selectors that the schema does not run, attributes that no field names and
matches behind the first of a single field have no influence.
-/

namespace Glean

variable {ν μ : Type} [Source ν] [Source μ]

/-! ## Agreement -/

mutual

/-- The two nodes agree on every declared field of the schema. -/
def Schema.Agree (a : ν) (b : μ) : Schema → Prop
  | ⟨_, fields⟩ => AllAgree a b fields

/-- The two nodes agree on each of the declared fields. -/
def AllAgree (a : ν) (b : μ) : List (String × Field) → Prop
  | [] => True
  | (_, f) :: rest => f.Agree a b ∧ AllAgree a b rest

/-- The two nodes agree on the field: the same refusal, no match on either side,
or matches on both sides that agree as far as the field reads them. -/
def Field.Agree (a : ν) (b : μ) : Field → Prop
  | .select selector strategy flags =>
    match Source.select a selector, Source.select b selector with
    | .error d, .error e => d = e
    | .ok [], .ok [] => True
    | .ok (x :: xs), .ok (y :: ys) =>
      if flags.asList then List.Forall₂ (fun m n => strategy.Agree m n) (x :: xs) (y :: ys)
      else strategy.Agree x y
    | _, _ => False
  | .firstOf alternatives _ => AlternativesAgree a b alternatives

/-- The two nodes agree on each of the alternatives. -/
def AlternativesAgree (a : ν) (b : μ) : List Field → Prop
  | [] => True
  | f :: rest => f.Agree a b ∧ AlternativesAgree a b rest

/-- Two matches have in common what the strategy reads of them. -/
def Strategy.Agree (a : ν) (b : μ) : Strategy → Prop
  | .text | .any => Source.text a = Source.text b
  | .content => Source.attr? a "content" = Source.attr? b "content" ∧ Source.text a = Source.text b
  | .attr key => Source.attr? a key = Source.attr? b key
  | .nested s => s.Agree a b

end

theorem Schema.agree_iff {s : Schema} {a : ν} {b : μ} :
    s.Agree a b ↔ ∀ p ∈ s.fields, p.2.Agree a b := by
  obtain ⟨name, fields⟩ := s
  rw [Schema.Agree]
  induction fields with
  | nil => simp [AllAgree]
  | cons p rest ih =>
      obtain ⟨key, f⟩ := p
      rw [AllAgree, ih, List.forall_mem_cons]

theorem alternativesAgree_iff {alternatives : List Field} {a : ν} {b : μ} :
    AlternativesAgree a b alternatives ↔ ∀ f ∈ alternatives, f.Agree a b := by
  induction alternatives with
  | nil => simp [AlternativesAgree]
  | cons f rest ih => rw [AlternativesAgree, ih, List.forall_mem_cons]

/-- What it is for two nodes to agree on a field that selects. -/
theorem Field.agree_select_cases {selector : String} {strategy : Strategy} {flags : Flags}
    {a : ν} {b : μ} (h : (Field.select selector strategy flags).Agree a b) :
    (∃ e, Source.select a selector = .error e ∧ Source.select b selector = .error e) ∨
      (Source.select a selector = .ok [] ∧ Source.select b selector = .ok []) ∨
      ∃ x xs y ys, Source.select a selector = .ok (x :: xs) ∧
        Source.select b selector = .ok (y :: ys) ∧
        if flags.asList then List.Forall₂ (fun m n => strategy.Agree m n) (x :: xs) (y :: ys)
        else strategy.Agree x y := by
  rw [Field.Agree] at h
  split at h
  · next d e ha hb =>
      subst h
      exact .inl ⟨d, ha, hb⟩
  · next ha hb => exact .inr (.inl ⟨ha, hb⟩)
  · next x xs y ys ha hb => exact .inr (.inr ⟨x, xs, y, ys, ha, hb, h⟩)
  · contradiction

/-! ## Equal outcomes -/

/-- Matches that agree are read alike, if the fields of a nested schema are resolved alike. -/
theorem Strategy.read_congr {strategy : Strategy} {name : String} {a : ν} {b : μ}
    (h : strategy.Agree a b)
    (hnested : ∀ s, strategy = .nested s → ∀ p ∈ s.fields, p.2.Agree a b →
      p.2.resolve p.1 a = p.2.resolve p.1 b) :
    strategy.read name a = strategy.read name b := by
  cases strategy with
  | text | any =>
      rw [Strategy.Agree] at h
      rw [Strategy.read, Strategy.read, h]
  | content =>
      rw [Strategy.Agree] at h
      rw [Strategy.read, Strategy.read, h.1, h.2]
  | attr key =>
      rw [Strategy.Agree] at h
      rw [Strategy.read, Strategy.read, h]
  | nested s =>
      rw [Strategy.Agree, Schema.agree_iff] at h
      have hextract : s.extract a = s.extract b :=
        Schema.extract_congr fun p hp => hnested s rfl p hp (h p hp)
      rw [Strategy.read, Strategy.read, hextract]

/-- Alternatives that are resolved alike make for the same fallback. -/
theorem firstFound_congr {name : String} {a : ν} {b : μ} {alternatives : List Field}
    (h : ∀ f ∈ alternatives, f.resolve name a = f.resolve name b) :
    firstFound name a alternatives = firstFound name b alternatives := by
  induction alternatives with
  | nil => rw [firstFound, firstFound]
  | cons f rest ih =>
      obtain ⟨hf, hrest⟩ := List.forall_mem_cons.1 h
      rw [firstFound, firstFound, hf, ih hrest]

/-- A field is resolved alike at roots that answer alike the selectors it tries on them. -/
theorem Field.resolve_eq_of_select_eq {f : Field} {name : String} {a b : ν}
    (h : ∀ selector ∈ f.leaves, Source.select a selector = Source.select b selector) :
    f.resolve name a = f.resolve name b := by
  induction f using Field.nested_induction with
  | select selector strategy flags _ =>
      have hselect : Source.select a selector = Source.select b selector :=
        h selector (by rw [Field.leaves]; exact List.mem_singleton_self selector)
      rw [Field.resolve, Field.resolve, hselect]
  | firstOf alternatives flags ih =>
      rw [Field.leaves, leavesOf_eq_flatMap] at h
      have hfound : firstFound name a alternatives = firstFound name b alternatives :=
        firstFound_congr fun f hf => ih f hf fun selector hselector =>
          h selector (List.mem_flatMap.2 ⟨f, hf, hselector⟩)
      rw [resolve_firstOf_eq, resolve_firstOf_eq, hfound]

/-- A field is resolved alike at nodes that agree on it. -/
theorem Field.resolve_congr {f : Field} {name : String} {a : ν} {b : μ} (h : f.Agree a b) :
    f.resolve name a = f.resolve name b := by
  induction f using Field.nested_induction generalizing name a b with
  | select selector strategy flags ih =>
      have hread : ∀ (m : ν) (n : μ), strategy.Agree m n →
          strategy.read name m = strategy.read name n := by
        intro m n hmn
        exact Strategy.read_congr hmn fun s hs p hp hagree => ih s hs p hp hagree
      rcases Field.agree_select_cases h with
        ⟨e, ha, hb⟩ | ⟨ha, hb⟩ | ⟨x, xs, y, ys, ha, hb, hmatches⟩
      · rw [resolve_select_of_error ha, resolve_select_of_error hb]
      · rw [resolve_select_of_nil ha, resolve_select_of_nil hb]
      · cases hlist : flags.asList with
        | true =>
            rw [if_pos hlist] at hmatches
            rw [resolve_list_of_matches ha hlist, resolve_list_of_matches hb hlist]
            congr 1
            exact collect_congr (hmatches.imp hread)
        | false =>
            rw [if_neg (by simp [hlist])] at hmatches
            rw [resolve_single_of_matches ha hlist, resolve_single_of_matches hb hlist,
              hread x y hmatches]
  | firstOf alternatives flags ih =>
      rw [Field.Agree, alternativesAgree_iff] at h
      rw [resolve_firstOf_eq, resolve_firstOf_eq,
        firstFound_congr fun f hf => ih f hf (h f hf)]

/-- **Extraction reads nothing else**: roots that agree on a schema, of whatever
sources, yield the same record or the same error. -/
theorem Schema.extract_eq_of_agree {s : Schema} {a : ν} {b : μ} (h : s.Agree a b) :
    s.extract a = s.extract b :=
  Schema.extract_congr fun p hp => Field.resolve_congr (Schema.agree_iff.1 h p hp)

namespace Agreement

/-- A number as a node: below it stand the smaller numbers, whatever is asked for,
and its text counts it in strokes. -/
structure Tally where
  count : Nat

instance : Source Tally where
  select n _ := .ok ((List.range n.count).map Tally.mk)
  text n := String.ofList (List.replicate n.count '|')
  attr? _ _ := none

/-- All items, each with its first mark if there is one. -/
def items : Schema := ⟨"Items", [
  ("items", .select "li" (.nested ⟨"Item", [
    ("mark", .firstOf [.select "a" (.attr "href") {}, .select "b" .content {}] {}),
    ("text", .select "i" .text {})]⟩) { asList := true })]⟩

/-- Three items that look like the numbers below three, but for what no field reads. -/
def listed : Listed := .node "ignored" [] [
  ("li", [
    .node "" [] [],
    .node "one" [] [("a", [.leaf "x"]), ("b", [.leaf ""]), ("i", [.leaf "", .leaf "later"])],
    .node "two" [("href", "/")]
      [("a", [.leaf ""]), ("b", [.leaf ""]), ("i", [.leaf ""]), ("u", [.leaf "other"])]]),
  ("p", [.leaf "other"])]

theorem agree_items : items.Agree listed (Tally.mk 3) := by
  simp [items, listed, Listed.leaf, Schema.Agree, AllAgree, Field.Agree, AlternativesAgree,
    Strategy.Agree, Source.select, Source.text, Source.attr?, List.range, List.range.loop,
    List.lookup_cons, List.lookup_nil]

/-- A listed node and a number yield the same record. -/
theorem extract_items :
    items.Agree listed (Tally.mk 3) ∧ items.extract listed = items.extract (Tally.mk 3) :=
  ⟨agree_items, Schema.extract_eq_of_agree agree_items⟩

end Agreement

end Glean
