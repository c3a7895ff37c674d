import Glean.Proofs.Extraction.Listed
import Glean.Proofs.Schema.Obtained
import Glean.Proofs.Value.Reordered

/-!
# Glean.Proofs.Extraction.Reordered

Schemas that are equal up to the order of their declarations, in the schema itself and in
any schema inside it (`Schema.Reordered`); alternatives of a fallback keep their order.
Two runs break off at different places then, but where the source answers all selectors
they break off in the same cases, and for want of something.  This is what makes a fallback
pass over an alternative in both runs or in neither, however deep the two differ below it.

Where the runs do not break off their records are equal up to order, and the same as JSON
with sorted keys (`Schema.extract_reordered`).
-/

namespace Glean

/-! ## Order of declarations -/

mutual

/-- Equal up to the order of declarations: `middle` has the fields of the first schema,
each equal so far, and they are those of the second in some order. -/
inductive Schema.Reordered : Schema → Schema → Prop where
  | intro {name : String} {fields middle fields' : List (String × Field)}
      (inner : List.Forall₂ (Named Field.Reordered) fields middle)
      (order : middle.Perm fields') :
      Schema.Reordered ⟨name, fields⟩ ⟨name, fields'⟩

/-- Equal up to the order of declarations in nested schemas. -/
inductive Field.Reordered : Field → Field → Prop where
  | select {selector : String} {strategy strategy' : Strategy} {flags : Flags}
      (strategies : Strategy.Reordered strategy strategy') :
      Field.Reordered (.select selector strategy flags) (.select selector strategy' flags)
  | firstOf {alternatives alternatives' : List Field} {flags : Flags}
      (each : List.Forall₂ Field.Reordered alternatives alternatives') :
      Field.Reordered (.firstOf alternatives flags) (.firstOf alternatives' flags)

/-- Equal up to the order of declarations in the nested schema. -/
inductive Strategy.Reordered : Strategy → Strategy → Prop where
  | same {strategy : Strategy} (plain : strategy.schemas = []) :
      Strategy.Reordered strategy strategy
  | nested {s s' : Schema} (schemas : Schema.Reordered s s') :
      Strategy.Reordered (.nested s) (.nested s')

end

/-! ## Both runs miss something -/

/-- Both failures are about a missing field, maybe not the same one. -/
def BothMissing (d e : ExtractionError) : Prop :=
  d.isMissing = true ∧ e.isMissing = true

theorem BothMissing.isMissing_eq {d e : ExtractionError} (h : BothMissing d e) :
    d.isMissing = e.isMissing :=
  h.1.trans h.2.symm

/-- Whatever fails along the second of two related lists misses something. -/
theorem BothMissing.of_mem {α β γ δ : Type} {R : γ → δ → Prop}
    {f : α → Except ExtractionError γ} {g : β → Except ExtractionError δ}
    {xs : List α} {ys : List β}
    (h : List.Forall₂ (fun x y => Parallel R BothMissing (f x) (g y)) xs ys) {y : β} (hy : y ∈ ys)
    {e : ExtractionError} (he : g y = .error e) : e.isMissing = true := by
  induction h with
  | nil => cases hy
  | @cons x z xs ys hxz _ ih =>
      rcases List.mem_cons.1 hy with rfl | hy
      · rw [he] at hxz
        obtain ⟨d, -, related⟩ := hxz.exists_of_error
        exact related.2
      · exact ih hy

/-- Runs along related lists are related in any order of the second one. -/
theorem Parallel.collect_perm {α β γ δ : Type} {R : γ → δ → Prop}
    {f : α → Except ExtractionError γ} {g : β → Except ExtractionError δ}
    {xs : List α} {ys ys' : List β}
    (h : List.Forall₂ (fun x y => Parallel R BothMissing (f x) (g y)) xs ys)
    (order : ys.Perm ys') :
    Parallel (fun us vs => ∃ ws, List.Forall₂ R us ws ∧ ws.Perm vs) BothMissing
      (Glean.collect f xs) (Glean.collect g ys') := by
  have hrun := Parallel.collect h
  cases hys : Glean.collect g ys with
  | ok ws =>
      obtain ⟨vs, hvs, hperm⟩ := exists_collect_perm order hys
      rw [hys] at hrun
      obtain ⟨us, hus, related⟩ := hrun.exists_of_ok
      rw [hus, hvs]
      exact .ok ⟨ws, related, hperm⟩
  | error d =>
      rw [hys] at hrun
      obtain ⟨c, hc, related⟩ := hrun.exists_of_error
      -- In the other order some step fails too, maybe another one.
      cases hys' : Glean.collect g ys' with
      | ok vs =>
          obtain ⟨ws, hws, -⟩ := exists_collect_perm order.symm hys'
          rw [hys] at hws
          cases hws
      | error e =>
          obtain ⟨y, hy, he⟩ := exists_mem_of_collect_error hys'
          have hmissing := BothMissing.of_mem h (order.mem_iff.2 hy) he
          rw [hc]
          exact .error ⟨related.1, hmissing⟩

/-! ## Related outcomes -/

variable {ν : Type} [Source ν]

/-- Schemas that are equal up to order have records that are equal up to order, if their
fields have. -/
theorem Schema.Reordered.extract_parallel_of_fields {s s' : Schema} (h : s.Reordered s') {root : ν}
    (hfields : ∀ p ∈ s.fields, ∀ g, p.2.Reordered g →
      Parallel Value.Reordered BothMissing (p.2.resolve p.1 root) (g.resolve p.1 root)) :
    Parallel (fun r r' => Value.Reordered (.record r) (.record r')) BothMissing
      (s.extract root) (s'.extract root) := by
  cases h with
  | @intro name fields middle fields' inner order =>
      have hstep : List.Forall₂ (fun p q => Parallel (Named Value.Reordered) BothMissing
          (resolveDeclared root p) (resolveDeclared root q)) fields middle := by
        refine forall₂_imp_of_mem inner ?_
        rintro ⟨name, f⟩ hp _ ⟨hfg⟩
        exact resolveDeclared_parallel (hfields _ hp _ hfg)
      rw [Schema.extract_eq, Schema.extract_eq]
      refine (Parallel.collect_perm hstep order).map ?_
      rintro values values' ⟨between, hvalues, hperm⟩
      exact .record hvalues hperm

/-- A field has related outcomes up to the order of declarations in nested schemas. -/
theorem Field.Reordered.resolve_parallel {f g : Field} (h : f.Reordered g) {name : String}
    {root : ν} (hans : Answers ν f.selectors) :
    Parallel Value.Reordered BothMissing (f.resolve name root) (g.resolve name root) := by
  induction f using Field.nested_induction generalizing g name root with
  | select selector strategy flags ih =>
      cases h with
      | select strategies =>
          refine resolve_select_parallel Value.Reordered.congruent ?_ ?_ ?_ ?_
          · intro e he
            obtain ⟨nodes, hnodes⟩ := hans selector (Field.mem_selectors_select.2 (.inl rfl)) root
            rw [he] at hnodes
            cases hnodes
          · exact fun shown => ⟨rfl, rfl⟩
          · cases strategies <;> rfl
          · intro node
            cases strategies with
            | same plain => exact Strategy.read_parallel Value.Reordered.congruent plain node
            | @nested s s' schemas =>
                refine Strategy.read_nested_parallel
                  (fun d e h => by simpa [BothMissing] using h) ?_
                exact schemas.extract_parallel_of_fields fun p hp g hg =>
                  ih s rfl p hp hg (hans.nested.field hp)
  | firstOf alternatives flags ih =>
      cases h with
      | firstOf each =>
          refine resolve_firstOf_parallel Value.Reordered.congruent ⟨rfl, rfl⟩ ?_
          refine firstFound_parallel Value.Reordered.congruent
            (fun d e h => BothMissing.isMissing_eq h) ?_
          exact forall₂_imp_of_mem each fun f hf g hfg => ih f hf hfg (hans.alternative hf)

/-- Schemas that are equal up to order have records that are equal up to order, or both
miss something. -/
theorem Schema.Reordered.extract_parallel {s s' : Schema} (h : s.Reordered s')
    (hans : Answers ν s.selectors) (root : ν) :
    Parallel (fun r r' => Value.Reordered (.record r) (.record r')) BothMissing
      (s.extract root) (s'.extract root) :=
  h.extract_parallel_of_fields fun _ hp _ hg => hg.resolve_parallel (hans.field hp)

/-- **The order of declarations decides nothing but order**: where a source answers all
selectors, schemas that are equal up to order both yield a record or both miss something.
The records have values that are equal up to order under every name, and they are the same
as JSON with sorted keys. -/
theorem Schema.extract_reordered {s s' : Schema} (hs : s.Obtained) (h : s.Reordered s')
    (hans : Answers ν s.selectors) (root : ν) :
    ((∃ r, s.extract root = .ok r) ↔ ∃ r', s'.extract root = .ok r') ∧
      (∀ r r', s.extract root = .ok r → s'.extract root = .ok r' →
        (∀ name, Option.Rel Value.Reordered (r.get? name) (r'.get? name)) ∧
          r.toJson = r'.toJson) ∧
      ∀ d e, s.extract root = .error d → s'.extract root = .error e →
        (∃ field path selector, d = .missingField field path selector) ∧
          ∃ field path selector, e = .missingField field path selector := by
  have hparallel := h.extract_parallel hans root
  refine ⟨hparallel.exists_ok_iff, ?_, ?_⟩
  · intro r r' hr hr'
    have hdistinct := hs.sound.distinct_of_extract hr
    rw [hr, hr'] at hparallel
    obtain ⟨_, ⟨rfl⟩, related⟩ := hparallel.exists_of_ok
    have hjson : r.toJson = r'.toJson := by
      simpa only [Value.toJson] using related.toJson_eq hdistinct
    exact ⟨related.get? hdistinct, hjson⟩
  · intro d e hd he
    rw [hd, he] at hparallel
    obtain ⟨_, ⟨rfl⟩, related⟩ := hparallel.exists_of_error
    exact ⟨ExtractionError.isMissing_iff.1 related.1, ExtractionError.isMissing_iff.1 related.2⟩

namespace Reordered

/-- A mark, and maybe a link, in one order or the other. -/
def cell (linkFirst : Bool) : Schema :=
  let mark := ("mark", .select "b" .text { required := true })
  let link := ("link", .select "a" (.attr "href") {})
  ⟨"Cell", if linkFirst then [link, mark] else [mark, link]⟩

/-- Cells, then a head that is a cell or else a title. -/
def sheet : Schema := ⟨"Sheet", [
  ("cells", .select "td" (.nested (cell false)) { asList := true }),
  ("head", .firstOf [.select "th" (.nested (cell false)) {}, .select "h1" .text {}]
    { required := true })]⟩

/-- The head first, and in every cell the link. -/
def turned : Schema := ⟨"Sheet", [
  ("head", .firstOf [.select "th" (.nested (cell true)) {}, .select "h1" .text {}]
    { required := true }),
  ("cells", .select "td" (.nested (cell true)) { asList := true })]⟩

theorem obtained_sheet : sheet.Obtained := by
  have hcell : (cell false).Obtained :=
    .built (b := ⟨"Cell", (cell false).fields⟩) rfl (by simp [cell])
  exact .built (b := ⟨sheet.name, sheet.fields⟩) rfl (by simpa [sheet] using hcell)

theorem reordered_cell : (cell false).Reordered (cell true) := by
  have hinner : List.Forall₂ (Named Field.Reordered) (cell false).fields (cell false).fields :=
    .cons ⟨.select (.same rfl)⟩ (.cons ⟨.select (.same rfl)⟩ .nil)
  exact .intro hinner (.swap _ _ _)

theorem reordered_sheet : sheet.Reordered turned := by
  have htitle : (Field.select "h1" .text {}).Reordered (.select "h1" .text {}) :=
    .select (.same rfl)
  exact .intro (.cons ⟨.select (.nested reordered_cell)⟩
    (.cons ⟨.firstOf (.cons (.select (.nested reordered_cell)) (.cons htitle .nil))⟩ .nil))
    (.swap _ _ _)

/-- A cell without a mark where a head is looked for first, and cells below it. -/
def page (titles cells : List Listed) : Listed := .node "" [] [
  ("th", [.node "" [] [("a", [.leaf ""])]]), ("h1", titles), ("td", cells)]

def marked : Listed := .node "" [] [("b", [.leaf "x"]), ("a", [.node "" [("href", "/")] []])]

/-- What the sheet yields on a page with a title and one marked cell, and what it yields
when its declarations are turned around; without a title, and with a cell that has no mark,
each reports what it comes to first. -/
theorem extract_turned :
    sheet.Obtained ∧ sheet.Reordered turned ∧ Answers Listed sheet.selectors ∧
      (∃ r r', sheet.extract (page [.leaf "y"] [marked]) = .ok r ∧
        turned.extract (page [.leaf "y"] [marked]) = .ok r' ∧
        r.names = ["cells", "head"] ∧ r'.names = ["head", "cells"] ∧
        (∀ name, Option.Rel Value.Reordered (r.get? name) (r'.get? name)) ∧
        r.toJson = r'.toJson) ∧
      ∃ d e, sheet.extract (page [] [marked, .leaf ""]) = .error d ∧
        turned.extract (page [] [marked, .leaf ""]) = .error e ∧
        d = .missingField "mark" "cells.mark" "b" ∧ e = .missingField "head" "head" "th | h1" ∧
        (∃ field path selector, d = .missingField field path selector) ∧
          ∃ field path selector, e = .missingField field path selector := by
  have hans : Answers Listed sheet.selectors := Listed.answers _
  have h := Schema.extract_reordered obtained_sheet reordered_sheet hans
  refine ⟨obtained_sheet, reordered_sheet, hans, ?_, ?_⟩
  · exact ⟨_, _, rfl, rfl, rfl, rfl, (h (page [.leaf "y"] [marked])).2.1 _ _ rfl rfl⟩
  · exact ⟨_, _, rfl, rfl, rfl, rfl, (h (page [] [marked, .leaf ""])).2.2 _ _ rfl rfl⟩

end Reordered

end Glean
