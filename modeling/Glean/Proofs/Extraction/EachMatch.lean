import Glean.Proofs.Extraction.FailFast

/-!
# Glean.Proofs.Extraction.EachMatch

One record for every match.  A schema can be applied to the matches of a selector by
itself (`Schema.extractAll`), or stand in a list field with that selector.  Both go along
the matches in document order, and what one comes to tells what the other does
(`resolve_list_nested_eq_extractAll`): the field puts the records into a list, and its own
name in front of the path of a missing field.
-/

namespace Glean

variable {ν : Type} [Source ν]

/-! ## The two runs -/

theorem Strategy.read_nested_eq (s : Schema) (name : String) (node : ν) :
    (Strategy.nested s).read name node =
      ((s.extract node).map Value.record).mapError (ExtractionError.within name) := by
  rw [Strategy.read]
  cases s.extract node <;> rfl

theorem Schema.extractAll_of_matches {s : Schema} {root : ν} {selector : String} {nodes : List ν}
    (hselect : Source.select root selector = .ok nodes) :
    s.extractAll root selector = collect (fun node => s.extract node) nodes := by
  rw [Schema.extractAll, hselect]

/-- A list field has the records of all matches, or fails as the run along them does, with
its name in front; only a refused selector is nothing that the name is put in front of. -/
theorem resolve_list_nested_eq_extractAll (honly : OnlyRefuses ν) (s : Schema)
    (selector name : String) (root : ν) :
    (Field.select selector (.nested s) {}).asList.resolve name root =
      ((s.extractAll root selector).map fun rs => .list (rs.map .record)).mapError
        (ExtractionError.within name) := by
  rw [Field.asList, Field.withFlags, Field.flags]
  cases hselect : Source.select root selector with
  | error e =>
      have hsame : e.within name = e := e.within_of_not_missing (honly.not_missing hselect) name
      rw [resolve_select_of_error hselect, Schema.extractAll, hselect]
      show Except.error e = Except.error (e.within name)
      rw [hsame]
  | ok nodes =>
      rw [Schema.extractAll_of_matches hselect]
      cases nodes with
      | nil =>
          rw [resolve_select_of_nil hselect]
          rfl
      | cons first more =>
          rw [resolve_list_of_matches hselect rfl,
            collect_mapped (fun node => Strategy.read_nested_eq s name node)]
          cases collect (fun node => s.extract node) (first :: more) <;> rfl

/-! ## Outcomes -/

theorem Schema.extractAll_eq_ok_iff {s : Schema} {root : ν} {selector : String}
    {rs : List Record} :
    s.extractAll root selector = .ok rs ↔ ∃ nodes, Source.select root selector = .ok nodes ∧
      List.Forall₂ (fun node r => s.extract node = .ok r) nodes rs := by
  rw [Schema.extractAll]
  cases Source.select root selector <;> simp [collect_eq_ok_iff]

/-- A run along the matches fails with its selector, or at the first match that the schema
does not extract. -/
theorem Schema.extractAll_eq_error_iff {s : Schema} {root : ν} {selector : String}
    {e : ExtractionError} :
    s.extractAll root selector = .error e ↔ Source.select root selector = .error e ∨
      ∃ before node after, Source.select root selector = .ok (before ++ node :: after) ∧
        (∀ m ∈ before, ∃ r, s.extract m = .ok r) ∧ s.extract node = .error e := by
  rw [Schema.extractAll]
  cases Source.select root selector <;> simp [collect_eq_error_iff]

/-- On a source that only refuses, what is not missing has been refused. -/
theorem OnlyRefuses.missing_or_refused (honly : OnlyRefuses ν) {s : Schema} {root : ν}
    {selector : String} {e : ExtractionError} (h : s.extractAll root selector = .error e) :
    (∃ field path wanted, e = .missingField field path wanted) ∨
      ∃ refused detail, e = .invalidSelector refused detail := by
  cases hm : e.isMissing with
  | true => exact .inl (ExtractionError.isMissing_iff.1 hm)
  | false =>
      obtain hselect | ⟨_, node, _, -, -, hnode⟩ := Schema.extractAll_eq_error_iff.1 h
      · exact .inr (honly root selector e hselect)
      · obtain ⟨other, -, at_, hat⟩ := Schema.exists_select_error hnode hm
        exact .inr (honly at_ other e hat)

/-- **A list field of records is one record for every match**: the field has the records
that the run along the matches has, one for each match and in their order.  One misses a
field exactly if the other does, which the list field reports below its own name, and one
refuses a selector exactly if the other does.  There is no other failure, and it is that of
the selector, or of the first match that the schema does not extract. -/
theorem Schema.extractAll_iff_list (s : Schema) (honly : OnlyRefuses ν) (selector name : String)
    (root : ν) :
    (∀ rs, s.extractAll root selector = .ok rs ↔
      (Field.select selector (.nested s) {}).asList.resolve name root =
        .ok (.list (rs.map .record))) ∧
    (∀ rs, s.extractAll root selector = .ok rs ↔
      ∃ nodes, Source.select root selector = .ok nodes ∧
        List.Forall₂ (fun node r => s.extract node = .ok r) nodes rs) ∧
    (∀ field path wanted, s.extractAll root selector = .error (.missingField field path wanted) ↔
      (Field.select selector (.nested s) {}).asList.resolve name root =
        .error (.missingField field (name ++ "." ++ path) wanted)) ∧
    (∀ refused detail, s.extractAll root selector = .error (.invalidSelector refused detail) ↔
      (Field.select selector (.nested s) {}).asList.resolve name root =
        .error (.invalidSelector refused detail)) ∧
    ∀ e, s.extractAll root selector = .error e →
      ((∃ field path wanted, e = .missingField field path wanted) ∨
        ∃ refused detail, e = .invalidSelector refused detail) ∧
      (Source.select root selector = .error e ∨
        ∃ before node after, Source.select root selector = .ok (before ++ node :: after) ∧
          (∀ m ∈ before, ∃ r, s.extract m = .ok r) ∧ s.extract node = .error e) := by
  rw [resolve_list_nested_eq_extractAll honly]
  refine ⟨fun rs => ?_, fun rs => Schema.extractAll_eq_ok_iff, fun field path wanted => ?_,
    fun refused detail => ?_,
    fun e he => ⟨honly.missing_or_refused he, Schema.extractAll_eq_error_iff.1 he⟩⟩
  · cases s.extractAll root selector with
    | error e => simp [Except.map, Except.mapError]
    | ok rs' =>
        have hinj : rs'.map Value.record = rs.map Value.record ↔ rs' = rs :=
          List.map_inj_right fun r r' h => Value.record.inj h
        simp [Except.map, Except.mapError, hinj]
  · cases s.extractAll root selector with
    | error e => cases e <;> simp [Except.map, Except.mapError, ExtractionError.within]
    | ok rs' => simp [Except.map, Except.mapError]
  · cases s.extractAll root selector with
    | error e => cases e <;> simp [Except.map, Except.mapError, ExtractionError.within]
    | ok rs' => simp [Except.map, Except.mapError]

namespace EachMatch

open FailFast (author known wall)

/-- Two authors, each with a name, make two records in either way; with one in between who
has no name, both ways miss the name, and the list field says for whom. -/
theorem extractAll_authors :
    OnlyRefuses Listed ∧
      ((author []).extractAll (wall [known, known]) "li" =
          .ok [⟨"Author", [("name", .text "x")]⟩, ⟨"Author", [("name", .text "x")]⟩] ∧
        (Field.select "li" (.nested (author [])) {}).asList.resolve "by" (wall [known, known]) =
          .ok (.list [.record ⟨"Author", [("name", .text "x")]⟩,
            .record ⟨"Author", [("name", .text "x")]⟩])) ∧
      (author []).extractAll (wall [known, .leaf "", known]) "li" =
          .error (.missingField "name" "name" "b") ∧
        (Field.select "li" (.nested (author [])) {}).asList.resolve "by"
            (wall [known, .leaf "", known]) =
          .error (.missingField "name" "by.name" "b") := by
  have hall : (author []).extractAll (wall [known, known]) "li" =
      .ok [⟨"Author", [("name", .text "x")]⟩, ⟨"Author", [("name", .text "x")]⟩] := rfl
  have hfails : (author []).extractAll (wall [known, .leaf "", known]) "li" =
      .error (.missingField "name" "name" "b") := rfl
  obtain ⟨hrecords, -⟩ := Schema.extractAll_iff_list (author []) Listed.onlyRefuses "li" "by"
    (wall [known, known])
  obtain ⟨-, -, hmissing, -⟩ := Schema.extractAll_iff_list (author []) Listed.onlyRefuses "li" "by"
    (wall [known, .leaf "", known])
  exact ⟨Listed.onlyRefuses, ⟨hall, (hrecords _).1 hall⟩, hfails, (hmissing _ _ _).1 hfails⟩

end EachMatch

end Glean
