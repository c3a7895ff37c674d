import Glean.Proofs.Extraction.Outcome
import Glean.Proofs.Schema.Declared

/-!
# Glean.Proofs.Extraction.Refusal

Where failures come from that are not about a missing field.  Extraction raises
none of its own: each is the answer of some node to a selector that the schema
declares, at whatever depth (`Schema.exists_select_error`).  A source that
answers all the declared selectors therefore leaves missing fields as the only
way to fail (`Schema.isMissing_of_answers`).
-/

namespace Glean

variable {ν : Type} [Source ν]

/-! ## Every other failure is a refusal -/

/-- A strategy can only fail for good in a field of its nested schema. -/
theorem Strategy.exists_field_of_read_error {strategy : Strategy} {name : String} {node : ν}
    {e : ExtractionError} (h : strategy.read name node = .error e) (hm : e.isMissing = false) :
    ∃ s, strategy = .nested s ∧ ∃ p ∈ s.fields, p.2.resolve p.1 node = .error e := by
  obtain ⟨s, d, hs, hd, rfl⟩ := Strategy.read_eq_error_iff.1 h
  rw [ExtractionError.isMissing_within] at hm
  rw [ExtractionError.within_of_not_missing hm]
  exact ⟨s, hs, Schema.exists_field_of_extract_error hd⟩

/-- A failure of a field that is not about a missing field is the refusal of a
selector that the field declares. -/
theorem Field.exists_select_error {f : Field} {name : String} {root : ν} {e : ExtractionError}
    (h : f.resolve name root = .error e) (hm : e.isMissing = false) :
    ∃ selector ∈ f.selectors, ∃ node : ν, Source.select node selector = .error e := by
  induction f using Field.nested_induction generalizing name root with
  | select selector strategy flags ih =>
      rcases resolve_select_error_cases h with
        hselect | ⟨-, -, rfl⟩ | ⟨nodes, node, -, -, hread⟩ | ⟨first, more, key, -, -, -, -, -, rfl⟩
      · exact ⟨selector, Field.mem_selectors_select.2 (.inl rfl), root, hselect⟩
      · simp at hm
      · obtain ⟨s, hs, p, hp, hres⟩ := Strategy.exists_field_of_read_error hread hm
        obtain ⟨other, hother, at_, hat⟩ := ih s hs p hp hres
        have hmem : other ∈ s.selectors := Schema.mem_selectors.2 ⟨p, hp, hother⟩
        exact ⟨other, Field.mem_selectors_select.2 (.inr ⟨s, hs, hmem⟩), at_, hat⟩
      · simp at hm
  | firstOf alternatives flags ih =>
      rcases resolve_firstOf_error_cases h with ⟨f, hf, hres, -⟩ | ⟨-, -, rfl⟩
      · obtain ⟨selector, hselector, node, hnode⟩ := ih f hf hres
        exact ⟨selector, Field.mem_selectors_firstOf.2 ⟨f, hf, hselector⟩, node, hnode⟩
      · simp at hm

/-- A failure of a schema that is not about a missing field is the refusal of a
selector that the schema declares. -/
theorem Schema.exists_select_error {s : Schema} {root : ν} {e : ExtractionError}
    (h : s.extract root = .error e) (hm : e.isMissing = false) :
    ∃ selector ∈ s.selectors, ∃ node : ν, Source.select node selector = .error e := by
  obtain ⟨p, hp, hres⟩ := Schema.exists_field_of_extract_error h
  obtain ⟨selector, hselector, hnode⟩ := Field.exists_select_error hres hm
  exact ⟨selector, Schema.mem_selectors.2 ⟨p, hp, hselector⟩, hnode⟩

/-! ## Sources that raise nothing else -/

/-- The source fails only by refusing selectors. -/
def OnlyRefuses (ν : Type) [Source ν] : Prop :=
  ∀ (node : ν) selector e, Source.select node selector = .error e →
    ∃ refused detail, e = .invalidSelector refused detail

theorem OnlyRefuses.not_missing (h : OnlyRefuses ν) {node : ν} {selector : String}
    {e : ExtractionError} (hselect : Source.select node selector = .error e) :
    e.isMissing = false := by
  obtain ⟨refused, detail, rfl⟩ := h node selector e hselect
  rfl

/-! ## Sources that refuse nothing -/

/-- Every node of the source answers each of the selectors. -/
def Answers (ν : Type) [Source ν] (selectors : List String) : Prop :=
  ∀ selector ∈ selectors, ∀ node : ν, ∃ nodes, Source.select node selector = .ok nodes

theorem Answers.not_refused {selectors : List String} (hans : Answers ν selectors)
    {e : ExtractionError} :
    ¬ ∃ selector ∈ selectors, ∃ node : ν, Source.select node selector = .error e := by
  rintro ⟨selector, hselector, node, hnode⟩
  obtain ⟨nodes, hnodes⟩ := hans selector hselector node
  rw [hnode] at hnodes
  contradiction

/-- Where all selectors of a field are answered, it fails only for something missing. -/
theorem Field.isMissing_of_answers {f : Field} (hans : Answers ν f.selectors) {name : String}
    {root : ν} {e : ExtractionError} (h : f.resolve name root = .error e) :
    e.isMissing = true := by
  cases hm : e.isMissing with
  | true => rfl
  | false => exact absurd (Field.exists_select_error h hm) hans.not_refused

/-- Where all selectors of a schema are answered, it fails only for something missing. -/
theorem Schema.isMissing_of_answers {s : Schema} (hans : Answers ν s.selectors) {root : ν}
    {e : ExtractionError} (h : s.extract root = .error e) : e.isMissing = true := by
  cases hm : e.isMissing with
  | true => rfl
  | false => exact absurd (Schema.exists_select_error h hm) hans.not_refused

/-- What answers the selectors of a schema answers those of each declared field. -/
theorem Answers.field {s : Schema} (hans : Answers ν s.selectors) {p : String × Field}
    (hp : p ∈ s.fields) : Answers ν p.2.selectors :=
  fun selector hselector => hans selector (Schema.mem_selectors.2 ⟨p, hp, hselector⟩)

/-- What answers the selectors of a fallback answers those of each alternative. -/
theorem Answers.alternative {alternatives : List Field} {flags : Flags}
    (hans : Answers ν (Field.firstOf alternatives flags).selectors) {f : Field}
    (hf : f ∈ alternatives) : Answers ν f.selectors :=
  fun selector hselector => hans selector (Field.mem_selectors_firstOf.2 ⟨f, hf, hselector⟩)

/-- What answers the selectors of a field answers those of its nested schema. -/
theorem Answers.nested {selector : String} {s : Schema} {flags : Flags}
    (hans : Answers ν (Field.select selector (.nested s) flags).selectors) :
    Answers ν s.selectors :=
  fun other hother => hans other (Field.mem_selectors_select.2 (.inr ⟨s, rfl, hother⟩))

end Glean
