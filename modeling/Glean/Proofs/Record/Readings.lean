import Glean.Record
import Glean.Proofs.Convert.Blanks

/-!
# Glean.Proofs.Record.Readings

Typed readings of the fields of a record.  A reading starts from the text of the field, or
from the empty text if the field is absent or not declared (`Record.Offers`), and then is the
reading of this text, with the field's name in its errors; a list or a record is an error
whatever it is read as.  Reading as an option only adds the `none` of blank text.
-/

namespace Glean

/-- The values that no text can be read from. -/
inductive Value.Compound : Value → Prop where
  | list (items : List Value) : Value.Compound (.list items)
  | record (r : Record) : Value.Compound (.record r)

namespace Record

/-- The text that readings of a field start from. -/
inductive Offers (r : Record) (name : String) : String → Prop where
  | text {content : String} (found : r.get? name = some (.text content)) : r.Offers name content
  | absent (found : r.get? name = some .absent) : r.Offers name ""
  | undeclared (missing : r.get? name = none) : r.Offers name ""

variable {r : Record} {name : String}

theorem exists_offers_or_compound (r : Record) (name : String) :
    (∃ text, r.Offers name text) ∨ ∃ v, r.get? name = some v ∧ v.Compound := by
  cases h : r.get? name with
  | none => exact .inl ⟨"", .undeclared h⟩
  | some v =>
      cases v with
      | absent => exact .inl ⟨"", .absent h⟩
      | text content => exact .inl ⟨content, .text h⟩
      | list items => exact .inr ⟨_, rfl, .list items⟩
      | record q => exact .inr ⟨_, rfl, .record q⟩

theorem getAs_of_compound {v : Value} (hget : r.get? name = some v) (hv : v.Compound)
    (target : Target) :
    r.getAs target name = .error (.conversion name v.display (.notText v.kind)) := by
  rw [getAs, hget]
  cases hv <;> rfl

/-- The reading of a field is that of the text it offers, with the name in the error. -/
theorem getAs_of_offers {text : String} (h : r.Offers name text) (target : Target) :
    r.getAs target name = (target.convert text).mapError (.conversion name text) := by
  have hreadable : readable (r.get? name) = .ok text := by
    cases h with
    | text found => rw [found]; rfl
    | absent found => rw [found]; rfl
    | undeclared missing => rw [missing]; rfl
  rw [getAs, hreadable]
  dsimp only
  cases target.convert text <;> rfl

theorem getAs_optional_of_blank {text : String} (h : r.Offers name text)
    (hblank : Text.isBlankText text = true) (target : Target) :
    r.getAs (.optional target) name = .ok none := by
  rw [getAs_of_offers h, Target.convert_optional_of_blank hblank]
  rfl

theorem getAs_optional_of_not_blank {text : String} (h : r.Offers name text)
    (hfull : Text.isBlankText text = false) (target : Target) :
    r.getAs (.optional target) name = (r.getAs target name).map some := by
  rw [getAs_of_offers h, getAs_of_offers h, Target.convert_optional_of_not_blank hfull]
  cases target.convert text <;> rfl

/-- A reading as an option is `none` for blank text only. -/
theorem getAs_optional_eq_none_iff (target : Target) :
    r.getAs (.optional target) name = .ok none ↔
      ∃ text, r.Offers name text ∧ Text.isBlankText text = true := by
  constructor
  · intro hnone
    obtain ⟨text, hoffers⟩ | ⟨v, hget, hv⟩ := exists_offers_or_compound r name
    · cases hblank : Text.isBlankText text with
      | true => exact ⟨text, hoffers, hblank⟩
      | false =>
          rw [getAs_optional_of_not_blank hoffers hblank] at hnone
          cases hread : r.getAs target name <;> rw [hread] at hnone <;> cases hnone
    · rw [getAs_of_compound hget hv] at hnone
      contradiction
  · rintro ⟨text, hoffers, hblank⟩
    exact getAs_optional_of_blank hoffers hblank target

/-- **Typed readings of a field**: a list or a record is one error for every target, with or
without an option around it.  Otherwise the field offers a text, and is read as this text is,
an error naming the field and quoting the text.  Reading as an option is `none` exactly for
blank text, and for any other text it succeeds and fails as the reading without it. -/
theorem getAs_option (r : Record) (name : String) (target : Target) :
    ((∃ text, r.Offers name text) ∨ ∃ v, r.get? name = some v ∧ v.Compound) ∧
    (∀ v, r.get? name = some v → v.Compound →
      r.getAs target name = .error (.conversion name v.display (.notText v.kind)) ∧
      r.getAs (.optional target) name =
        .error (.conversion name v.display (.notText v.kind))) ∧
    (∀ text, r.Offers name text →
      (∀ x, r.getAs target name = .ok x ↔ target.convert text = .ok x) ∧
      (∀ e, r.getAs target name = .error e ↔
        ∃ cause, target.convert text = .error cause ∧ e = .conversion name text cause) ∧
      (Text.isBlankText text = false →
        (∀ x, r.getAs (.optional target) name = .ok (some x) ↔
          r.getAs target name = .ok x) ∧
        ∀ e, r.getAs (.optional target) name = .error e ↔ r.getAs target name = .error e)) ∧
    (r.getAs (.optional target) name = .ok none ↔
      ∃ text, r.Offers name text ∧ Text.isBlankText text = true) := by
  refine ⟨exists_offers_or_compound r name, fun v hget hv => ?_, fun text hoffers => ?_,
    getAs_optional_eq_none_iff target⟩
  · exact ⟨getAs_of_compound hget hv target, getAs_of_compound hget hv (.optional target)⟩
  · have hread := getAs_of_offers hoffers target
    refine ⟨fun x => ?_, fun e => ?_, fun hfull => ?_⟩
    · rw [hread, mapError_eq_ok_iff]
    · rw [hread, mapError_eq_error_iff]
    · rw [getAs_optional_of_not_blank hoffers hfull]
      cases r.getAs target name <;> simp [Except.map]

end Record

namespace Readings

open Blanks (whole)

/-- The counts of a page: one in digits, one in words, one that is a list. -/
def counts : Record := ⟨"Counts", [
  ("lines", .text " 42 "), ("pages", .text "many"), ("notes", .list [.text "7"]),
  ("links", .absent)]⟩

/-- A number in digits is read with and without an option, words are the error of either, a
list is no text, and nothing is the `none` of the option, though the empty text is no
number. -/
theorem getAs_option_counts :
    (counts.Offers "lines" " 42 " ∧ Text.isBlankText " 42 " = false ∧
      counts.getAs (.optional whole) "lines" = .ok (some (42 : Int))) ∧
    (counts.Offers "pages" "many" ∧ Text.isBlankText "many" = false ∧
      counts.getAs (.optional whole) "pages" =
        .error (.conversion "pages" "many" (.invalidNumber "many" .invalidDigit))) ∧
    (counts.get? "notes" = some (.list [.text "7"]) ∧ (Value.list [.text "7"]).Compound ∧
      counts.getAs (.optional whole) "notes" =
        .error (.conversion "notes" "[\"7\"]" (.notText .list))) ∧
    counts.Offers "links" "" ∧ counts.getAs (.optional whole) "links" = .ok none ∧
      counts.getAs whole "links" = .error (.conversion "links" "" (.invalidNumber "" .empty)) := by
  have hlines : counts.Offers "lines" " 42 " := .text rfl
  have hpages : counts.Offers "pages" "many" := .text rfl
  have hlinks : counts.Offers "links" "" := .absent rfl
  have hnotes : (Value.list [.text "7"]).Compound := .list _
  obtain ⟨-, -, hline, -⟩ := Record.getAs_option counts "lines" whole
  obtain ⟨-, -, hpage, -⟩ := Record.getAs_option counts "pages" whole
  obtain ⟨-, hnote, -, -⟩ := Record.getAs_option counts "notes" whole
  obtain ⟨-, -, hlink, hnone⟩ := Record.getAs_option counts "links" whole
  obtain ⟨hokLine, -, hfullLine⟩ := hline _ hlines
  obtain ⟨-, herrorPage, hfullPage⟩ := hpage _ hpages
  obtain ⟨-, herrorLink, -⟩ := hlink _ hlinks
  refine ⟨⟨hlines, by decide, ?_⟩, ⟨hpages, by decide, ?_⟩, ⟨rfl, hnotes, ?_⟩, hlinks, ?_, ?_⟩
  · exact ((hfullLine (by decide)).1 _).2 ((hokLine _).2 rfl)
  · exact ((hfullPage (by decide)).2 _).2 ((herrorPage _).2 ⟨_, rfl, rfl⟩)
  · exact (hnote _ rfl hnotes).2
  · exact hnone.2 ⟨"", hlinks, by decide⟩
  · exact (herrorLink _).2 ⟨_, rfl, rfl⟩

end Readings

end Glean
