import Glean.Proofs.Extraction.Shape
import Glean.Proofs.Schema.Checked
import Glean.Record

/-!
# Glean.Proofs.Extraction.Distinct

Names in records are distinct.  A sound schema declares no name twice, and neither do
the schemas that it applies, so in a record that it yields every record inside, at any
depth, has each name once (`Schema.Sound.distinct_of_extract`).
-/

namespace Glean

/-- In every record that stands in the value, at any depth, no name stands twice. -/
def Value.Distinct (v : Value) : Prop :=
  ∀ r, (Value.record r).Occurs v → r.names.Nodup

namespace Value.Distinct

theorem item {items : List Value} (h : (Value.list items).Distinct) {v : Value} (hv : v ∈ items) :
    v.Distinct :=
  fun r hr => h r (.item hv hr)

theorem field {r : Record} (h : (Value.record r).Distinct) {p : String × Value}
    (hp : p ∈ r.fields) : p.2.Distinct :=
  fun r' hr' => h r' (.field hp hr')

theorem nodup {r : Record} (h : (Value.record r).Distinct) : (r.fields.map Prod.fst).Nodup :=
  h r .here

end Value.Distinct

/-- A record has the names that its schema declares, in order. -/
theorem Schema.names_of_extract {ν : Type} [Source ν] {s : Schema} {root : ν} {r : Record}
    (h : s.extract root = .ok r) : r.names = s.fields.map Prod.fst := by
  obtain ⟨-, hvalues⟩ := Schema.extract_eq_ok_iff.1 h
  rw [Record.names]
  exact (map_eq_map_of_forall₂ (hvalues.imp fun _ _ hpq => hpq.1.symm)).symm

/-- What a sound schema applies is sound. -/
theorem Schema.Sound.of_applies {s t : Schema} (h : s.Sound) (happlies : s.Applies t) :
    t.Sound := by
  induction happlies with
  | here => exact h
  | nested declared inner _ ih =>
      cases h with
      | intro _ hinner => exact ih (hinner _ declared _ inner)

/-- In what a sound schema yields no name stands twice in any record. -/
theorem Schema.Sound.distinct_of_extract {ν : Type} [Source ν] {s : Schema} (h : s.Sound)
    {root : ν} {r : Record} (hr : s.extract root = .ok r) : (Value.record r).Distinct := by
  intro r' hoccurs
  obtain ⟨t, r'', node, happlies, hextract, hsame | ⟨hnot, -⟩⟩ := Schema.shows_of_extract hr hoccurs
  · injection hsame with hsame
    subst hsame
    rw [Schema.names_of_extract hextract]
    exact (h.of_applies happlies).checked.nodup
  · exact absurd rfl (hnot r')

end Glean
