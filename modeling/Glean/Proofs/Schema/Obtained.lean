import Glean.Config.Decode
import Glean.Proofs.Config.Translation

/-!
# Glean.Proofs.Schema.Obtained

How a program can come by a schema: from a builder, with nested schemas that
were obtained before, from a configuration, or from the JSON text of one.  There
is no other way, and each goes through the checks, so every schema that can be
obtained is sound (`Schema.Obtained.sound`); every sound schema can be obtained too.
-/

namespace Glean

/-- A schema that a program can hold. -/
inductive Schema.Obtained : Schema → Prop where
  | built {b : Builder} {s : Schema} (h : b.build = .ok s)
      (inner : ∀ p ∈ b.fields, ∀ t ∈ p.2.schemas, t.Obtained) : s.Obtained
  | configured {c : SchemaConfig} {s : Schema} (h : c.toSchema = .ok s) : s.Obtained
  | decoded {json : String} {s : Schema} (h : Schema.ofJson json = .ok s) : s.Obtained

/-- The schema of a JSON text is the schema of the configuration in it. -/
theorem Schema.exists_config_of_ofJson {json : String} {s : Schema}
    (h : Schema.ofJson json = .ok s) :
    ∃ c, SchemaConfig.decode json = .ok c ∧ c.toSchema = .ok s := by
  rw [Schema.ofJson] at h
  cases hdecode : SchemaConfig.decode json with
  | error fault => simp [hdecode] at h
  | ok c =>
      rw [hdecode] at h
      exact ⟨c, rfl, h⟩

/-- Whatever schema a program holds has been checked at every depth. -/
theorem Schema.Obtained.sound {s : Schema} (h : s.Obtained) : s.Sound := by
  induction h with
  | built h _ ih =>
      obtain ⟨rfl, hchecked⟩ := Builder.build_eq_ok_iff.1 h
      exact .intro hchecked ih
  | configured h => exact SchemaConfig.sound_of_toSchema h
  | decoded h =>
      obtain ⟨c, -, hc⟩ := Schema.exists_config_of_ofJson h
      exact SchemaConfig.sound_of_toSchema hc

/-- A schema that is checked at every depth can be built from the inside out. -/
theorem Schema.Sound.obtained {s : Schema} (h : s.Sound) : s.Obtained := by
  induction h with
  | intro checked _ ih => exact .built checked.build_eq_ok ih

end Glean
