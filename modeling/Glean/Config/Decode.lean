import Glean.Config.Key

/-!
# Glean.Config.Decode

Reading configurations from JSON text.  The readers recurse on how many
brackets may still be opened.
-/

namespace Glean

open Json

/-! ## Options -/

/-- The word for a kind of field. -/
def FieldKind.readWord (expected : String) : Reader FieldKind := do
  let word ← Reader.text expected
  match ofWord? word with
  | some kind => return kind
  | none => Reader.failHere (.unknownWord word (all.map FieldKind.word))

/-- The only member of an object: a kind of field with nothing under it. -/
def FieldKind.readMember : Reader FieldKind := do
  match ← Reader.token? with
  | some '"' => pure ()
  | some '\x7d' => Reader.failNext .expectedValue
  | some _ => Reader.failNext .keyNotString
  | none => Reader.failNext .endInObject
  let kind ← readWord "variant identifier"
  Reader.colon
  Reader.null
  match ← Reader.token? with
  | some '\x7d' => Reader.advance; return kind
  | some _ => Reader.failHere .expectedValue
  | none => Reader.failHere .endInObject

/-- A kind of field: a word, or an object with nothing under that word. -/
def FieldKind.read (depth : Nat) : Reader FieldKind := do
  match ← Reader.valueStart with
  | '"' => readWord "variant identifier"
  | '\x7b' => Reader.enter (if depth = 0 then none else some readMember)
  | _ => Reader.failNext .expectedValue

/-- Read an option of a schema. -/
def SchemaConfig.readOption (fields : Reader (List FieldConfig)) :
    SchemaKey → SchemaConfig → Reader SchemaConfig
  | .name, c => return { c with name := ← Reader.text "a string" }
  | .fields, c => return { c with fields := ← fields }

/-- Read an option of a field. -/
def FieldConfig.readOption (depth : Nat) (schema : Reader SchemaConfig)
    (fields : Reader (List FieldConfig)) : FieldKey → FieldConfig → Reader FieldConfig
  | .name, c => return { c with name := ← Reader.text "a string" }
  | .kind, c => return { c with kind := ← FieldKind.read depth }
  | .selector, c => return { c with selector := ← Reader.text "a string" }
  | .required, c => return { c with required := ← Reader.bool }
  | .asList, c => return { c with asList := ← Reader.bool }
  | .attr, c => return { c with attr := ← Reader.optional (Reader.text "a string") }
  | .schema, c => return { c with schema := ← Reader.optional schema }
  | .alternatives, c => return { c with alternatives := ← fields }

/-! ## Configurations -/

mutual

/-- A schema inside so many brackets fewer than the limit. -/
def SchemaConfig.read : Nat → Reader SchemaConfig
  | 0 => SchemaConfig.shape.read default none
  | depth + 1 => SchemaConfig.shape.read default
      (some (SchemaConfig.readOption (FieldConfig.readAll depth)))

/-- A list of fields. -/
def FieldConfig.readAll : Nat → Reader (List FieldConfig)
  | 0 => Reader.list none
  | depth + 1 => Reader.list (some (FieldConfig.read depth))

/-- A field. -/
def FieldConfig.read : Nat → Reader FieldConfig
  | 0 => FieldConfig.shape.read default none
  | depth + 1 => FieldConfig.shape.read default
      (some (FieldConfig.readOption depth (SchemaConfig.read depth) (FieldConfig.readAll depth)))

end

/-- How many brackets may be open at once. -/
def nestingLimit : Nat := 127

/-- The configuration that a JSON text holds. -/
def SchemaConfig.decode (json : String) : Except Fault SchemaConfig :=
  (SchemaConfig.read nestingLimit).run json

/-- The schema that a JSON text declares. -/
def Schema.ofJson (json : String) : Except SchemaError Schema :=
  match SchemaConfig.decode json with
  | .error fault => .error (.config fault)
  | .ok config => config.toSchema

end Glean
