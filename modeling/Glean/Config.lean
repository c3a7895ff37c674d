import Glean.Schema.Builder

/-!
# Glean.Config

Schemas as data that can be written down.  A configuration says of each field
what kind it is and lists every option any kind might need; options that the
kind of a field does not use, and the names of alternatives, have no effect.
-/

namespace Glean

/-! ## Configurations -/

mutual

/-- The declaration of a schema. -/
structure SchemaConfig where
  name : String
  fields : List FieldConfig := []

/-- The declaration of a field. -/
structure FieldConfig where
  name : String := ""
  kind : FieldKind := .text
  selector : String := ""
  required : Bool := false
  asList : Bool := false
  /-- The attribute that a field of kind `attr` reads. -/
  attr : Option String := none
  /-- The schema that a field of kind `nested` applies. -/
  schema : Option SchemaConfig := none
  /-- What a field of kind `firstOf` tries, in order. -/
  alternatives : List FieldConfig := []

end

instance : Inhabited FieldConfig := ⟨{}⟩
instance : Inhabited SchemaConfig := ⟨{ name := "" }⟩

/-! ## From configurations to schemas -/

mutual

/-- The schema that a configuration declares: first every field is made,
then the whole is built. -/
def SchemaConfig.toSchema : SchemaConfig → Except SchemaError Schema
  | ⟨name, fields⟩ =>
    match declaredFields fields with
    | .error e => .error e
    | .ok declared => Builder.build ⟨name, declared⟩

/-- The declared fields, each under its own name. -/
def declaredFields : List FieldConfig → Except SchemaError (List (String × Field))
  | [] => .ok []
  | c :: rest =>
    match c.toField c.name with
    | .error e => .error e
    | .ok f =>
      match declaredFields rest with
      | .error e => .error e
      | .ok declared => .ok ((c.name, f) :: declared)

/-- The field that a configuration declares under the name `owner`. -/
def FieldConfig.toField (owner : String) : FieldConfig → Except SchemaError Field
  | ⟨_, kind, selector, required, asList, attr, schema, alternatives⟩ =>
    match kind with
    | .text => .ok (.select selector .text ⟨required, asList⟩)
    | .any => .ok (.select selector .any ⟨required, asList⟩)
    | .content => .ok (.select selector .content ⟨required, asList⟩)
    | .attr =>
      match attr with
      | none => .error (.missingOption owner .attr .attribute)
      | some key => .ok (.select selector (.attr key) ⟨required, asList⟩)
    | .nested =>
      match nestedSchema? schema with
      | none => .error (.missingOption owner .nested .schema)
      | some (.error e) => .error e
      | some (.ok s) => .ok (.select selector (.nested s) ⟨required, asList⟩)
    | .firstOf =>
      match alternativeFields owner alternatives with
      | .error e => .error e
      | .ok fields => .ok (.firstOf fields ⟨required, asList⟩)

/-- The schema in a field, if there is one. -/
def nestedSchema? : Option SchemaConfig → Option (Except SchemaError Schema)
  | none => none
  | some c => some c.toSchema

/-- The alternatives of a fallback, all under the name of the fallback. -/
def alternativeFields (owner : String) : List FieldConfig → Except SchemaError (List Field)
  | [] => .ok []
  | c :: rest =>
    match c.toField owner with
    | .error e => .error e
    | .ok f =>
      match alternativeFields owner rest with
      | .error e => .error e
      | .ok fields => .ok (f :: fields)

end

end Glean
