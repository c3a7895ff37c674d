import Glean.Config
import Glean.Json.Shape

/-!
# Glean.Config.Key

The keys under which the options of a configuration are written, in the order
in which they are written.  A schema has to have a name; all else has a default.
-/

namespace Glean

/-! ## Schemas -/

/-- The keys of a schema. -/
inductive SchemaKey where
  | name
  | fields
deriving DecidableEq, Repr

/-- How a key of a schema is written. -/
def SchemaKey.word : SchemaKey → String
  | .name => "name"
  | .fields => "fields"

/-- The written form of a schema. -/
def SchemaConfig.shape : Json.Shape SchemaKey where
  title := "struct SchemaConfig"
  keys := [.name, .fields]
  word := SchemaKey.word
  needed k := k == .name

/-! ## Fields -/

/-- The keys of a field. -/
inductive FieldKey where
  | name
  | kind
  | selector
  | required
  | asList
  | attr
  | schema
  | alternatives
deriving DecidableEq, Repr

/-- How a key of a field is written. -/
def FieldKey.word : FieldKey → String
  | .name => "name"
  | .kind => "kind"
  | .selector => "selector"
  | .required => "required"
  | .asList => "as_list"
  | .attr => "attribute"
  | .schema => "schema"
  | .alternatives => "alternatives"

/-- The written form of a field. -/
def FieldConfig.shape : Json.Shape FieldKey where
  title := "struct FieldConfig"
  keys := [.name, .kind, .selector, .required, .asList, .attr, .schema, .alternatives]
  word := FieldKey.word
  needed _ := false

end Glean
