import Glean.Config.Key
import Glean.Json.Document

/-!
# Glean.Config.Render

Configurations as JSON.  Every option is written, also one that has its
default or is not used by the kind of the field.
-/

namespace Glean

mutual

/-- A schema as a document. -/
def SchemaConfig.toJson : SchemaConfig → Json
  | ⟨name, fields⟩ => .object [
      (SchemaKey.name.word, .string name),
      (SchemaKey.fields.word, .array (fieldDocuments fields))]

/-- A field as a document. -/
def FieldConfig.toJson : FieldConfig → Json
  | ⟨name, kind, selector, required, asList, attr, schema, alternatives⟩ => .object [
      (FieldKey.name.word, .string name),
      (FieldKey.kind.word, .string kind.word),
      (FieldKey.selector.word, .string selector),
      (FieldKey.required.word, .bool required),
      (FieldKey.asList.word, .bool asList),
      (FieldKey.attr.word, (attr.map Json.string).getD .null),
      (FieldKey.schema.word, schemaDocument schema),
      (FieldKey.alternatives.word, .array (fieldDocuments alternatives))]

/-- A nested schema as a document, or null. -/
def schemaDocument : Option SchemaConfig → Json
  | none => .null
  | some c => c.toJson

/-- Fields as documents. -/
def fieldDocuments : List FieldConfig → List Json
  | [] => []
  | c :: rest => c.toJson :: fieldDocuments rest

end

/-- The compact JSON text of a configuration. -/
def SchemaConfig.render (c : SchemaConfig) : String := c.toJson.render

end Glean
