import Glean.Css.Selector.Error
import Glean.Json.Fault

/-!
# Glean.Schema.Error

Why a schema cannot be built.
-/

namespace Glean

/-- The kinds of field that a configuration can name. -/
inductive FieldKind where
  | text
  | any
  | content
  | attr
  | nested
  | firstOf
deriving DecidableEq, Repr, Inhabited

namespace FieldKind

/-- The word for a kind in a configuration. -/
def word : FieldKind → String
  | .text => "text"
  | .any => "any"
  | .content => "content"
  | .attr => "attr"
  | .nested => "nested"
  | .firstOf => "first_of"

/-- Every kind, in the order in which messages list them. -/
def all : List FieldKind := [.text, .any, .content, .attr, .nested, .firstOf]

/-- The kind a word stands for. -/
def ofWord? (s : String) : Option FieldKind := all.find? (·.word == s)

/-- A word is the word of the kind it stands for, and of no other. -/
theorem ofWord?_word (k : FieldKind) : ofWord? k.word = some k := by
  cases k <;> decide

end FieldKind

/-- An option that some kind of field cannot do without. -/
inductive ConfigOption where
  | attribute
  | schema
deriving DecidableEq, Repr

/-- The key of an option in a configuration. -/
def ConfigOption.key : ConfigOption → String
  | .attribute => "attribute"
  | .schema => "schema"

/-- Why a schema cannot be built. -/
inductive SchemaError where
  /-- The name of the schema is blank. -/
  | emptyName
  | duplicateField (schema field : String)
  /-- The selector of a field is blank. -/
  | emptySelector (field : String)
  | invalidSelector (field selector : String) (cause : Css.SelectorError)
  /-- A fallback has nothing to try. -/
  | noAlternatives (field : String)
  /-- A fallback is marked as a list, which only its alternatives can be. -/
  | listFallback (field : String)
  | missingOption (field : String) (kind : FieldKind) (option : ConfigOption)
  /-- The text of a configuration cannot be decoded. -/
  | config (cause : Json.Fault)
deriving DecidableEq, Repr

/-- The wording of a schema error. -/
def SchemaError.message : SchemaError → String
  | .emptyName => "Schema name must not be empty"
  | .duplicateField schema field =>
    "Schema '" ++ schema ++ "' declares field '" ++ field ++ "' more than once"
  | .emptySelector field => "Field '" ++ field ++ "' has an empty selector"
  | .invalidSelector field selector cause =>
    "Field '" ++ field ++ "' has invalid selector '" ++ selector ++ "': " ++ cause.message
  | .noAlternatives field => "Field '" ++ field ++ "' has no alternatives to try"
  | .listFallback field =>
    "Field '" ++ field ++ "' is a fallback and cannot be a list; mark its alternatives instead"
  | .missingOption field kind option =>
    "Field '" ++ field ++ "' of kind '" ++ kind.word ++ "' requires '" ++ option.key ++ "'"
  | .config cause => "Invalid schema configuration: " ++ cause.message

end Glean
