import Glean.Convert

/-!
# Glean.Extraction.Error

Why a schema could not be applied.  A missing field is reported with the path
of field names that leads to it from the outermost schema, so each enclosing
nested field puts its own name in front (`ExtractionError.within`).
-/

namespace Glean

/-- Why extraction, or the typed reading of a field, failed. -/
inductive ExtractionError where
  /-- A required field found nothing; `field` is its name in the innermost schema. -/
  | missingField (field path selector : String)
  /-- The source of matches rejects the selector. -/
  | invalidSelector (selector detail : String)
  /-- The value of a field does not read as the wanted type. -/
  | conversion (field text : String) (cause : ParseError)
deriving DecidableEq, Repr

namespace ExtractionError

/-- The error a field called `name` raises itself when it finds nothing. -/
def missing (name selector : String) : ExtractionError := .missingField name name selector

/-- Put the name of the enclosing field in front of the path of a missing field. -/
def within (parent : String) : ExtractionError → ExtractionError
  | .missingField field path selector => .missingField field (parent ++ "." ++ path) selector
  | e => e

/-- The wording of an extraction error. -/
def message : ExtractionError → String
  | .missingField _ path selector =>
    "Required field '" ++ path ++ "' not found using selector '" ++ selector ++ "'"
  | .invalidSelector selector detail =>
    "Failed to parse selector '" ++ selector ++ "': " ++ detail
  | .conversion field text cause =>
    "Failed to convert field '" ++ field ++ "' from text '" ++ text ++ "': " ++ cause.message

end ExtractionError

end Glean
