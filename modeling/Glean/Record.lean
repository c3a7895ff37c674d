import Glean.Extraction.Error
import Glean.Value.Display

/-!
# Glean.Record

Looking into a record.  A name that the schema never declared is told apart
from a declared field that found nothing, except in typed readings, where both
read as the empty text.
-/

namespace Glean.Record

/-! ## Lookup -/

/-- The value of a field; `none` only if the schema never declared the name. -/
def get? (r : Record) (name : String) : Option Value := r.fields.lookup name

def contains (r : Record) (name : String) : Bool := (r.get? name).isSome

/-- The names of the fields, in declaration order. -/
def names (r : Record) : List String := r.fields.map (·.1)

def size (r : Record) : Nat := r.fields.length

def isEmpty (r : Record) : Bool := r.fields.isEmpty

/-! ## Lookup that insists -/

/-- A field name that the schema of a record never declared. -/
structure Undeclared where
  schema : String
  name : String
deriving DecidableEq, Repr

/-- The wording of a lookup that fails. -/
def Undeclared.message (e : Undeclared) : String :=
  "schema '" ++ e.schema ++ "' has no field '" ++ e.name ++ "'"

/-- The value of a field that has to be declared. -/
def demand (r : Record) (name : String) : Except Undeclared Value :=
  match r.get? name with
  | some v => .ok v
  | none => .error ⟨r.schema, name⟩

/-! ## Typed reading -/

/-- The text that typed readings of a value start from, if it is text or nothing. -/
def readable : Option Value → Except Value String
  | none => .ok ""
  | some .absent => .ok ""
  | some (.text content) => .ok content
  | some v => .error v

/-- The value of a field, read as a target. -/
def getAs (r : Record) (target : Target) (name : String) : Except ExtractionError target.Val :=
  match readable (r.get? name) with
  | .error v => .error (.conversion name v.display (.notText v.kind))
  | .ok text =>
    match target.convert text with
    | .ok x => .ok x
    | .error cause => .error (.conversion name text cause)

end Glean.Record
