import Glean.Css.Selector.Parse
import Glean.Schema
import Glean.Schema.Error
import Glean.Text.Blank

/-!
# Glean.Schema.Builder

Building schemas.  Declarations are collected in order and checked only when
the schema is built: its name may not be blank, no name may be declared twice,
and every field has to be well formed.  The first violation in the order of
the declarations is the one reported.
-/

namespace Glean

/-! ## Fields -/

mutual

/-- Check a field that is declared under `name`, which errors in its
alternatives are reported under as well. -/
def Field.check (name : String) : Field → Except SchemaError Unit
  | .select selector _ _ =>
    if Text.isBlankText selector then .error (.emptySelector name)
    else
      match Css.parse selector with
      | .ok _ => .ok ()
      | .error cause => .error (.invalidSelector name selector cause)
  | .firstOf alternatives flags =>
    if flags.asList then .error (.listFallback name)
    else if alternatives.isEmpty then .error (.noAlternatives name)
    else checkAll name alternatives

/-- Check several fields, left to right. -/
def checkAll (name : String) : List Field → Except SchemaError Unit
  | [] => .ok ()
  | f :: rest =>
    match f.check name with
    | .error e => .error e
    | .ok () => checkAll name rest

end

/-! ## Builders -/

/-- A schema that is being declared. -/
structure Builder where
  name : String
  fields : List (String × Field) := []

namespace Builder

/-- Declare one more field. -/
def field (b : Builder) (name : String) (f : Field) : Builder :=
  { b with fields := b.fields ++ [(name, f)] }

/-- Check declarations in order, where the names in `seen` have been declared before. -/
def checkFields (schema : String) (seen : List String) :
    List (String × Field) → Except SchemaError Unit
  | [] => .ok ()
  | (name, f) :: rest =>
    if name ∈ seen then .error (.duplicateField schema name)
    else
      match f.check name with
      | .error e => .error e
      | .ok () => checkFields schema (name :: seen) rest

/-- The schema that has been declared, if it is well formed. -/
def build (b : Builder) : Except SchemaError Schema :=
  if Text.isBlankText b.name then .error .emptyName
  else
    match checkFields b.name [] b.fields with
    | .error e => .error e
    | .ok () => .ok ⟨b.name, b.fields⟩

end Builder

end Glean
