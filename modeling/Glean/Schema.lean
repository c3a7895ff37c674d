/-!
# Glean.Schema

Declared extraction rules.  A schema is a name and an ordered list of named
fields.  A field either selects nodes and reads each of them by a strategy, or
tries alternatives in order and keeps the first that finds something.  The two
flags are independent of the kind: `required` fails the extraction when the
field finds nothing, `asList` keeps every match instead of the first.
-/

namespace Glean

/-! ## Declarations -/

/-- What a field insists on and how much it keeps. -/
structure Flags where
  /-- Finding nothing fails the extraction. -/
  required : Bool := false
  /-- Keep every match, in document order. -/
  asList : Bool := false
deriving DecidableEq, Repr, Inhabited

mutual

/-- How a matched node becomes a value. -/
inductive Strategy where
  /-- The text of the node, white space untouched. -/
  | text
  /-- No transformation, which is the text of the node too. -/
  | any
  /-- The attribute `content` if the node has it, else its text. -/
  | content
  /-- The named attribute. -/
  | attr (name : String)
  /-- The record of a schema applied to the node. -/
  | nested (schema : Schema)

/-- One extraction rule. -/
inductive Field where
  | select (selector : String) (strategy : Strategy) (flags : Flags)
  /-- The first alternative that finds something. -/
  | firstOf (alternatives : List Field) (flags : Flags)

/-- A named, ordered set of field declarations. -/
structure Schema where
  name : String
  fields : List (String × Field)

end

instance : Inhabited Strategy := ⟨.text⟩
instance : Inhabited Field := ⟨.firstOf [] {}⟩
instance : Inhabited Schema := ⟨⟨"", []⟩⟩

/-! ## Reading a declaration -/

namespace Field

def flags : Field → Flags
  | .select _ _ flags => flags
  | .firstOf _ flags => flags

def withFlags (flags : Flags) : Field → Field
  | .select selector strategy _ => .select selector strategy flags
  | .firstOf alternatives _ => .firstOf alternatives flags

/-- The same field, failing the extraction when it finds nothing. -/
def required (f : Field) : Field := f.withFlags { f.flags with required := true }

/-- The same field, keeping every match. -/
def asList (f : Field) : Field := f.withFlags { f.flags with asList := true }

def selector? : Field → Option String
  | .select selector _ _ => some selector
  | .firstOf .. => none

def strategy? : Field → Option Strategy
  | .select _ strategy _ => some strategy
  | .firstOf .. => none

def alternatives : Field → List Field
  | .select .. => []
  | .firstOf alternatives _ => alternatives

end Field

mutual

/-- How an error names what a field looked for: its selector, or those of its
alternatives with a bar between them. -/
def Field.describe : Field → String
  | .select selector _ _ => selector
  | .firstOf alternatives _ => " | ".intercalate (descriptions alternatives)

/-- How an error names what each of several fields looked for. -/
def descriptions : List Field → List String
  | [] => []
  | f :: rest => f.describe :: descriptions rest

end

/-- How an error names what a matched node lacks: the selector with the attribute behind it. -/
def Strategy.describe (selector : String) : Strategy → String
  | .attr name => selector ++ "[" ++ name ++ "]"
  | _ => selector ++ "[]"

/-- The field declared under a name. -/
def Schema.field? (s : Schema) (name : String) : Option Field := s.fields.lookup name

end Glean
