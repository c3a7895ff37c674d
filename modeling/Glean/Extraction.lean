import Glean.Extraction.Source
import Glean.Schema
import Glean.Value

/-!
# Glean.Extraction

Applying a schema to a node.  The fields are resolved in declaration order and
the first failure ends the extraction, so there is never a partial record.
A nested field extracts its schema with each matched node as the root; a
fallback takes the first alternative whose value is not empty and passes over
one that finds nothing, even one that insists on finding something.

The walkers below recurse on the declarations alone.  What a node is, and how
matches are found, is left to the `Source` instance.
-/

namespace Glean

variable {ν : Type} [Source ν]

/-! ## The walkers -/

mutual

/-- The record of a schema with `root` as the document. -/
def Schema.extract (root : ν) : Schema → Except ExtractionError Record
  | ⟨name, fields⟩ =>
    match extractFields root fields with
    | .ok values => .ok ⟨name, values⟩
    | .error e => .error e

/-- The values of declared fields, each under its name. -/
def extractFields (root : ν) :
    List (String × Field) → Except ExtractionError (List (String × Value))
  | [] => .ok []
  | (name, field) :: rest =>
    match field.resolve name root with
    | .error e => .error e
    | .ok v =>
      match extractFields root rest with
      | .error e => .error e
      | .ok values => .ok ((name, v) :: values)

/-- The value of a field that is declared under `name`. -/
def Field.resolve (name : String) (root : ν) : Field → Except ExtractionError Value
  | .select selector strategy flags =>
    match Source.select root selector with
    | .error e => .error e
    | .ok [] =>
      if flags.required then .error (.missing name selector)
      else .ok (if flags.asList then .list [] else .absent)
    | .ok (first :: more) =>
      if flags.asList then
        match collect (fun node => strategy.read name node) (first :: more) with
        | .ok items => .ok (.list items)
        | .error e => .error e
      else
        match strategy.read name first with
        | .error e => .error e
        | .ok .absent =>
          if flags.required then .error (.missing name (strategy.describe selector))
          else .ok .absent
        | .ok v => .ok v
  | .firstOf alternatives flags =>
    match firstFound name root alternatives with
    | .error e => .error e
    | .ok (some v) => .ok v
    | .ok none =>
      if flags.required then .error (.missing name (Field.firstOf alternatives flags).describe)
      else .ok .absent

/-- The value of the first alternative that finds something. -/
def firstFound (name : String) (root : ν) : List Field → Except ExtractionError (Option Value)
  | [] => .ok none
  | alternative :: rest =>
    match alternative.resolve name root with
    | .ok v => if v.isEmpty then firstFound name root rest else .ok (some v)
    | .error (.missingField ..) => firstFound name root rest
    | .error e => .error e

/-- The value that a matched node becomes in the field called `name`. -/
def Strategy.read (name : String) (node : ν) : Strategy → Except ExtractionError Value
  | .text => .ok (.text (Source.text node))
  | .any => .ok (.text (Source.text node))
  | .content => .ok (.text ((Source.attr? node "content").getD (Source.text node)))
  | .attr key =>
    match Source.attr? node key with
    | some value => .ok (.text value)
    | none => .ok .absent
  | .nested schema =>
    match schema.extract node with
    | .ok record => .ok (.record record)
    | .error e => .error (e.within name)

end

/-! ## Many roots -/

/-- One record per match of a selector, in document order. -/
def Schema.extractAll (s : Schema) (root : ν) (selector : String) :
    Except ExtractionError (List Record) :=
  match Source.select root selector with
  | .error e => .error e
  | .ok nodes => collect (fun node => s.extract node) nodes

end Glean
