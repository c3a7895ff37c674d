import Glean.Value
import Glean.Json.Document

/-!
# Glean.Value.Json

Records as JSON.  There are two renderings: one keeps the fields in the order
in which the schema declares them, the other has the keys of every object in
ascending order.  Nothing is `null` in both, text is a string, a list an array
and a record an object keyed by field name.
-/

namespace Glean

/-! ## Declared order -/

mutual

/-- A value as a document, every record in declaration order. -/
def Value.toOrderedJson : Value → Json
  | .absent => .null
  | .text content => .string content
  | .list items => .array (orderedItems items)
  | .record r => r.toOrderedJson

/-- A record as an object in declaration order. -/
def Record.toOrderedJson : Record → Json
  | .mk _ fields => .object (orderedMembers fields)

/-- The items of a list, each as a document. -/
def orderedItems : List Value → List Json
  | [] => []
  | v :: rest => v.toOrderedJson :: orderedItems rest

/-- The fields of a record, each as a member. -/
def orderedMembers : List (String × Value) → List (String × Json)
  | [] => []
  | (n, v) :: rest => (n, v.toOrderedJson) :: orderedMembers rest

end

/-- The compact JSON text of a value, records in declaration order. -/
def Value.serialized (v : Value) : String := v.toOrderedJson.render

/-- The compact JSON text of a record, fields in declaration order. -/
def Record.serialized (r : Record) : String := r.toOrderedJson.render

/-! ## Sorted keys -/

mutual

/-- A value as a document, the keys of every object ascending. -/
def Value.toJson : Value → Json
  | .absent => .null
  | .text content => .string content
  | .list items => .array (sortedItems items)
  | .record r => r.toJson

/-- A record as an object with ascending keys. -/
def Record.toJson : Record → Json
  | .mk _ fields => .object (sortedMembers [] fields)

/-- The items of a list, each as a document. -/
def sortedItems : List Value → List Json
  | [] => []
  | v :: rest => v.toJson :: sortedItems rest

/-- Put the fields of a record one after the other among members that ascend. -/
def sortedMembers (members : List (String × Json)) :
    List (String × Value) → List (String × Json)
  | [] => members
  | (n, v) :: rest => sortedMembers (Json.put n v.toJson members) rest

end

end Glean
