import Glean.Value
import Glean.Text.Quoted

/-!
# Glean.Value.Display

The text of a value for people: `None` for nothing, text in quotes, a list in
square brackets, and a record as its schema's name with `name=value` pairs in
round brackets.
-/

namespace Glean

mutual

/-- The text of a value. -/
def Value.displayText : Value → List Char
  | .absent => ['N', 'o', 'n', 'e']
  | .text content => Text.quoteList content.toList
  | .list items => '[' :: displayItems items ++ [']']
  | .record r => r.displayText

/-- The text of a record. -/
def Record.displayText : Record → List Char
  | .mk schema fields => schema.toList ++ '(' :: displayFields fields ++ [')']

/-- The items of a list, with a comma and a space between them. -/
def displayItems : List Value → List Char
  | [] => []
  | [v] => v.displayText
  | v :: w :: rest => v.displayText ++ ',' :: ' ' :: displayItems (w :: rest)

/-- The fields of a record, with a comma and a space between them. -/
def displayFields : List (String × Value) → List Char
  | [] => []
  | [(n, v)] => n.toList ++ '=' :: v.displayText
  | (n, v) :: m :: rest =>
    n.toList ++ '=' :: v.displayText ++ ',' :: ' ' :: displayFields (m :: rest)

end

/-- The text of a value. -/
def Value.display (v : Value) : String := String.ofList v.displayText

/-- The text of a record. -/
def Record.display (r : Record) : String := String.ofList r.displayText

end Glean
