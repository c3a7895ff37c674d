/-!
# Glean.Json.Document

JSON documents without numbers: what records and configurations are made of.
Objects keep their members in a list, so the order of keys is part of a
document; `Json.put` is how an object with sorted keys is built.
-/

namespace Glean

/-! ## Documents -/

/-- A JSON document. -/
inductive Json where
  | null
  | bool (value : Bool)
  | string (value : String)
  | array (items : List Json)
  | object (members : List (String × Json))

namespace Json

/-! ## Strings -/

/-- A character as it is written inside a JSON string. -/
def escapeChar (c : Char) : List Char :=
  if c = '"' then ['\\', '"']
  else if c = '\\' then ['\\', '\\']
  else if c.toNat = 0x08 then ['\\', 'b']
  else if c.toNat = 0x0c then ['\\', 'f']
  else if c = '\n' then ['\\', 'n']
  else if c = '\r' then ['\\', 'r']
  else if c = '\t' then ['\\', 't']
  else if c.toNat < 0x10 then ['\\', 'u', '0', '0', '0'] ++ Nat.toDigits 16 c.toNat
  else if c.toNat < 0x20 then ['\\', 'u', '0', '0'] ++ Nat.toDigits 16 c.toNat
  else [c]

/-- A JSON string: only the quote, the backslash and the controls are escaped. -/
def stringText (s : String) : List Char := '"' :: s.toList.flatMap escapeChar ++ ['"']

/-! ## Rendering -/

mutual

/-- The compact text of a document. -/
def text : Json → List Char
  | .null => ['n', 'u', 'l', 'l']
  | .bool true => ['t', 'r', 'u', 'e']
  | .bool false => ['f', 'a', 'l', 's', 'e']
  | .string s => stringText s
  | .array items => '[' :: itemsText items ++ [']']
  | .object members => '\x7b' :: membersText members ++ ['\x7d']

/-- The items of an array, with commas between them. -/
def itemsText : List Json → List Char
  | [] => []
  | [x] => x.text
  | x :: y :: rest => x.text ++ ',' :: itemsText (y :: rest)

/-- The members of an object, with commas between them. -/
def membersText : List (String × Json) → List Char
  | [] => []
  | [(k, x)] => stringText k ++ ':' :: x.text
  | (k, x) :: m :: rest => stringText k ++ ':' :: x.text ++ ',' :: membersText (m :: rest)

end

/-- The compact text of a document. -/
def render (j : Json) : String := String.ofList j.text

/-! ## Sorted objects -/

/-- Put a member into an object whose keys ascend in the order of their code
points, which is the order of their UTF-8 bytes; an equal key is replaced. -/
def put (k : String) (x : Json) : List (String × Json) → List (String × Json)
  | [] => [(k, x)]
  | (l, y) :: rest =>
    if k < l then (k, x) :: (l, y) :: rest
    else if k = l then (k, x) :: rest
    else (l, y) :: put k x rest

end Json

end Glean
