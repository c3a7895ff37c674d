/-!
# Glean.Html.Token

The tokens of HTML text.
-/

namespace Glean.Html

/-- A tag: its name in lower case and its attributes, each name once. -/
structure Tag where
  name : String
  attributes : List (String × String)
  selfClosing : Bool
deriving DecidableEq, Repr, Inhabited

namespace Tag

/-- A tag with a name and nothing else. -/
def named (name : String) : Tag := ⟨name, [], false⟩

/-- The value of an attribute. -/
def attr? (t : Tag) (name : String) : Option String := t.attributes.lookup name

end Tag

/-- A document type declaration. -/
structure Doctype where
  name : Option String
  publicId : Option String
  systemId : Option String
  /-- The declaration is broken, which asks for the old layout rules. -/
  forceQuirks : Bool
deriving DecidableEq, Repr, Inhabited

/-- A token of HTML text. -/
inductive Token where
  | doctype (d : Doctype)
  | startTag (t : Tag)
  | endTag (t : Tag)
  | comment (content : String)
  /-- A run of characters that are white space, all or none of them. -/
  | text (blank : Bool) (run : String)
  /-- A character U+0000, which some places drop. -/
  | null
  | eof
deriving DecidableEq, Repr, Inhabited

/-- How text is cut into tokens, which depends on the element it stands in. -/
inductive Content where
  | data
  /-- Text with references, up to the end tag of the element. -/
  | escapable
  /-- Text without references, up to the end tag of the element. -/
  | raw
  /-- A script, up to its end tag, if that stands in no comment with a script in it. -/
  | script
  /-- Text up to the end of the document. -/
  | plain
deriving DecidableEq, Repr, Inhabited

/-- Whether HTML counts the character as white space. -/
def isHtmlSpace (c : Char) : Bool :=
  c == ' ' || c == '\t' || c == '\n' || c == '\r' || c == '\x0c'

end Glean.Html
