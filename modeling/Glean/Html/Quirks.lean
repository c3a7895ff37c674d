import Glean.Html.Token
import Glean.Text.Lowercase

/-!
# Glean.Html.Quirks

Which document types ask for the old layout rules.  Tree construction needs to
know: under the old rules a table may stand in a paragraph.
-/

namespace Glean.Html

/-! ## Known identifiers, in lower case -/

/-- Public identifiers that ask for the old rules. -/
def quirkyPublicIds : List String :=
  ["-//w3o//dtd w3 html strict 3.0//en//", "-/w3c/dtd html 4.0 transitional/en", "html"]

/-- The scheme that system identifiers begin with. -/
def systemIdScheme : String := "http://"

/-- System identifiers that ask for the old rules, without their scheme. -/
def quirkySystemIds : List String := ["www.ibm.com/data/dtd/v11/ibmxhtml1-transitional.dtd"]

/-- How public identifiers that ask for the old rules begin. -/
def quirkyPublicStarts : List String :=
  ["-//advasoft ltd//dtd html 3.0 aswedit + extensions//",
    "-//as//dtd html 3.0 aswedit + extensions//",
    "-//ietf//dtd html 2.0 level 1//",
    "-//ietf//dtd html 2.0 level 2//",
    "-//ietf//dtd html 2.0 strict level 1//",
    "-//ietf//dtd html 2.0 strict level 2//",
    "-//ietf//dtd html 2.0 strict//",
    "-//ietf//dtd html 2.0//",
    "-//ietf//dtd html 2.1e//",
    "-//ietf//dtd html 3.0//",
    "-//ietf//dtd html 3.2 final//",
    "-//ietf//dtd html 3.2//",
    "-//ietf//dtd html 3//",
    "-//ietf//dtd html level 0//",
    "-//ietf//dtd html level 1//",
    "-//ietf//dtd html level 2//",
    "-//ietf//dtd html level 3//",
    "-//ietf//dtd html strict level 0//",
    "-//ietf//dtd html strict level 1//",
    "-//ietf//dtd html strict level 2//",
    "-//ietf//dtd html strict level 3//",
    "-//ietf//dtd html strict//",
    "-//ietf//dtd html//",
    "-//metrius//dtd metrius presentational//",
    "-//microsoft//dtd internet explorer 2.0 html strict//",
    "-//microsoft//dtd internet explorer 2.0 html//",
    "-//microsoft//dtd internet explorer 2.0 tables//",
    "-//microsoft//dtd internet explorer 3.0 html strict//",
    "-//microsoft//dtd internet explorer 3.0 html//",
    "-//microsoft//dtd internet explorer 3.0 tables//",
    "-//netscape comm. corp.//dtd html//",
    "-//netscape comm. corp.//dtd strict html//",
    "-//o'reilly and associates//dtd html 2.0//",
    "-//o'reilly and associates//dtd html extended 1.0//",
    "-//o'reilly and associates//dtd html extended relaxed 1.0//",
    "-//softquad software//dtd hotmetal pro 6.0::19990601::extensions to html 4.0//",
    "-//softquad//dtd hotmetal pro 4.0::19971010::extensions to html 4.0//",
    "-//spyglass//dtd html 2.0 extended//",
    "-//sq//dtd html 2.0 hotmetal + extensions//",
    "-//sun microsystems corp.//dtd hotjava html//",
    "-//sun microsystems corp.//dtd hotjava strict html//",
    "-//w3c//dtd html 3 1995-03-24//",
    "-//w3c//dtd html 3.2 draft//",
    "-//w3c//dtd html 3.2 final//",
    "-//w3c//dtd html 3.2//",
    "-//w3c//dtd html 3.2s draft//",
    "-//w3c//dtd html 4.0 frameset//",
    "-//w3c//dtd html 4.0 transitional//",
    "-//w3c//dtd html experimental 19960712//",
    "-//w3c//dtd html experimental 970421//",
    "-//w3c//dtd w3 html//",
    "-//w3o//dtd w3 html 3.0//",
    "-//webtechs//dtd mozilla html 2.0//",
    "-//webtechs//dtd mozilla html//"]

/-- How public identifiers begin that ask for the old rules without a system identifier. -/
def quirkyAloneStarts : List String :=
  ["-//w3c//dtd html 4.01 frameset//", "-//w3c//dtd html 4.01 transitional//"]

/-! ## The rule -/

/-- Whether a document type asks for the old layout rules. -/
def Doctype.isQuirky (d : Doctype) : Bool :=
  let publicId := d.publicId.map Text.asciiLower
  let systemId := d.systemId.map Text.asciiLower
  let publicStarts (starts : List String) : Bool :=
    match publicId with
    | some id => starts.any fun start => id.startsWith start
    | none => false
  d.forceQuirks || d.name != some "html" ||
    (publicId.map quirkyPublicIds.contains).getD false ||
    (systemId.map (quirkySystemIds.map (systemIdScheme ++ ·)).contains).getD false ||
    publicStarts quirkyPublicStarts ||
    (systemId.isNone && publicStarts quirkyAloneStarts)

end Glean.Html
