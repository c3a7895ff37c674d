import Glean.Html.Node

/-!
# Glean.Html.Construction.Name

The sets of element names that tree construction tells apart.  A set holds
elements of HTML only, unless it says otherwise.
-/

namespace Glean.Html

namespace Label

/-- Whether the element belongs to HTML. -/
def isHtml (l : Label) : Bool := l.vocabulary == .html

/-- Whether the element is the HTML element of that name. -/
def isNamed (l : Label) (name : String) : Bool := l.isHtml && l.name == name

/-- Whether the element is an HTML element with one of the names. -/
def isOneOf (l : Label) (names : List String) : Bool := l.isHtml && names.contains l.name

/-! ## Elements whose end tags are implied -/

def endIsImplied (l : Label) : Bool :=
  l.isOneOf ["dd", "dt", "li", "option", "optgroup", "p", "rb", "rp", "rt", "rtc"]

/-- The wider set that the end of a template implies. -/
def endIsImpliedByTemplate (l : Label) : Bool :=
  l.endIsImplied ||
    l.isOneOf ["caption", "colgroup", "tbody", "td", "tfoot", "th", "thead", "tr"]

/-! ## Scopes -/

/-- MathML elements that hold text as HTML does. -/
def isMathmlText (l : Label) : Bool :=
  l.vocabulary == .mathml && ["mi", "mo", "mn", "ms", "mtext"].contains l.name

/-- SVG elements that hold HTML. -/
def isSvgHtml (l : Label) : Bool :=
  l.vocabulary == .svg && ["foreignObject", "desc", "title"].contains l.name

/-- The elements that a search for an open element does not go past. -/
def boundsScope (l : Label) : Bool :=
  l.isOneOf ["applet", "caption", "html", "table", "td", "th", "marquee", "object", "template"] ||
    l.isMathmlText || l.isSvgHtml

def boundsListScope (l : Label) : Bool := l.boundsScope || l.isOneOf ["ol", "ul"]

def boundsButtonScope (l : Label) : Bool := l.boundsScope || l.isNamed "button"

def boundsTableScope (l : Label) : Bool := l.isOneOf ["html", "table", "template"]

def boundsSelectScope (l : Label) : Bool := !l.isOneOf ["optgroup", "option"]

/-! ## Tables -/

def isTableBodyContext (l : Label) : Bool :=
  l.isOneOf ["tbody", "tfoot", "thead", "template", "html"]

def isTableRowContext (l : Label) : Bool := l.isOneOf ["tr", "template", "html"]

def isCell (l : Label) : Bool := l.isOneOf ["td", "th"]

/-- The elements in which text and other content does not belong. -/
def refusesContent (l : Label) : Bool := l.isOneOf ["table", "tbody", "tfoot", "thead", "tr"]

/-! ## Other sets -/

def isHeading (l : Label) : Bool := l.isOneOf ["h1", "h2", "h3", "h4", "h5", "h6"]

/-- The elements that an end tag for something outside them does not close. -/
def isSpecial (l : Label) : Bool :=
  l.isOneOf
    ["address", "applet", "area", "article", "aside", "base", "basefont", "bgsound", "blockquote",
      "body", "br", "button", "caption", "center", "col", "colgroup", "dd", "details", "dir", "div",
      "dl", "dt", "embed", "fieldset", "figcaption", "figure", "footer", "form", "frame",
      "frameset", "h1", "h2", "h3", "h4", "h5", "h6", "head", "header", "hgroup", "hr", "html",
      "iframe", "img", "input", "isindex", "li", "link", "listing", "main", "marquee", "menu",
      "meta", "nav", "noembed", "noframes", "noscript", "object", "ol", "p", "param", "plaintext",
      "pre", "script", "section", "select", "source", "style", "summary", "table", "tbody", "td",
      "template", "textarea", "tfoot", "th", "thead", "title", "tr", "track", "ul", "wbr", "xmp"]

end Label

end Glean.Html
