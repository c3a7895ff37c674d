import Glean.Html.Construction.Name
import Glean.Html.Token

/-!
# Glean.Html.Construction.Foreign

The names that SVG and MathML write with capitals or with a namespace, which
HTML text cannot: how a tag becomes the label of a foreign element, and which
tags end foreign content.
-/

namespace Glean.Html

/-! ## Names with capitals -/

/-- The SVG elements whose names have capitals. -/
def svgNames : List String :=
  ["altGlyph", "altGlyphDef", "altGlyphItem", "animateColor", "animateMotion", "animateTransform",
    "clipPath", "feBlend", "feColorMatrix", "feComponentTransfer", "feComposite",
    "feConvolveMatrix", "feDiffuseLighting", "feDisplacementMap", "feDistantLight", "feDropShadow",
    "feFlood", "feFuncA", "feFuncB", "feFuncG", "feFuncR", "feGaussianBlur", "feImage", "feMerge",
    "feMergeNode", "feMorphology", "feOffset", "fePointLight", "feSpecularLighting", "feSpotLight",
    "feTile", "feTurbulence", "foreignObject", "glyphRef", "linearGradient", "radialGradient",
    "textPath"]

/-- The SVG attributes whose names have capitals. -/
def svgAttributes : List String :=
  ["attributeName", "attributeType", "baseFrequency", "baseProfile", "calcMode", "clipPathUnits",
    "diffuseConstant", "edgeMode", "filterUnits", "glyphRef", "gradientTransform",
    "gradientUnits", "kernelMatrix", "kernelUnitLength", "keyPoints", "keySplines", "keyTimes",
    "lengthAdjust", "limitingConeAngle", "markerHeight", "markerUnits", "markerWidth",
    "maskContentUnits", "maskUnits", "numOctaves", "pathLength", "patternContentUnits",
    "patternTransform", "patternUnits", "pointsAtX", "pointsAtY", "pointsAtZ", "preserveAlpha",
    "preserveAspectRatio", "primitiveUnits", "refX", "refY", "repeatCount", "repeatDur",
    "requiredExtensions", "requiredFeatures", "specularConstant", "specularExponent",
    "spreadMethod", "startOffset", "stdDeviation", "stitchTiles", "surfaceScale",
    "systemLanguage", "tableValues", "targetX", "targetY", "textLength", "viewBox", "viewTarget",
    "xChannelSelector", "yChannelSelector", "zoomAndPan"]

/-- The spelling with capitals of a name in lower case, if the list has one. -/
def withCapitals (names : List String) (name : String) : String :=
  (names.find? fun n => n.map Char.toLower == name).getD name

/-! ## Attributes with a namespace -/

/-- The namespace and the name of an attribute of a foreign element. -/
def foreignAttribute (name value : String) : Attribute :=
  match name with
  | "xlink:actuate" => ⟨.xlink, "actuate", value⟩
  | "xlink:arcrole" => ⟨.xlink, "arcrole", value⟩
  | "xlink:href" => ⟨.xlink, "href", value⟩
  | "xlink:role" => ⟨.xlink, "role", value⟩
  | "xlink:show" => ⟨.xlink, "show", value⟩
  | "xlink:title" => ⟨.xlink, "title", value⟩
  | "xlink:type" => ⟨.xlink, "type", value⟩
  | "xml:lang" => ⟨.xml, "lang", value⟩
  | "xml:space" => ⟨.xml, "space", value⟩
  | "xmlns" => ⟨.xmlns, "xmlns", value⟩
  | "xmlns:xlink" => ⟨.xmlns, "xlink", value⟩
  | _ => ⟨.none, name, value⟩

/-! ## Labels -/

/-- The label of an HTML element with the name and the attributes of a tag. -/
def Tag.label (t : Tag) : Label :=
  ⟨.html, t.name, t.attributes.map fun (name, value) => ⟨.none, name, value⟩⟩

/-- The label of a foreign element for a tag. -/
def Tag.foreignLabel (t : Tag) (vocabulary : Vocabulary) (adjustName : Bool) : Label :=
  let spell (name : String) : String :=
    match vocabulary with
    | .svg => withCapitals svgAttributes name
    | .mathml => if name == "definitionurl" then "definitionURL" else name
    | .html => name
  let name := if adjustName && vocabulary == .svg then withCapitals svgNames t.name else t.name
  ⟨vocabulary, name, t.attributes.map fun (name, value) => foreignAttribute (spell name) value⟩

/-! ## The end of foreign content -/

/-- The start tags that belong to HTML and so end foreign content. -/
def Tag.endsForeign (t : Tag) : Bool :=
  ["b", "big", "blockquote", "body", "br", "center", "code", "dd", "div", "dl", "dt", "em", "embed",
    "h1", "h2", "h3", "h4", "h5", "h6", "head", "hr", "i", "img", "li", "listing", "menu", "meta",
    "nobr", "ol", "p", "pre", "ruby", "s", "small", "span", "strong", "strike", "sub", "sup",
    "table", "tt", "u", "ul", "var"].contains t.name ||
    (t.name == "font" && t.attributes.any fun a => ["color", "face", "size"].contains a.1)

end Glean.Html
