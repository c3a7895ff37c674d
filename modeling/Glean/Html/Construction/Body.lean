import Glean.Html.Construction.Adoption
import Glean.Html.Construction.Head

/-!
# Glean.Html.Construction.Body

The insertion mode for the body, which most other modes fall back on, and the
modes for text and for templates.
-/

namespace Glean.Html

namespace Build

/-! ## Start tags -/

/-- Open an element that may not stand in a paragraph. -/
def openBlock (t : Tag) : Build Unit := do
  closeParagraphInScope
  openTag t

/-- Open an element among the text, inside the formatting that is active. -/
def openInline (t : Tag) : Build Unit := do
  reconstructFormatting
  openTag t

/-- The item of a list that a new item closes: the nearest one, if no special
element other than an address, a division or a paragraph stands in between. -/
def openItem? (names : List String) : Build (Option String) := do
  let s ← get
  return search s.draft s.stack
where
  /-- The search from the innermost element outwards. -/
  search (d : Draft) : List NodeId → Option String
    | [] => none
    | id :: outer =>
      let l := d.label id
      if l.isOneOf names then some l.name
      else if l.isSpecial && !l.isOneOf ["address", "div", "p"] then none
      else search d outer

/-- Open an item of a list, which closes the one before it. -/
def openItem (t : Tag) : Build Unit := do
  forbidFrameset
  let names := if t.name == "li" then ["li"] else ["dd", "dt"]
  if let some name ← openItem? names then
    closeImpliedExcept name
    popThroughNamed name
  closeParagraphInScope
  openTag t

/-- Open a form, unless one is open already. -/
def openForm (t : Tag) : Build Unit := do
  let inTemplate ← isOpen "template"
  if (← get).form.isNone || inTemplate then
    closeParagraphInScope
    let id ← insertElement t.label
    unless inTemplate do modify fun s => { s with form := some id }

/-- A link may not stand in a link: close the one that is open. -/
def closeOpenLink : Build Unit := do
  let s ← get
  let open? := (← sinceMarker).find? fun (id, _) => (s.draft.label id).isNamed "a"
  if let some (id, _) := open? then
    adopt "a"
    removeFormatting id
    removeFromStack id

/-- Insert a foreign element that begins foreign content. -/
def enterForeign (t : Tag) (vocabulary : Vocabulary) : Build Unit := do
  let l := t.foreignLabel vocabulary false
  if t.selfClosing then
    let _ ← insertClosed l
  else
    let _ ← insertElement l

/-- Put a frameset in the place of the body, as long as that is possible. -/
def openFrameset (t : Tag) : Build Unit := do
  let s ← get
  if s.framesetOk then
    if let some body ← body? then
      modify fun s =>
        { s with draft := s.draft.detach body, stack := s.stack.drop (s.stack.length - 1) }
      openTag t
      setMode .inFrameset

/-- A second `body` tag only adds attributes. -/
def mergeBody (t : Tag) : Build Unit := do
  if let some body ← body? then
    unless ← isOpen "template" do
      forbidFrameset
      modify fun s => { s with draft := s.draft.addAttributes body t.label.attributes }

/-- The annotations of ruby text. -/
def openRuby (t : Tag) : Build Unit := do
  if ← inScopeNamed Label.boundsScope "ruby" then
    if t.name == "rb" || t.name == "rtc" then closeImplied Label.endIsImplied
    else closeImpliedExcept "rtc"
  openTag t

/-- The elements that close a paragraph and may hold others. -/
def isBlock (name : String) : Bool :=
  ["address", "article", "aside", "blockquote", "center", "details", "dialog", "dir", "div", "dl",
    "fieldset", "figcaption", "figure", "footer", "header", "hgroup", "main", "menu", "nav", "ol",
    "p", "search", "section", "summary", "ul"].contains name

/-- The elements that format the text in them. -/
def isFormatting (name : String) : Bool :=
  ["b", "big", "code", "em", "font", "i", "s", "small", "strike", "strong", "tt", "u"].contains name

/-- A line break, a picture, an input, or another element without content. -/
def insertInlineVoid (t : Tag) : Build Unit := do
  reconstructFormatting
  closedTag t
  unless t.name == "input" && t.isHidden do forbidFrameset

/-- A start tag in the body. -/
def bodyStartTag (t : Tag) : Build Outcome := do
  match t.name with
  | "html" => return ← mergeRoot t
  | "body" => mergeBody t
  | "frameset" => openFrameset t
  | "h1" | "h2" | "h3" | "h4" | "h5" | "h6" =>
    closeParagraphInScope
    if (← currentLabel).isHeading then pop
    openTag t
  | "pre" | "listing" =>
    openBlock t
    modify fun s => { s with skipNewline := true, framesetOk := false }
  | "form" => openForm t
  | "li" | "dd" | "dt" => openItem t
  | "plaintext" =>
    openBlock t
    modify fun s => { s with content := .plain }
  | "button" =>
    if ← inScopeNamed Label.boundsScope "button" then
      closeImplied Label.endIsImplied
      popThroughNamed "button"
    openInline t
    forbidFrameset
  | "a" =>
    closeOpenLink
    reconstructFormatting
    openFormatting t
  | "nobr" =>
    reconstructFormatting
    if ← inScopeNamed Label.boundsScope "nobr" then
      adopt "nobr"
      reconstructFormatting
    openFormatting t
  | "applet" | "marquee" | "object" =>
    openInline t
    pushMarker
    forbidFrameset
  | "table" =>
    unless (← get).quirks do closeParagraphInScope
    openTag t
    forbidFrameset
    setMode .inTable
  | "area" | "br" | "embed" | "img" | "keygen" | "wbr" | "input" => insertInlineVoid t
  | "image" => insertInlineVoid { t with name := "img" }
  | "param" | "source" | "track" => closedTag t
  | "hr" =>
    closeParagraphInScope
    closedTag t
    forbidFrameset
  | "textarea" =>
    modify fun s => { s with skipNewline := true, framesetOk := false }
    openText t .escapable
  | "xmp" =>
    closeParagraphInScope
    reconstructFormatting
    forbidFrameset
    openText t .raw
  | "iframe" =>
    forbidFrameset
    openText t .raw
  | "noembed" | "noscript" => openText t .raw
  | "select" =>
    openInline t
    forbidFrameset
    let mode := (← get).mode
    setMode <|
      if [.inTable, .inCaption, .inTableBody, .inRow, .inCell].contains mode then .inSelectInTable
      else .inSelect
  | "optgroup" | "option" =>
    if ← currentIs "option" then pop
    openInline t
  | "rb" | "rtc" | "rp" | "rt" => openRuby t
  | "math" => enterForeign t .mathml
  | "svg" => enterForeign t .svg
  | "caption" | "col" | "colgroup" | "frame" | "head" | "tbody" | "td" | "tfoot" | "th" | "thead"
  | "tr" => pure ()
  | name =>
    if isHeadTag name then return ← headTag t
    else if isBlock name then openBlock t
    else if isFormatting name then
      reconstructFormatting
      openFormatting t
    else openInline t
  return .done

/-! ## End tags -/

/-- Close an element that is in scope, and what is open in it. -/
def closeInScope (name : String) : Build Unit := do
  if ← inScopeNamed Label.boundsScope name then
    closeImplied Label.endIsImplied
    popThroughNamed name

/-- Close the form. -/
def closeForm : Build Unit := do
  if ← isOpen "template" then closeInScope "form"
  else
    let form := (← get).form
    modify fun s => { s with form := none }
    if let some id := form then
      if ← inScope Label.boundsScope fun other _ => other == id then
        closeImplied Label.endIsImplied
        removeFromStack id

/-- An end tag in the body. -/
def bodyEndTag (t : Tag) : Build Outcome := do
  match t.name with
  | "template" => return ← closeTemplate
  | "body" => if ← inScopeNamed Label.boundsScope "body" then setMode .afterBody
  | "html" =>
    if ← inScopeNamed Label.boundsScope "body" then return .again .afterBody (.endTag t)
  | "form" => closeForm
  | "p" =>
    unless ← inScopeNamed Label.boundsButtonScope "p" do openNamed "p"
    closeParagraph
  | "li" | "dd" | "dt" =>
    let bounds := if t.name == "li" then Label.boundsListScope else Label.boundsScope
    if ← inScopeNamed bounds t.name then
      closeImpliedExcept t.name
      popThroughNamed t.name
  | "h1" | "h2" | "h3" | "h4" | "h5" | "h6" =>
    if ← inScope Label.boundsScope fun _ l => l.isHeading then
      closeImplied Label.endIsImplied
      popThrough Label.isHeading
  | "a" | "nobr" => adopt t.name
  | "applet" | "marquee" | "object" =>
    if ← inScopeNamed Label.boundsScope t.name then
      closeImplied Label.endIsImplied
      popThroughNamed t.name
      clearToMarker
  | "br" => insertInlineVoid (.named "br")
  | name =>
    if isFormatting name then adopt name
    else if (isBlock name && name != "p") || ["button", "listing", "pre"].contains name then
      closeInScope name
    else closeOrdinary name
  return .done

/-! ## Modes -/

/-- The end of the document inside a template closes the template. -/
def endTemplates : Build Outcome := do
  if ← isOpen "template" then
    popThroughNamed "template"
    clearToMarker
    modify fun s => { s with templateModes := s.templateModes.tail }
    resetMode
    return .again (← get).mode .eof
  else return .done

/-- In the body. -/
def inBody (token : Token) : Build Outcome := do
  match token with
  | .null | .doctype _ => return .done
  | .text blank run =>
    reconstructFormatting
    unless blank do forbidFrameset
    insertText run
    return .done
  | .comment content =>
    insertComment content
    return .done
  | .startTag t => bodyStartTag t
  | .endTag t => bodyEndTag t
  | .eof => if (← get).templateModes.isEmpty then return .done else endTemplates

/-- Inside an element that holds nothing but text. -/
def inText (token : Token) : Build Outcome := do
  match token with
  | .text _ run =>
    insertText run
    return .done
  | .eof =>
    pop
    return .again (← get).returnMode token
  | .endTag _ =>
    pop
    setMode (← get).returnMode
    return .done
  | _ => return .done

/-- Go on with the content of a template in the mode that fits it. -/
def chooseTemplateMode (mode : Mode) (token : Token) : Build Outcome := do
  modify fun s => { s with templateModes := mode :: s.templateModes.tail }
  return .again mode token

/-- In a template, before it is clear what it holds. -/
def inTemplate (token : Token) : Build Outcome := do
  match token with
  | .text .. | .comment _ => inBody token
  | .startTag t =>
    match t.name with
    | "caption" | "colgroup" | "tbody" | "tfoot" | "thead" => chooseTemplateMode .inTable token
    | "col" => chooseTemplateMode .inColumnGroup token
    | "tr" => chooseTemplateMode .inTableBody token
    | "td" | "th" => chooseTemplateMode .inRow token
    | name => if isHeadTag name then headTag t else chooseTemplateMode .inBody token
  | .endTag t => if t.name == "template" then closeTemplate else return .done
  | .eof => endTemplates
  | _ => return .done

end Build

end Glean.Html
