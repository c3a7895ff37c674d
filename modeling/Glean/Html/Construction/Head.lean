import Glean.Html.Construction.State
import Glean.Html.Quirks

/-!
# Glean.Html.Construction.Head

The insertion modes from the start of a document to its body.  Whatever a
document leaves out, from its type to its head, is supplied here.
-/

namespace Glean.Html

namespace Build

/-! ## Shared rules -/

/-- A second `html` tag only adds attributes to the root, and not in a template. -/
def mergeRoot (t : Tag) : Build Outcome := do
  unless ← isOpen "template" do
    let root ← rootElement
    modify fun s => { s with draft := s.draft.addAttributes root t.label.attributes }
  return .done

/-- Make the root element. -/
def createRoot (t : Tag) : Build Unit := do
  let id ← createElement { t.label with name := "html" }
  push id
  modify fun s => { s with draft := s.draft.append Draft.documentId id }

/-- The tags that are handled as in the head wherever they stand. -/
def isHeadTag (name : String) : Bool :=
  ["base", "basefont", "bgsound", "link", "meta", "noframes", "script", "style", "template",
    "title"].contains name

/-- Begin a template. -/
def openTemplate (t : Tag) : Build Unit := do
  openTag t
  pushMarker
  forbidFrameset
  modify fun s => { s with mode := .inTemplate, templateModes := .inTemplate :: s.templateModes }

/-- End the innermost template, if one is open. -/
def closeTemplate : Build Outcome := do
  if ← isOpen "template" then
    closeImplied Label.endIsImpliedByTemplate
    popThroughNamed "template"
    clearToMarker
    modify fun s => { s with templateModes := s.templateModes.tail }
    resetMode
  return .done

/-- The start tags of the head that have no content, and those with raw text. -/
def headTag (t : Tag) : Build Outcome := do
  match t.name with
  | "title" => openText t .escapable
  | "noframes" | "style" | "noscript" => openText t .raw
  | "script" => openText t .script
  | "template" => openTemplate t
  | _ => closedTag t
  return .done

/-! ## Modes -/

/-- Before the root element. -/
def beforeHtml (token : Token) : Build Outcome := do
  match token with
  | .comment content =>
    appendComment Draft.documentId content
    return .done
  | .text true _ => return .done
  | .startTag t =>
    if t.name == "html" then
      createRoot t
      setMode .beforeHead
      return .done
    else implied
  | .endTag t => if ["head", "body", "html", "br"].contains t.name then implied else return .done
  | _ => implied
where
  /-- Supply the root element. -/
  implied : Build Outcome := do
    createRoot (.named "html")
    return .again .beforeHead token

/-- Before anything at all. -/
def initial (token : Token) : Build Outcome := do
  match token with
  | .text true _ => return .done
  | .comment content =>
    appendComment Draft.documentId content
    return .done
  | .doctype d =>
    let id ← create (.doctype (d.name.getD ""))
    modify fun s =>
      { s with
        draft := s.draft.append Draft.documentId id
        quirks := d.isQuirky
        mode := .beforeHtml }
    return .done
  | _ =>
    modify fun s => { s with quirks := true }
    return .again .beforeHtml token

/-- Before the head. -/
def beforeHead (token : Token) : Build Outcome := do
  match token with
  | .text true _ => return .done
  | .comment content =>
    insertComment content
    return .done
  | .startTag t =>
    match t.name with
    | "html" => mergeRoot t
    | "head" =>
      openHead t
      setMode .inHead
      return .done
    | _ => implied
  | .endTag t => if ["head", "body", "html", "br"].contains t.name then implied else return .done
  | _ => implied
where
  /-- Open the head and remember it. -/
  openHead (t : Tag) : Build Unit := do
    let id ← insertElement t.label
    modify fun s => { s with head := some id }
  /-- Supply the head. -/
  implied : Build Outcome := do
    openHead (.named "head")
    return .again .inHead token

/-- In the head. -/
def inHead (token : Token) : Build Outcome := do
  match token with
  | .text true run =>
    insertText run
    return .done
  | .comment content =>
    insertComment content
    return .done
  | .startTag t =>
    if t.name == "html" then mergeRoot t
    else if t.name == "head" then return .done
    else if isHeadTag t.name || t.name == "noscript" then headTag t
    else leave
  | .endTag t =>
    match t.name with
    | "head" =>
      pop
      setMode .afterHead
      return .done
    | "template" => closeTemplate
    | "body" | "html" | "br" => leave
    | _ => return .done
  | _ => leave
where
  /-- The head ends where something stands that does not belong into it. -/
  leave : Build Outcome := do
    pop
    return .again .afterHead token

/-- Behind the head. -/
def afterHead (token : Token) : Build Outcome := do
  match token with
  | .text true run =>
    insertText run
    return .done
  | .comment content =>
    insertComment content
    return .done
  | .startTag t =>
    match t.name with
    | "html" => mergeRoot t
    | "body" =>
      openTag t
      forbidFrameset
      setMode .inBody
      return .done
    | "frameset" =>
      openTag t
      setMode .inFrameset
      return .done
    | "head" => return .done
    | name =>
      if isHeadTag name then
        match (← get).head with
        | some head =>
          push head
          let outcome ← headTag t
          removeFromStack head
          return outcome
        | none => headTag t
      else implied
  | .endTag t =>
    match t.name with
    | "template" => closeTemplate
    | "body" | "html" | "br" => implied
    | _ => return .done
  | _ => implied
where
  /-- Supply the body. -/
  implied : Build Outcome := do
    openNamed "body"
    return .again .inBody token

end Build

end Glean.Html
