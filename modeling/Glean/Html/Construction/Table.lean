import Glean.Html.Construction.Body

/-!
# Glean.Html.Construction.Table

The insertion modes of tables and of selects.  A table takes rows, cells and
captions only; what else stands in it is put in front of the table.
-/

namespace Glean.Html

namespace Build

/-! ## Content that a table refuses -/

/-- Handle a token as in the body, but outside the table. -/
def fosterInBody (token : Token) : Build Outcome := do
  modify fun s => { s with fostering := true }
  let outcome ← inBody token
  modify fun s => { s with fostering := false }
  return outcome

/-- Text in a table waits until it is clear whether it is only white space. -/
def textInTable (token : Token) : Build Outcome := do
  if (← currentLabel).refusesContent then
    modify fun s => { s with returnMode := s.mode }
    return .again .inTableText token
  else fosterInBody token

/-- Place the text that has been waiting, in the order in which it came. -/
def placeTableText : Build Unit := do
  let waiting := (← get).tableText.reverse
  modify fun s => { s with tableText := [] }
  let allBlank := waiting.all (·.1)
  for (blank, run) in waiting do
    if allBlank then insertText run
    else
      let _ ← fosterInBody (.text blank run)

/-- Waiting text, which anything but more text ends. -/
def inTableText (token : Token) : Build Outcome := do
  match token with
  | .null => return .done
  | .text blank run =>
    modify fun s => { s with tableText := (blank, run) :: s.tableText }
    return .done
  | _ =>
    placeTableText
    return .again (← get).returnMode token

/-! ## Tables -/

/-- The elements that make up a table. -/
def structureNames : List String :=
  ["caption", "col", "colgroup", "tbody", "td", "tfoot", "th", "thead", "tr"]

/-- Whether the end tag has nothing to end in a table. -/
def isStrayTableEnd (name : String) : Bool :=
  ["body", "caption", "col", "colgroup", "html", "tbody", "td", "tfoot", "th", "thead",
    "tr"].contains name

/-- A start tag in a table. -/
def tableStartTag (t : Tag) : Build Outcome := do
  let token := Token.startTag t
  match t.name with
  | "caption" =>
    popUntilCurrent Label.boundsTableScope
    pushMarker
    openTag t
    setMode .inCaption
    return .done
  | "colgroup" =>
    popUntilCurrent Label.boundsTableScope
    openTag t
    setMode .inColumnGroup
    return .done
  | "col" =>
    popUntilCurrent Label.boundsTableScope
    openNamed "colgroup"
    return .again .inColumnGroup token
  | "tbody" | "tfoot" | "thead" =>
    popUntilCurrent Label.boundsTableScope
    openTag t
    setMode .inTableBody
    return .done
  | "td" | "th" | "tr" =>
    popUntilCurrent Label.boundsTableScope
    openNamed "tbody"
    return .again .inTableBody token
  | "table" =>
    if ← inScopeNamed Label.boundsTableScope "table" then
      popThroughNamed "table"
      return .again (← appropriateMode) token
    else return .done
  | "style" | "script" | "template" => headTag t
  | "input" =>
    if t.isHidden then
      closedTag t
      return .done
    else fosterInBody token
  | "form" =>
    if (← get).form.isNone then
      unless ← isOpen "template" do
        let id ← insertClosed t.label
        modify fun s => { s with form := some id }
    return .done
  | _ => fosterInBody token

/-- In a table, outside its groups of rows. -/
def inTable (token : Token) : Build Outcome := do
  match token with
  | .null | .text .. => textInTable token
  | .comment content =>
    insertComment content
    return .done
  | .startTag t => tableStartTag t
  | .endTag t =>
    match t.name with
    | "table" =>
      if ← inScopeNamed Label.boundsTableScope "table" then
        popThroughNamed "table"
        resetMode
      return .done
    | "template" => closeTemplate
    | name => if isStrayTableEnd name then return .done else fosterInBody token
  | .eof => inBody token
  | .doctype _ => return .done

/-- In the caption of a table. -/
def inCaption (token : Token) : Build Outcome := do
  match token with
  | .startTag t =>
    if structureNames.contains t.name then
      close (.again .inTable token)
    else inBody token
  | .endTag t =>
    match t.name with
    | "table" => close (.again .inTable token)
    | "caption" =>
      close .done
    | name => if isStrayTableEnd name then return .done else inBody token
  | _ => inBody token
where
  /-- Close the caption, if it is in scope. -/
  close (outcome : Outcome) : Build Outcome := do
    if ← inScopeNamed Label.boundsTableScope "caption" then
      closeImplied Label.endIsImplied
      popThroughNamed "caption"
      clearToMarker
      setMode .inTable
      return outcome
    else return .done

/-- In a group of columns. -/
def inColumnGroup (token : Token) : Build Outcome := do
  match token with
  | .text true run =>
    insertText run
    return .done
  | .comment content =>
    insertComment content
    return .done
  | .startTag t =>
    match t.name with
    | "html" => mergeRoot t
    | "col" =>
      closedTag t
      return .done
    | "template" => headTag t
    | _ => leave
  | .endTag t =>
    match t.name with
    | "colgroup" =>
      if ← currentIs "colgroup" then
        pop
        setMode .inTable
      return .done
    | "col" => return .done
    | "template" => closeTemplate
    | _ => leave
  | .eof => inBody token
  | _ => leave
where
  /-- The group ends where something stands that does not belong into it. -/
  leave : Build Outcome := do
    if ← currentIs "colgroup" then
      pop
      return .again .inTable token
    else return .done

/-- In a group of rows. -/
def inTableBody (token : Token) : Build Outcome := do
  match token with
  | .startTag t =>
    match t.name with
    | "tr" =>
      popUntilCurrent Label.isTableBodyContext
      openTag t
      setMode .inRow
      return .done
    | "td" | "th" =>
      popUntilCurrent Label.isTableBodyContext
      openNamed "tr"
      return .again .inRow token
    | "caption" | "col" | "colgroup" | "tbody" | "tfoot" | "thead" => leave
    | _ => inTable token
  | .endTag t =>
    match t.name with
    | "tbody" | "tfoot" | "thead" =>
      if ← inScopeNamed Label.boundsTableScope t.name then
        popUntilCurrent Label.isTableBodyContext
        pop
        setMode .inTable
      return .done
    | "table" => leave
    | name => if isStrayTableEnd name then return .done else inTable token
  | _ => inTable token
where
  /-- Close the group and go on in the table. -/
  leave : Build Outcome := do
    if ← inScope Label.boundsTableScope fun _ l => l.isOneOf ["table", "tbody", "tfoot"] then
      popUntilCurrent Label.isTableBodyContext
      pop
      return .again .inTable token
    else return .done

/-- In a row. -/
def inRow (token : Token) : Build Outcome := do
  match token with
  | .startTag t =>
    match t.name with
    | "td" | "th" =>
      popUntilCurrent Label.isTableRowContext
      openTag t
      setMode .inCell
      pushMarker
      return .done
    | "caption" | "col" | "colgroup" | "tbody" | "tfoot" | "thead" | "tr" => leave
    | _ => inTable token
  | .endTag t =>
    match t.name with
    | "tr" =>
      if ← inScopeNamed Label.boundsTableScope "tr" then
        popUntilCurrent Label.isTableRowContext
        pop
        setMode .inTableBody
      return .done
    | "table" => leave
    | "tbody" | "tfoot" | "thead" =>
      if ← inScopeNamed Label.boundsTableScope t.name then leave else return .done
    | name => if isStrayTableEnd name then return .done else inTable token
  | _ => inTable token
where
  /-- Close the row and go on in its group. -/
  leave : Build Outcome := do
    if ← inScopeNamed Label.boundsTableScope "tr" then
      popUntilCurrent Label.isTableRowContext
      pop
      return .again .inTableBody token
    else return .done

/-- In a cell. -/
def inCell (token : Token) : Build Outcome := do
  match token with
  | .startTag t =>
    if structureNames.contains t.name then
      if ← inScope Label.boundsTableScope fun _ l => l.isCell then leave else return .done
    else inBody token
  | .endTag t =>
    match t.name with
    | "td" | "th" =>
      if ← inScopeNamed Label.boundsTableScope t.name then
        closeImplied Label.endIsImplied
        popThroughNamed t.name
        clearToMarker
        setMode .inRow
      return .done
    | "body" | "caption" | "col" | "colgroup" | "html" => return .done
    | "table" | "tbody" | "tfoot" | "thead" | "tr" =>
      if ← inScopeNamed Label.boundsTableScope t.name then leave else return .done
    | _ => inBody token
  | _ => inBody token
where
  /-- Close the cell and go on in its row. -/
  leave : Build Outcome := do
    closeImplied Label.endIsImplied
    popThrough Label.isCell
    clearToMarker
    return .again .inRow token

/-! ## Selects -/

/-- In a select. -/
def inSelect (token : Token) : Build Outcome := do
  match token with
  | .text _ run => insertText run
  | .comment content => insertComment content
  | .startTag t =>
    match t.name with
    | "html" => return ← mergeRoot t
    | "option" =>
      if ← currentIs "option" then pop
      openTag t
    | "optgroup" =>
      if ← currentIs "option" then pop
      if ← currentIs "optgroup" then pop
      openTag t
    | "hr" =>
      if ← currentIs "option" then pop
      if ← currentIs "optgroup" then pop
      closedTag t
    | "select" => closeSelect
    | "input" | "keygen" | "textarea" =>
      if ← inScopeNamed Label.boundsSelectScope "select" then
        popThroughNamed "select"
        return .again (← appropriateMode) token
    | "script" | "template" => return ← headTag t
    | _ => pure ()
  | .endTag t =>
    match t.name with
    | "optgroup" =>
      let s ← get
      let outer := s.stack.tail.headD Draft.documentId
      if (← currentIs "option") && (s.draft.label outer).isNamed "optgroup" then pop
      if ← currentIs "optgroup" then pop
    | "option" => if ← currentIs "option" then pop
    | "select" => closeSelect
    | "template" => return ← closeTemplate
    | _ => pure ()
  | .eof => return ← inBody token
  | _ => pure ()
  return .done
where
  /-- Close the select, if it is in scope. -/
  closeSelect : Build Unit := do
    if ← inScopeNamed Label.boundsSelectScope "select" then
      popThroughNamed "select"
      resetMode

/-- In a select that stands in a table: the parts of the table close it. -/
def inSelectInTable (token : Token) : Build Outcome := do
  match token with
  | .startTag t =>
    if isTablePart t.name then
      popThroughNamed "select"
      return .again (← appropriateMode) token
    else inSelect token
  | .endTag t =>
    if isTablePart t.name then
      if ← inScopeNamed Label.boundsTableScope t.name then
        popThroughNamed "select"
        return .again (← appropriateMode) token
      else return .done
    else inSelect token
  | _ => inSelect token
where
  /-- The parts of a table that close a select. -/
  isTablePart (name : String) : Bool :=
    ["caption", "table", "tbody", "tfoot", "thead", "tr", "td", "th"].contains name

end Build

end Glean.Html
