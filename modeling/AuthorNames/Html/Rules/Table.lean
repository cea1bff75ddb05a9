import AuthorNames.Html.Rules.Body
/-!
The rules for tables and their parts. Text and elements that have no place in a table are put in
front of it.
-/

namespace AuthorNames.Html.Rules

open Builder

/-- A character in a table. Text is held back until it is known whether it is all space. -/
def charInTable (b : Builder) (token : Token) : Builder × Verdict :=
  if b.currentIs ["table", "tbody", "tfoot", "thead", "tr"] then
    ({ b with resume := b.mode, mode := .inTableText }, .again)
  else fostered b token

/-- In a table. -/
def inTable (b : Builder) (token : Token) : Builder × Verdict :=
  match token with
  | .char _ | .zero => charInTable b token
  | .comment => (b.putComment, .done)
  | .startTag tag =>
    let bare := b.popUntil ["html", "table", "template"]
    match tag.name with
    | "caption" => ((bare.mark.openTag tag).enter .inCaption, .done)
    | "colgroup" => ((bare.openTag tag).enter .inColumnGroup, .done)
    | "col" => passTo (bare.openName "colgroup") .inColumnGroup
    | "tbody" | "tfoot" | "thead" => ((bare.openTag tag).enter .inTableBody, .done)
    | "td" | "th" | "tr" => passTo (bare.openName "tbody") .inTableBody
    | "table" =>
      if b.inScope Element.isTableScope ["table"] then (reset (b.popThrough ["table"]), .again)
      else (b, .done)
    | "style" | "script" | "template" => startInHead b tag
    | "input" => if isHiddenInput tag then (b.putTag tag, .done) else fostered b token
    | "form" =>
      if !b.hasOpen "template" && b.form.isNone then
        let (b, i) := b.putElement .html tag
        ({ b with form := some i }, .done)
      else (b, .done)
    | _ => fostered b token
  | .endTag name =>
    match name with
    | "table" =>
      (if b.inScope Element.isTableScope ["table"] then reset (b.popThrough ["table"]) else b, .done)
    | "body" | "caption" | "col" | "colgroup" | "html" | "tbody" | "td" | "tfoot" | "th" | "thead"
    | "tr" => (b, .done)
    | "template" => endInHead b name
    | _ => fostered b token
  | .endOfPage => inBody b token
  | _ => fostered b token

/-- In the text of a table: what was held back is put in front of the table unless it is all space. -/
def inTableText (b : Builder) : Token → Builder × Verdict
  | .zero => (b, .done)
  | .char c => ({ b with pending := c :: b.pending }, .done)
  | _ =>
    let text := b.pending.reverse
    let b := { b with pending := [] }
    let b :=
      if text.all isSpace then text.foldl (fun b c => b.putChar c) b
      else text.foldl (fun b c => (fostered b (.char c)).1) b
    passTo b b.resume

/-- In the caption of a table. -/
def inCaption (b : Builder) (token : Token) : Builder × Verdict :=
  let isOpen := b.inScope Element.isTableScope ["caption"]
  let closed := (b.closeImplied.popThrough ["caption"]).clearToMark
  match token with
  | .startTag tag =>
    if ["caption", "col", "colgroup", "tbody", "td", "tfoot", "th", "thead", "tr"].contains tag.name then
      if isOpen then passTo closed .inTable else (b, .done)
    else inBody b token
  | .endTag name =>
    if name = "caption" then (if isOpen then closed.enter .inTable else b, .done)
    else if name = "table" then if isOpen then passTo closed .inTable else (b, .done)
    else if ["body", "col", "colgroup", "html", "tbody", "td", "tfoot", "th", "thead",
        "tr"].contains name then (b, .done)
    else inBody b token
  | _ => inBody b token

/-- Closes a group of columns for a token that has no place in it. -/
def leaveColumns (b : Builder) : Builder × Verdict :=
  if b.currentIs ["colgroup"] then passTo b.pop .inTable else (b, .done)

/-- In a group of columns. -/
def inColumnGroup (b : Builder) (token : Token) : Builder × Verdict :=
  match token with
  | .char c => if isSpace c then (b.putChar c, .done) else leaveColumns b
  | .comment => (b.putComment, .done)
  | .startTag tag =>
    match tag.name with
    | "html" => (b, .done)
    | "col" => (b.putTag tag, .done)
    | "template" => startInHead b tag
    | _ => leaveColumns b
  | .endTag name =>
    match name with
    | "colgroup" => (if b.currentIs ["colgroup"] then b.pop.enter .inTable else b, .done)
    | "col" => (b, .done)
    | "template" => endInHead b name
    | _ => leaveColumns b
  | .endOfPage => inBody b token
  | _ => leaveColumns b

/-- In the body of a table. -/
def inTableBody (b : Builder) (token : Token) : Builder × Verdict :=
  let bare := b.popUntil ["tbody", "tfoot", "thead", "template", "html"]
  let leave :=
    if b.inScope Element.isTableScope ["table", "tbody", "tfoot"] then passTo bare.pop .inTable
    else (b, .done)
  match token with
  | .startTag tag =>
    match tag.name with
    | "tr" => ((bare.openTag tag).enter .inRow, .done)
    | "th" | "td" => passTo (bare.openName "tr") .inRow
    | "caption" | "col" | "colgroup" | "tbody" | "tfoot" | "thead" => leave
    | _ => inTable b token
  | .endTag name =>
    match name with
    | "tbody" | "tfoot" | "thead" =>
      (if b.inScope Element.isTableScope [name] then bare.pop.enter .inTable else b, .done)
    | "table" => leave
    | "body" | "caption" | "col" | "colgroup" | "html" | "td" | "th" | "tr" => (b, .done)
    | _ => inTable b token
  | _ => inTable b token

/-- In a row of a table. -/
def inRow (b : Builder) (token : Token) : Builder × Verdict :=
  let bare := b.popUntil ["tr", "template", "html"]
  let hasRow := b.inScope Element.isTableScope ["tr"]
  let leave := if hasRow then passTo bare.pop .inTableBody else (b, .done)
  match token with
  | .startTag tag =>
    match tag.name with
    | "th" | "td" => ((bare.openTag tag).mark.enter .inCell, .done)
    | "caption" | "col" | "colgroup" | "tbody" | "tfoot" | "thead" | "tr" => leave
    | _ => inTable b token
  | .endTag name =>
    match name with
    | "tr" => (if hasRow then bare.pop.enter .inTableBody else b, .done)
    | "table" => leave
    | "tbody" | "tfoot" | "thead" => if b.inScope Element.isTableScope [name] then leave else (b, .done)
    | "body" | "caption" | "col" | "colgroup" | "html" | "td" | "th" => (b, .done)
    | _ => inTable b token
  | _ => inTable b token

/-- Closes the cell that is open. -/
def closeCell (b : Builder) : Builder :=
  (b.closeImplied.popThrough ["td", "th"]).clearToMark

/-- In a cell of a table. -/
def inCell (b : Builder) (token : Token) : Builder × Verdict :=
  match token with
  | .startTag tag =>
    if ["caption", "col", "colgroup", "tbody", "td", "tfoot", "th", "thead", "tr"].contains tag.name then
      if b.inScope Element.isTableScope ["td", "th"] then passTo (closeCell b) .inRow else (b, .done)
    else inBody b token
  | .endTag name =>
    match name with
    | "td" | "th" =>
      (if b.inScope Element.isTableScope [name] then
        ((b.closeImplied.popThrough [name]).clearToMark).enter .inRow else b, .done)
    | "body" | "caption" | "col" | "colgroup" | "html" => (b, .done)
    | "table" | "tbody" | "tfoot" | "thead" | "tr" =>
      if b.inScope Element.isTableScope [name] then passTo (closeCell b) .inRow else (b, .done)
    | _ => inBody b token
  | _ => inBody b token

/-- In a choice. -/
def inSelect (b : Builder) (token : Token) : Builder × Verdict :=
  let isOpen := b.inScope Element.isSelectScope ["select"]
  let closed := reset (b.popThrough ["select"])
  match token with
  | .char c => (b.putChar c, .done)
  | .comment => (b.putComment, .done)
  | .startTag tag =>
    match tag.name with
    | "option" => ((if b.currentIs ["option"] then b.pop else b).openTag tag, .done)
    | "optgroup" =>
      let b := if b.currentIs ["option"] then b.pop else b
      ((if b.currentIs ["optgroup"] then b.pop else b).openTag tag, .done)
    | "select" => (if isOpen then closed else b, .done)
    | "input" | "keygen" | "textarea" => if isOpen then (closed, .again) else (b, .done)
    | "script" | "template" => startInHead b tag
    | _ => (b, .done)
  | .endTag name =>
    match name with
    | "optgroup" =>
      let b :=
        if b.currentIs ["option"] && (b.stack.drop 1).head?.any (b.isOne ["optgroup"]) then b.pop else b
      (if b.currentIs ["optgroup"] then b.pop else b, .done)
    | "option" => (if b.currentIs ["option"] then b.pop else b, .done)
    | "select" => (if isOpen then closed else b, .done)
    | "template" => endInHead b name
    | _ => (b, .done)
  | .endOfPage => inBody b token
  | _ => (b, .done)

/-- In a choice inside a table. -/
def inSelectInTable (b : Builder) (token : Token) : Builder × Verdict :=
  let parts := ["caption", "table", "tbody", "tfoot", "thead", "tr", "td", "th"]
  let closed := (reset (b.popThrough ["select"]), Verdict.again)
  match token with
  | .startTag tag => if parts.contains tag.name then closed else inSelect b token
  | .endTag name =>
    if parts.contains name then
      if b.inScope Element.isTableScope [name] then closed else (b, .done)
    else inSelect b token
  | _ => inSelect b token

end AuthorNames.Html.Rules
