import AuthorNames.Html.Adoption
/-!
The rules for the head of a page, which hold wherever one of its elements turns up, and the rules by
which the mode is found again when an element is closed that had one of its own.
-/

namespace AuthorNames.Html.Rules

open Builder

/-- An element whose text is read as it is. -/
def openRaw (b : Builder) (tag : Tag) (kind : RawKind) : Builder × Verdict :=
  let b := b.openTag tag
  ({ b with resume := b.mode, mode := .text }, .raw kind)

/-- Whether a choice is inside a table, given the elements around it. -/
def modeInSelect (b : Builder) : List Nat → Mode
  | [] => .inSelect
  | i :: rest =>
    if b.isOne ["template"] i then .inSelect
    else if b.isOne ["table"] i then .inSelectInTable
    else modeInSelect b rest

/-- The mode that the open elements call for, innermost first. -/
def modeFor (b : Builder) : List Nat → Mode
  | [] => .inBody
  | i :: rest =>
    match b.tree.element? i with
    | some ⟨.html, name, _⟩ =>
      match name with
      | "select" => modeInSelect b rest
      | "td" | "th" => if rest.isEmpty then modeFor b rest else .inCell
      | "tr" => .inRow
      | "tbody" | "thead" | "tfoot" => .inTableBody
      | "caption" => .inCaption
      | "colgroup" => .inColumnGroup
      | "table" => .inTable
      | "template" => b.templateModes.head?.getD .inBody
      | "head" => if rest.isEmpty then modeFor b rest else .inHead
      | "body" => .inBody
      | "frameset" => .inFrameset
      | "html" => if b.head.isNone then .beforeHead else .afterHead
      | _ => modeFor b rest
    | _ => modeFor b rest

/-- Enters the mode that the open elements call for. -/
def reset (b : Builder) : Builder :=
  b.enter (modeFor b b.stack)

/-- Enters a mode and gives the token to it. -/
def passTo (b : Builder) (mode : Mode) : Builder × Verdict :=
  (b.enter mode, .again)

/-- Start tags in the head. -/
def startInHead (b : Builder) (tag : Tag) : Builder × Verdict :=
  match tag.name with
  | "html" | "head" => (b, .done)
  | "base" | "basefont" | "bgsound" | "link" | "meta" => (b.putTag tag, .done)
  | "title" => openRaw b tag .references
  | "noframes" | "style" | "noscript" => openRaw b tag .plain
  | "script" => openRaw b tag .script
  | "template" =>
    let b := (b.openTag tag).mark.noFrameset
    ({ b with mode := .inTemplate, templateModes := .inTemplate :: b.templateModes }, .done)
  | _ => passTo b.pop .afterHead

/-- The end of a template. -/
def endTemplate (b : Builder) : Builder :=
  if b.hasOpen "template" then
    let b := ((b.popWhile (·.isOne thoroughlyImpliedNames)).popThrough ["template"]).clearToMark
    reset { b with templateModes := b.templateModes.drop 1 }
  else b

/-- End tags in the head. -/
def endInHead (b : Builder) (name : String) : Builder × Verdict :=
  match name with
  | "head" => (b.pop.enter .afterHead, .done)
  | "body" | "html" | "br" => passTo b.pop .afterHead
  | "template" => (endTemplate b, .done)
  | _ => (b, .done)

/-- In the head. -/
def inHead (b : Builder) : Token → Builder × Verdict
  | .char c => if isSpace c then (b.putChar c, .done) else passTo b.pop .afterHead
  | .comment => (b.putComment, .done)
  | .startTag tag => startInHead b tag
  | .endTag name => endInHead b name
  | _ => passTo b.pop .afterHead

end AuthorNames.Html.Rules
