import AuthorNames.Html.Rules.Head
/-!
The rules for the body of a page, which most other modes fall back on.
-/

namespace AuthorNames.Html.Rules

open Builder

/-- The end of the page inside a template closes it. -/
def endOfTemplate (b : Builder) : Builder × Verdict :=
  if b.hasOpen "template" then
    let b := (b.popThrough ["template"]).clearToMark
    (reset { b with templateModes := b.templateModes.drop 1 }, .again)
  else (b, .done)

/-- A character in the body. -/
def charInBody (b : Builder) (c : Char) : Builder :=
  let b := b.reconstruct
  (if isSpace c then b else b.noFrameset).putChar c

/-- A frameset takes the place of a body on which nothing is to be seen yet. -/
def framesetInBody (b : Builder) (tag : Tag) : Builder :=
  match b.stack.reverse with
  | root :: body :: _ =>
    if b.framesetOk && b.isOne ["body"] body then
      ({ b with tree := b.tree.detach body, stack := [root] }.openTag tag).enter .inFrameset
    else b
  | _ => b

/-- A start tag of the body when one is open. -/
def bodyInBody (b : Builder) : Builder :=
  match b.stack.reverse with
  | _ :: body :: _ => if b.isOne ["body"] body && !b.hasOpen "template" then b.noFrameset else b
  | _ => b

/-- Closes the item that a new one of its kind follows. -/
def closeItem (b : Builder) (names : List String) : Builder :=
  let isBarrier := fun i => (b.tree.element? i).any fun e => e.isSpecial && !e.isOne ["address", "div", "p"]
  match b.stack.find? fun i => b.isOne names i || isBarrier i with
  | some i =>
    match b.tree.element? i with
    | some e => if e.isOne names then (b.closeImpliedBut e.name).popThrough [e.name] else b
    | none => b
  | none => b

/-- A form; a second one inside it is dropped. -/
def formInBody (b : Builder) (tag : Tag) : Builder :=
  let inTemplate := b.hasOpen "template"
  if b.form.isSome && !inTemplate then b
  else
    let b := b.closeParagraphInScope.openTag tag
    if inTemplate then b else { b with form := b.stack.head? }

/-- A link closes the one it stands in. -/
def linkInBody (b : Builder) (tag : Tag) : Builder :=
  let b := match (afterMarker b.formatting).find? fun entry => b.isOne ["a"] entry.1 with
    | some (i, _) => ((b.closeFormatting "a").unlist i).unstack i
    | none => b
  b.reconstruct.openFormatting tag

/-- Whether the tag is of an input that is not shown. -/
def isHiddenInput (tag : Tag) : Bool :=
  match tag.attribute? "type" with
  | some kind => lowerCase kind == "hidden"
  | none => false
where
  /-- ASCII letters in lower case. -/
  lowerCase (s : String) : String := String.ofList (s.toList.map Char.toLower)

/-- A drawing or a formula, which has a vocabulary of its own. -/
def openForeign (b : Builder) (space : Space) (tag : Tag) : Builder :=
  if tag.isSelfClosing then (b.putElement space tag).1 else b.openIn space tag

/-- A choice. -/
def selectInBody (b : Builder) (tag : Tag) : Builder :=
  let b := (b.reconstruct.openTag tag).noFrameset
  match b.mode with
  | .inTable | .inCaption | .inTableBody | .inRow | .inCell => b.enter .inSelectInTable
  | _ => b.enter .inSelect

/-- An element that nothing is put into and that can be seen. -/
def voidInBody (b : Builder) (tag : Tag) (isSeen : Bool) : Builder :=
  let b := b.reconstruct.putTag tag
  if isSeen then b.noFrameset else b

/-- Start tags in the body. -/
def startInBody (b : Builder) (tag : Tag) : Builder × Verdict :=
  match tag.name with
  | "html" => (b, .done)
  | "base" | "basefont" | "bgsound" | "link" | "meta" | "noframes" | "script" | "style" | "template"
  | "title" => startInHead b tag
  | "body" => (bodyInBody b, .done)
  | "frameset" => (framesetInBody b tag, .done)
  | "address" | "article" | "aside" | "blockquote" | "center" | "details" | "dialog" | "dir" | "div"
  | "dl" | "fieldset" | "figcaption" | "figure" | "footer" | "header" | "hgroup" | "main" | "nav"
  | "ol" | "p" | "section" | "summary" | "ul" | "menu" => (b.closeParagraphInScope.openTag tag, .done)
  | "h1" | "h2" | "h3" | "h4" | "h5" | "h6" =>
    let b := b.closeParagraphInScope
    ((if b.currentIs headingNames then b.pop else b).openTag tag, .done)
  | "pre" | "listing" =>
    ({ (b.closeParagraphInScope.openTag tag).noFrameset with dropsLine := true }, .done)
  | "form" => (formInBody b tag, .done)
  | "li" => ((closeItem b.noFrameset ["li"]).closeParagraphInScope.openTag tag, .done)
  | "dd" | "dt" => ((closeItem b.noFrameset ["dd", "dt"]).closeParagraphInScope.openTag tag, .done)
  | "plaintext" => (b.closeParagraphInScope.openTag tag, .plaintext)
  | "button" =>
    let b := if b.inScope Element.isScope ["button"] then b.closeImplied.popThrough ["button"] else b
    ((b.reconstruct.openTag tag).noFrameset, .done)
  | "a" => (linkInBody b tag, .done)
  | "b" | "big" | "code" | "em" | "font" | "i" | "s" | "small" | "strike" | "strong" | "tt" | "u" =>
    (b.reconstruct.openFormatting tag, .done)
  | "nobr" =>
    let b := b.reconstruct
    let b := if b.inScope Element.isScope ["nobr"] then (b.closeFormatting "nobr").reconstruct else b
    (b.openFormatting tag, .done)
  | "applet" | "marquee" | "object" => ((b.reconstruct.openTag tag).mark.noFrameset, .done)
  | "table" =>
    let b := if b.isOld then b else b.closeParagraphInScope
    ((b.openTag tag).noFrameset.enter .inTable, .done)
  | "area" | "br" | "embed" | "img" | "keygen" | "wbr" => (voidInBody b tag true, .done)
  | "image" => (voidInBody b { tag with name := "img" } true, .done)
  | "input" => (voidInBody b tag (!isHiddenInput tag), .done)
  | "param" | "source" | "track" => (b.putTag tag, .done)
  | "hr" => ((b.closeParagraphInScope.putTag tag).noFrameset, .done)
  | "textarea" => openRaw { b.noFrameset with dropsLine := true } tag .references
  | "xmp" => openRaw b.closeParagraphInScope.reconstruct.noFrameset tag .plain
  | "iframe" => openRaw b.noFrameset tag .plain
  | "noembed" | "noscript" => openRaw b tag .plain
  | "select" => (selectInBody b tag, .done)
  | "optgroup" | "option" =>
    let b := if b.currentIs ["option"] then b.pop else b
    (b.reconstruct.openTag tag, .done)
  | "rb" | "rtc" =>
    let b := if b.inScope Element.isScope ["ruby"] then b.closeImplied else b
    (b.openTag tag, .done)
  | "rp" | "rt" =>
    let b := if b.inScope Element.isScope ["ruby"] then b.closeImpliedBut "rtc" else b
    (b.openTag tag, .done)
  | "math" => (openForeign b .math tag, .done)
  | "svg" => (openForeign b .svg tag, .done)
  | "caption" | "col" | "colgroup" | "frame" | "head" | "tbody" | "td" | "tfoot" | "th" | "thead"
  | "tr" => (b, .done)
  | _ => (b.reconstruct.openTag tag, .done)

/-- The end tag of an element that is open in the scope. -/
def closeInScope (b : Builder) (name : String) : Builder :=
  if b.inScope Element.isScope [name] then b.closeImplied.popThrough [name] else b

/-- The end tag of a form. -/
def endForm (b : Builder) : Builder :=
  if b.hasOpen "template" then closeInScope b "form"
  else
    match b.form with
    | none => b
    | some i =>
      let b := { b with form := none }
      if reaches b.tree Element.isScope (· == i) b.stack then b.closeImplied.unstack i else b

/-- End tags in the body. -/
def endInBody (b : Builder) (name : String) : Builder × Verdict :=
  match name with
  | "template" => endInHead b name
  | "body" => (if b.inScope Element.isScope ["body"] then b.enter .afterBody else b, .done)
  | "html" => if b.inScope Element.isScope ["body"] then passTo b .afterBody else (b, .done)
  | "address" | "article" | "aside" | "blockquote" | "button" | "center" | "details" | "dialog"
  | "dir" | "div" | "dl" | "fieldset" | "figcaption" | "figure" | "footer" | "header" | "hgroup"
  | "listing" | "main" | "menu" | "nav" | "ol" | "pre" | "section" | "summary" | "ul" =>
    (closeInScope b name, .done)
  | "form" => (endForm b, .done)
  | "p" =>
    let b := if b.inScope Element.isButtonScope ["p"] then b else b.openName "p"
    (b.closeParagraph, .done)
  | "li" =>
    (if b.inScope Element.isListScope ["li"] then (b.closeImpliedBut name).popThrough [name] else b, .done)
  | "dd" | "dt" =>
    (if b.inScope Element.isScope [name] then (b.closeImpliedBut name).popThrough [name] else b, .done)
  | "h1" | "h2" | "h3" | "h4" | "h5" | "h6" =>
    (if b.inScope Element.isScope headingNames then b.closeImplied.popThrough headingNames else b, .done)
  | "a" | "b" | "big" | "code" | "em" | "font" | "i" | "nobr" | "s" | "small" | "strike" | "strong"
  | "tt" | "u" => (b.closeFormatting name, .done)
  | "applet" | "marquee" | "object" =>
    (if b.inScope Element.isScope [name] then (closeInScope b name).clearToMark else b, .done)
  | "br" => (voidInBody b ⟨"br", [], false⟩ true, .done)
  | _ => (b.closeGeneric name, .done)

/-- In the body. -/
def inBody (b : Builder) : Token → Builder × Verdict
  | .char c => (charInBody b c, .done)
  | .comment => (b.putComment, .done)
  | .startTag tag => startInBody b tag
  | .endTag name => endInBody b name
  | .endOfPage => if b.templateModes.isEmpty then (b, .done) else endOfTemplate b
  | _ => (b, .done)

/-- The token by the rules of the body, but what a table cannot hold is put in front of it. -/
def fostered (b : Builder) (token : Token) : Builder × Verdict :=
  let (b, verdict) := inBody { b with isFostering := true } token
  ({ b with isFostering := false }, verdict)

end AuthorNames.Html.Rules
