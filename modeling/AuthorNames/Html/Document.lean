import AuthorNames.Html.Lexer
import AuthorNames.Html.Rules.Table
/-!
From the characters of a page to its tree. The reader of characters and the builder of the tree go
hand in hand, one character at a time: the tree decides how what follows a start tag is read.
-/

namespace AuthorNames.Html

namespace Rules

open Builder

/-- In a template: the first element inside it tells what it is a template of. -/
def inTemplate (b : Builder) (token : Token) : Builder × Verdict :=
  let become := fun mode => passTo { b with templateModes := mode :: b.templateModes.drop 1 } mode
  match token with
  | .char _ | .comment => inBody b token
  | .startTag tag =>
    match tag.name with
    | "base" | "basefont" | "bgsound" | "link" | "meta" | "noframes" | "script" | "style" | "template"
    | "title" => startInHead b tag
    | "caption" | "colgroup" | "tbody" | "tfoot" | "thead" => become .inTable
    | "col" => become .inColumnGroup
    | "tr" => become .inTableBody
    | "td" | "th" => become .inRow
    | _ => become .inBody
  | .endTag "template" => endInHead b "template"
  | .endOfPage => endOfTemplate b
  | _ => (b, .done)

/-- Before the root element. -/
def beforeHtml (b : Builder) (token : Token) : Builder × Verdict :=
  let anyway := passTo (b.openRoot ⟨"html", [], false⟩) .beforeHead
  match token with
  | .char c => if isSpace c then (b, .done) else anyway
  | .comment => (b.putCommentIn 0, .done)
  | .startTag tag => if tag.name = "html" then ((b.openRoot tag).enter .beforeHead, .done) else anyway
  | .endTag name => if ["head", "body", "html", "br"].contains name then anyway else (b, .done)
  | _ => anyway

/-- Opens the head and remembers it. -/
def openHead (b : Builder) (tag : Tag) : Builder :=
  let b := b.openTag tag
  { b with head := b.stack.head?, mode := .inHead }

/-- Before the head. -/
def beforeHead (b : Builder) (token : Token) : Builder × Verdict :=
  let anyway := (openHead b ⟨"head", [], false⟩, Verdict.again)
  match token with
  | .char c => if isSpace c then (b, .done) else anyway
  | .comment => (b.putComment, .done)
  | .startTag tag =>
    if tag.name = "html" then (b, .done)
    else if tag.name = "head" then (openHead b tag, .done)
    else anyway
  | .endTag name => if ["head", "body", "html", "br"].contains name then anyway else (b, .done)
  | _ => anyway

/-- Behind the head: its elements are still put into it. -/
def afterHead (b : Builder) (token : Token) : Builder × Verdict :=
  let anyway := passTo (b.openName "body") .inBody
  match token with
  | .char c => if isSpace c then (b.putChar c, .done) else anyway
  | .comment => (b.putComment, .done)
  | .startTag tag =>
    match tag.name with
    | "html" | "head" => (b, .done)
    | "body" => ((b.openTag tag).noFrameset.enter .inBody, .done)
    | "frameset" => ((b.openTag tag).enter .inFrameset, .done)
    | "base" | "basefont" | "bgsound" | "link" | "meta" | "noframes" | "script" | "style" | "template"
    | "title" =>
      match b.head with
      | some i =>
        let (b, verdict) := startInHead { b with stack := i :: b.stack } tag
        (b.unstack i, verdict)
      | none => (b, .done)
    | _ => anyway
  | .endTag name =>
    match name with
    | "template" => endInHead b name
    | "body" | "html" | "br" => anyway
    | _ => (b, .done)
  | _ => anyway

/-- In text that is read as it is. -/
def inText (b : Builder) : Token → Builder × Verdict
  | .char c => (b.putChar c, .done)
  | .endOfPage => passTo b.pop b.resume
  | .endTag _ => (b.pop.enter b.resume, .done)
  | _ => (b, .done)

/-- Behind the body. -/
def afterBody (b : Builder) (token : Token) : Builder × Verdict :=
  match token with
  | .char c => if isSpace c then inBody b token else passTo b .inBody
  | .comment => (b.putCommentIn (b.stack.getLast?.getD 0), .done)
  | .startTag tag => if tag.name = "html" then (b, .done) else passTo b .inBody
  | .endTag name => if name = "html" then (b.enter .afterAfterBody, .done) else passTo b .inBody
  | .endOfPage => (b, .done)
  | _ => passTo b .inBody

/-- Behind the root element. -/
def afterAfterBody (b : Builder) (token : Token) : Builder × Verdict :=
  match token with
  | .char c => if isSpace c then inBody b token else passTo b .inBody
  | .comment => (b.putCommentIn 0, .done)
  | .startTag tag => if tag.name = "html" then (b, .done) else passTo b .inBody
  | .endOfPage => (b, .done)
  | _ => passTo b .inBody

/-- In a frameset, which holds frames and nothing else. -/
def inFrameset (b : Builder) (token : Token) : Builder × Verdict :=
  match token with
  | .char c => (if isSpace c then b.putChar c else b, .done)
  | .comment => (b.putComment, .done)
  | .startTag tag =>
    match tag.name with
    | "frameset" => (b.openTag tag, .done)
    | "frame" => (b.putTag tag, .done)
    | "noframes" => startInHead b tag
    | _ => (b, .done)
  | .endTag "frameset" =>
    if b.stack.length = 1 then (b, .done)
    else
      let b := b.pop
      (if b.currentIs ["frameset"] then b else b.enter .afterFrameset, .done)
  | _ => (b, .done)

/-- Behind a frameset. -/
def afterFrameset (b : Builder) (token : Token) : Builder × Verdict :=
  match token with
  | .char c => (if isSpace c then b.putChar c else b, .done)
  | .comment => (b.putComment, .done)
  | .startTag tag => if tag.name = "noframes" then startInHead b tag else (b, .done)
  | .endTag name => (if name = "html" then b.enter .afterAfterFrameset else b, .done)
  | _ => (b, .done)

/-- Behind the root element of a page of frames. -/
def afterAfterFrameset (b : Builder) (token : Token) : Builder × Verdict :=
  match token with
  | .char c => if isSpace c then inBody b token else (b, .done)
  | .comment => (b.putCommentIn 0, .done)
  | .startTag tag => if tag.name = "noframes" then startInHead b tag else (b, .done)
  | _ => (b, .done)

/-- Before anything but a document type; a page without one follows the rules of old browsers. -/
def initial (b : Builder) (token : Token) : Builder × Verdict :=
  let anyway := ({ b with isOld := true, mode := .beforeHtml }, Verdict.again)
  match token with
  | .char c => if isSpace c then (b, .done) else anyway
  | .comment => (b.putCommentIn 0, .done)
  | _ => anyway

/-- A token by the rules of the mode. -/
def byMode (b : Builder) (token : Token) : Builder × Verdict :=
  match b.mode with
  | .initial => initial b token
  | .beforeHtml => beforeHtml b token
  | .beforeHead => beforeHead b token
  | .inHead => inHead b token
  | .afterHead => afterHead b token
  | .inBody => inBody b token
  | .text => inText b token
  | .inTable => inTable b token
  | .inTableText => inTableText b token
  | .inCaption => inCaption b token
  | .inColumnGroup => inColumnGroup b token
  | .inTableBody => inTableBody b token
  | .inRow => inRow b token
  | .inCell => inCell b token
  | .inSelect => inSelect b token
  | .inSelectInTable => inSelectInTable b token
  | .inTemplate => inTemplate b token
  | .afterBody => afterBody b token
  | .inFrameset => inFrameset b token
  | .afterFrameset => afterFrameset b token
  | .afterAfterBody => afterAfterBody b token
  | .afterAfterFrameset => afterAfterFrameset b token

/-- Elements that end a drawing or formula they are found in. -/
def breakoutNames : List String :=
  ["b", "big", "blockquote", "body", "br", "center", "code", "dd", "div", "dl", "dt", "em", "embed",
   "h1", "h2", "h3", "h4", "h5", "h6", "head", "hr", "i", "img", "li", "listing", "menu", "meta",
   "nobr", "ol", "p", "pre", "ruby", "s", "small", "span", "strong", "strike", "sub", "sup", "table",
   "tt", "u", "ul", "var"]

/-- Whether the start tag ends a drawing or formula it is found in. -/
def isBreakout (tag : Tag) : Bool :=
  breakoutNames.contains tag.name ||
    (tag.name == "font" && tag.attributes.any fun a => ["color", "face", "size"].contains a.1)

/-- Ends drawings and formulas, and gives the token to the mode. -/
def breakOut (b : Builder) (token : Token) : Builder × Verdict :=
  byMode (b.popWhile fun e => !(e.space == .html || e.isMathText || e.isSvgPage)) token

/-- The end tag of an element in a drawing or formula, given the open elements innermost first and
whether the innermost is at hand: it closes the nearest of that name, and beyond the drawing the
mode decides. -/
def endForeign (b : Builder) (name : String) : Bool → List Nat → Builder × Verdict
  | _, [] => (b, .done)
  | isFirst, i :: rest =>
    if rest.isEmpty then (b, .done)
    else
      match b.tree.element? i with
      | some e =>
        if !isFirst && e.space == .html then byMode b (.endTag name)
        else if e.name == name then ({ b with stack := rest }, .done)
        else endForeign b name false rest
      | none => endForeign b name false rest

/-- In a drawing or formula. -/
def inForeign (b : Builder) (token : Token) : Builder × Verdict :=
  match token with
  | .zero => (b.putChar '\uFFFD', .done)
  | .char c => ((if isSpace c then b else b.noFrameset).putChar c, .done)
  | .comment => (b.putComment, .done)
  | .startTag tag =>
    if isBreakout tag then breakOut b token
    else (openForeign b ((b.current?.map (·.space)).getD .html) tag, .done)
  | .endTag name =>
    if name = "br" ∨ name = "p" then breakOut b token else endForeign b name true b.stack
  | _ => (b, .done)

/-- Whether a token is for the rules of the drawing or formula that is open. -/
def isForeign (b : Builder) (token : Token) : Bool :=
  match b.current? with
  | none => false
  | some e =>
    match token with
    | .endOfPage => false
    | .char _ | .zero => e.space != .html && !e.isMathText && !e.isSvgPage
    | .startTag tag =>
      e.space != .html && !(e.isMathText && tag.name != "mglyph" && tag.name != "malignmark") &&
        !e.isSvgPage && !(e.space == .math && e.name == "annotation-xml" && tag.name == "svg")
    | _ => e.space != .html

/-- One step with a token. -/
def step (b : Builder) (token : Token) : Builder × Verdict :=
  if isForeign b token then inForeign b token else byMode b token

/-- Steps with a token until one is done with it; the first argument bounds their number. -/
def settle (token : Token) : Nat → Builder → Builder × Verdict
  | 0, b => (b, .done)
  | steps + 1, b =>
    match step b token with
    | (b, .again) => settle token steps b
    | result => result

/-- A bound on the steps with one token: each but a few closes an element. -/
def stepBound (b : Builder) : Nat :=
  4 * b.stack.length + 32

end Rules

/-- The builder after a token, and how what follows is read. -/
def Builder.take (b : Builder) (token : Token) : Builder × Verdict :=
  let dropsLine := b.dropsLine
  let b := { b with dropsLine := false }
  match token with
  | .nameless => (b, .done)
  | .doctype isOld =>
    if b.mode = .initial then
      let (tree, i) := b.tree.add .doctype
      ({ b with tree := tree.append 0 i, isOld, mode := .beforeHtml }, .done)
    else (b, .done)
  | .char c =>
    if dropsLine && c == '\n' then (b, .done) else Rules.settle token (Rules.stepBound b) b
  | _ => Rules.settle token (Rules.stepBound b) b

/-- A page that is being read: where the reader is, the name of the last start tag, and the tree as
it is built. -/
structure Parser where
  state : LexerState
  lastStart : String
  builder : Builder
  deriving DecidableEq, Repr

namespace Parser

/-- Before the first character. -/
def start : Parser :=
  ⟨.data, "", .start⟩

/-- Whether a section of plain text may begin: inside a drawing or formula. -/
def inForeign (p : Parser) : Bool :=
  p.builder.current?.any (·.space != .html)

/-- Takes a token into the tree. -/
def take (p : Parser) (token : Token) : Parser :=
  let (builder, verdict) := p.builder.take token
  let lastStart := match token with
    | .startTag tag => tag.name
    | _ => p.lastStart
  let state := match verdict with
    | .raw kind => .raw kind
    | .plaintext => .plaintext
    | _ => p.state
  ⟨state, lastStart, builder⟩

/-- Reads a character, again in the state it leads to where it is to be read again; the first
argument bounds how often. -/
def read (c : Char) : Nat → Parser → Parser
  | 0, p => p
  | times + 1, p =>
    let reaction := react p.lastStart p.inForeign p.state c
    let p := reaction.tokens.foldl take { p with state := reaction.state }
    if reaction.again then read c times p else p

/-- Reads a character. -/
def feed (p : Parser) (c : Char) : Parser :=
  read c 4 p

/-- The tree at the end of the page. -/
def finish (p : Parser) : Tree :=
  ((atEnd p.state).foldl take p |>.take .endOfPage).builder.tree

end Parser

/-- The characters of a page with each line break as one line feed. -/
def unifyBreaks : List Char → List Char
  | '\r' :: '\n' :: rest => '\n' :: unifyBreaks rest
  | '\r' :: rest => '\n' :: unifyBreaks rest
  | c :: rest => c :: unifyBreaks rest
  | [] => []

/-- The characters of a page without the mark of byte order in front of them. -/
def dropMark : List Char → List Char
  | '\uFEFF' :: rest => rest
  | page => page

/-- The tree of a page. -/
def parse (page : List Char) : Tree :=
  ((unifyBreaks (dropMark page)).foldl Parser.feed .start).finish

end AuthorNames.Html
