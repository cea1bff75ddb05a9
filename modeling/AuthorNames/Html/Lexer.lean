import AuthorNames.Html.Doctype
import AuthorNames.Html.Reference
import AuthorNames.Html.Token
/-!
From characters to tokens. The reader is in one of the states below and takes one character at a
time; a state carries what has been read of the tag, comment or reference at hand, so that nothing
is remembered beside it but the name of the last start tag. A character that ends one construct and
begins another is read a second time in the state it leads to.
-/

namespace AuthorNames.Html

/-- A tag that is being read, its name and its attributes latest first. -/
structure Draft where
  isEnd : Bool
  name : List Char
  attributes : List (String × String)
  deriving DecidableEq, Repr

/-- What encloses a value. -/
inductive Quote where
  | double | single | none
  deriving DecidableEq, Repr

/-- A document type that is being read, its texts latest character first. -/
structure DoctypeDraft where
  name : Option (List Char)
  publicId : Option (List Char)
  systemId : Option (List Char)
  isBroken : Bool
  deriving DecidableEq, Repr

/-- The states of the reader. Texts carried along are latest character first. -/
inductive LexerState where
  | data
  | plaintext
  | raw (kind : RawKind)
  | reference (inTitle : Bool) (seen : Reference)
  | tagOpen
  | endTagOpen
  | tagName (draft : Draft)
  | beforeAttribute (draft : Draft)
  | attributeName (draft : Draft) (name : List Char)
  | afterAttributeName (draft : Draft) (name : List Char)
  | beforeValue (draft : Draft) (name : List Char)
  | value (quote : Quote) (draft : Draft) (name text : List Char)
  | valueReference (seen : Reference) (quote : Quote) (draft : Draft) (name text : List Char)
  | afterValue (draft : Draft)
  | selfClosing (draft : Draft)
  | rawLess (kind : RawKind)
  | rawEndOpen (kind : RawKind)
  | rawEndName (kind : RawKind) (name : List Char)
  | escapeStart
  | escapeStartDash
  | nestedStart (name : List Char)
  | nestedEnd (name : List Char)
  | escapedDash (isNested : Bool)
  | escapedDashDash (isNested : Bool)
  | bogusComment
  | declaration (seen : List Char)
  | commentStart
  | commentStartDash
  | comment
  | commentDash
  | commentEnd
  | commentBang
  | doctypeStart
  | doctypeName (draft : DoctypeDraft)
  | afterDoctypeName (draft : DoctypeDraft)
  | doctypeKeyword (draft : DoctypeDraft) (seen : List Char)
  | afterKeyword (isPublic : Bool) (draft : DoctypeDraft)
  | beforeId (isPublic : Bool) (draft : DoctypeDraft)
  | doctypeId (isPublic : Bool) (quote : Quote) (draft : DoctypeDraft)
  | afterId (isPublic : Bool) (draft : DoctypeDraft)
  | betweenIds (draft : DoctypeDraft)
  | bogusDoctype (draft : DoctypeDraft)
  | cdata
  | cdataBracket
  | cdataEnd
  deriving DecidableEq, Repr

/-- What one character leads to: tokens, a state, and whether that state is to read it again. -/
structure Reaction where
  tokens : List Token
  state : LexerState
  again : Bool
  deriving DecidableEq, Repr

namespace Reaction

/-- Enters a state. -/
def enter (state : LexerState) : Reaction :=
  ⟨[], state, false⟩

/-- Goes to a state that reads the character again. -/
def back (state : LexerState) : Reaction :=
  ⟨[], state, true⟩

/-- Gives a token and goes to a state. -/
def give (token : Token) (state : LexerState) : Reaction :=
  ⟨[token], state, false⟩

/-- Gives characters and goes to a state. -/
def text (characters : List Char) (state : LexerState) : Reaction :=
  ⟨characters.map .char, state, false⟩

/-- Gives characters and goes to a state that reads the character at hand again. -/
def textBack (characters : List Char) (state : LexerState) : Reaction :=
  ⟨characters.map .char, state, true⟩

end Reaction

open Reaction

/-- The character zero stands for nothing and is shown as such. -/
def shown (c : Char) : Char :=
  if c = '\x00' then '\uFFFD' else c

/-- A character of a name: shown, and in lower case if it is an ASCII letter. -/
def nameChar (c : Char) : Char :=
  (shown c).toLower

/-- A text read latest character first. -/
def readText (reversed : List Char) : String :=
  String.ofList reversed.reverse

/-- The draft with one more attribute, unless it has one of that name. -/
def Draft.add (d : Draft) (name text : List Char) : Draft :=
  let name := readText name
  if d.attributes.any (·.1 == name) then d
  else { d with attributes := (name, readText text) :: d.attributes }

/-- The finished tag. -/
def Draft.token (d : Draft) (isSelfClosing : Bool) : Token :=
  if d.isEnd then .endTag (readText d.name)
  else .startTag ⟨readText d.name, d.attributes.reverse, isSelfClosing⟩

/-- Gives the finished tag. -/
def Draft.close (d : Draft) (isSelfClosing : Bool) : Reaction :=
  give (d.token isSelfClosing) .data

/-- The finished document type. -/
def DoctypeDraft.token (d : DoctypeDraft) : Token :=
  .doctype (Doctype.isOld
    ⟨d.name.map readText, d.publicId.map readText, d.systemId.map readText, d.isBroken⟩)

/-- Gives the finished document type. -/
def DoctypeDraft.close (d : DoctypeDraft) : Reaction :=
  give d.token .data

/-- The document type with a fault in it. -/
def DoctypeDraft.broken (d : DoctypeDraft) : DoctypeDraft :=
  { d with isBroken := true }

/-- A document type of which nothing has been read. -/
def DoctypeDraft.blank : DoctypeDraft :=
  ⟨none, none, none, false⟩

/-- The document type with an identifier begun. -/
def DoctypeDraft.begin (d : DoctypeDraft) (isPublic : Bool) : DoctypeDraft :=
  if isPublic then { d with publicId := some [] } else { d with systemId := some [] }

/-- The document type with one more character in an identifier. -/
def DoctypeDraft.push (d : DoctypeDraft) (isPublic : Bool) (c : Char) : DoctypeDraft :=
  if isPublic then { d with publicId := some (shown c :: d.publicId.getD []) }
  else { d with systemId := some (shown c :: d.systemId.getD []) }

/-- The state that reads a script, in the comment or in the script inside it. -/
def inScriptComment (isNested : Bool) : LexerState :=
  .raw (if isNested then .scriptNested else .scriptComment)

/-- Whether a name ends here. -/
def endsName (c : Char) : Bool :=
  isSpace c || c == '/' || c == '>'

/-- What follows the name of a tag, where the name ends. -/
def afterName (d : Draft) (c : Char) : Reaction :=
  if c = '/' then enter (.selfClosing d)
  else if c = '>' then d.close false
  else enter (.beforeAttribute d)

/-- Text inside an element that is not read as markup. -/
def reactRaw (kind : RawKind) (c : Char) : Reaction :=
  if c = '&' ∧ kind = .references then enter (.reference true .start)
  else if c = '-' ∧ kind = .scriptComment then text [c] (.escapedDash false)
  else if c = '-' ∧ kind = .scriptNested then text [c] (.escapedDash true)
  else if c = '<' then
    if kind = .scriptNested then text [c] (.rawLess kind) else enter (.rawLess kind)
  else text [shown c] (.raw kind)

/-- Behind a `<` in such text. -/
def reactRawLess (kind : RawKind) (c : Char) : Reaction :=
  match kind with
  | .scriptNested => if c = '/' then text [c] (.nestedEnd []) else back (.raw kind)
  | .scriptComment =>
    if c = '/' then enter (.rawEndOpen kind)
    else if c.isAlpha then text ['<', c] (.nestedStart [c.toLower])
    else textBack ['<'] (.raw kind)
  | .script =>
    if c = '/' then enter (.rawEndOpen kind)
    else if c = '!' then text ['<', '!'] .escapeStart
    else textBack ['<'] (.raw kind)
  | _ => if c = '/' then enter (.rawEndOpen kind) else textBack ['<'] (.raw kind)

/-- Behind the name of an end tag in such text: it is one only if it ends the element. -/
def reactRawEndName (lastStart : String) (kind : RawKind) (name : List Char) (c : Char) : Reaction :=
  let d : Draft := ⟨true, name.map Char.toLower, []⟩
  if endsName c && readText d.name == lastStart then afterName d c
  else if c.isAlpha then enter (.rawEndName kind (c :: name))
  else textBack ('<' :: '/' :: name.reverse) (.raw kind)

/-- Behind one dash or two in a script's comment. -/
def reactEscapedDash (isNested isSecond : Bool) (c : Char) : Reaction :=
  if c = '-' then text [c] (.escapedDashDash isNested)
  else if c = '<' then
    if isNested then text [c] (.rawLess .scriptNested) else enter (.rawLess .scriptComment)
  else if c = '>' ∧ isSecond then text [c] (.raw .script)
  else text [shown c] (inScriptComment isNested)

/-- In a word behind `<` or `</` in a script's comment: the word `script` begins or ends a script
inside it. -/
def reactNested (isStart : Bool) (name : List Char) (c : Char) : Reaction :=
  if endsName c then
    text [c] (inScriptComment (if readText name = "script" then isStart else !isStart))
  else if c.isAlpha then
    let longer := c.toLower :: name
    text [c] (if isStart then .nestedStart longer else .nestedEnd longer)
  else back (inScriptComment (!isStart))

/-- Where an attribute, a slash or the end of the tag may stand. -/
def reactBeforeAttribute (d : Draft) (c : Char) : Reaction :=
  if isSpace c then enter (.beforeAttribute d)
  else if c = '/' then enter (.selfClosing d)
  else if c = '>' then d.close false
  else enter (.attributeName d [nameChar c])

/-- In the name of an attribute. -/
def reactAttributeName (d : Draft) (name : List Char) (c : Char) : Reaction :=
  if isSpace c then enter (.afterAttributeName d name)
  else if c = '/' then enter (.selfClosing (d.add name []))
  else if c = '=' then enter (.beforeValue d name)
  else if c = '>' then (d.add name []).close false
  else enter (.attributeName d (nameChar c :: name))

/-- Behind the name of an attribute. -/
def reactAfterAttributeName (d : Draft) (name : List Char) (c : Char) : Reaction :=
  if isSpace c then enter (.afterAttributeName d name)
  else if c = '=' then enter (.beforeValue d name)
  else reactBeforeAttribute (d.add name []) c

/-- Behind the equals sign. -/
def reactBeforeValue (d : Draft) (name : List Char) (c : Char) : Reaction :=
  if isSpace c then enter (.beforeValue d name)
  else if c = '\x22' then enter (.value .double d name [])
  else if c = '\'' then enter (.value .single d name [])
  else if c = '>' then (d.add name []).close false
  else back (.value .none d name [])

/-- In the value of an attribute. -/
def reactValue (quote : Quote) (d : Draft) (name value : List Char) (c : Char) : Reaction :=
  if (c = '\x22' ∧ quote = .double) ∨ (c = '\'' ∧ quote = .single) then
    enter (.afterValue (d.add name value))
  else if c = '&' then enter (.valueReference .start quote d name value)
  else if quote = .none ∧ isSpace c then enter (.beforeAttribute (d.add name value))
  else if quote = .none ∧ c = '>' then (d.add name value).close false
  else enter (.value quote d name (shown c :: value))

/-- Behind `<!`, as far as it may become a comment, a document type or a section of plain text. -/
def reactDeclaration (inForeign : Bool) (seen : List Char) (c : Char) : Reaction :=
  let longer := seen ++ [c]
  let folded := longer.map Char.toLower
  let doctype := ['d', 'o', 'c', 't', 'y', 'p', 'e']
  let plainStart := ['[', 'C', 'D', 'A', 'T', 'A', '[']
  if longer = ['-', '-'] then enter .commentStart
  else if folded = doctype then enter .doctypeStart
  else if inForeign ∧ longer = plainStart then enter .cdata
  else if longer = ['-'] ∨ folded.isPrefixOf doctype ∨ (inForeign ∧ longer.isPrefixOf plainStart) then
    enter (.declaration longer)
  else back .bogusComment

/-- In a comment; the states tell how much of its end has been read. -/
def reactComment (state : LexerState) (c : Char) : Reaction :=
  match state with
  | .commentStart =>
    if c = '-' then enter .commentStartDash else if c = '>' then give .comment .data else enter .comment
  | .commentStartDash =>
    if c = '-' then enter .commentEnd else if c = '>' then give .comment .data else enter .comment
  | .commentDash => if c = '-' then enter .commentEnd else enter .comment
  | .commentEnd =>
    if c = '>' then give .comment .data
    else if c = '!' then enter .commentBang
    else if c = '-' then enter .commentEnd
    else enter .comment
  | .commentBang =>
    if c = '-' then enter .commentDash else if c = '>' then give .comment .data else enter .comment
  | _ => if c = '-' then enter .commentDash else enter .comment

/-- In a document type. -/
def reactDoctype (state : LexerState) (c : Char) : Reaction :=
  match state with
  | .doctypeStart =>
    if isSpace c then enter .doctypeStart
    else if c = '>' then DoctypeDraft.blank.broken.close
    else enter (.doctypeName { DoctypeDraft.blank with name := some [nameChar c] })
  | .doctypeName d =>
    if isSpace c then enter (.afterDoctypeName d)
    else if c = '>' then d.close
    else enter (.doctypeName { d with name := some (nameChar c :: d.name.getD []) })
  | .afterDoctypeName d =>
    if isSpace c then enter state
    else if c = '>' then d.close
    else if c.toLower = 'p' ∨ c.toLower = 's' then enter (.doctypeKeyword d [c.toLower])
    else enter (.bogusDoctype d.broken)
  | .doctypeKeyword d seen =>
    let longer := seen ++ [c.toLower]
    let publicWord := ['p', 'u', 'b', 'l', 'i', 'c']
    let systemWord := ['s', 'y', 's', 't', 'e', 'm']
    if longer = publicWord then enter (.afterKeyword true d)
    else if longer = systemWord then enter (.afterKeyword false d)
    else if longer.isPrefixOf publicWord ∨ longer.isPrefixOf systemWord then
      enter (.doctypeKeyword d longer)
    else back (.bogusDoctype d.broken)
  | .afterKeyword isPublic d | .beforeId isPublic d =>
    if isSpace c then enter (.beforeId isPublic d)
    else if c = '\x22' then enter (.doctypeId isPublic .double (d.begin isPublic))
    else if c = '\'' then enter (.doctypeId isPublic .single (d.begin isPublic))
    else if c = '>' then d.broken.close
    else enter (.bogusDoctype d.broken)
  | .doctypeId isPublic quote d =>
    if (c = '\x22' ∧ quote = .double) ∨ (c = '\'' ∧ quote = .single) then enter (.afterId isPublic d)
    else if c = '>' then d.broken.close
    else enter (.doctypeId isPublic quote (d.push isPublic c))
  | .afterId false d =>
    if isSpace c then enter state else if c = '>' then d.close else enter (.bogusDoctype d)
  | .afterId true d | .betweenIds d =>
    if isSpace c then enter (.betweenIds d)
    else if c = '>' then d.close
    else if c = '\x22' then enter (.doctypeId false .double (d.begin false))
    else if c = '\'' then enter (.doctypeId false .single (d.begin false))
    else enter (.bogusDoctype d.broken)
  | .bogusDoctype d => if c = '>' then d.close else enter state
  | _ => enter state

/-- Reads one character. The name of the last start tag tells which end tag ends raw text, and
`inForeign` whether a section of plain text may begin. -/
def react (lastStart : String) (inForeign : Bool) (state : LexerState) (c : Char) : Reaction :=
  match state with
  | .data =>
    if c = '&' then enter (.reference false .start)
    else if c = '<' then enter .tagOpen
    else if c = '\x00' then give .zero .data
    else text [c] .data
  | .plaintext => text [shown c] .plaintext
  | .raw kind => reactRaw kind c
  | .reference inTitle seen =>
    match seen.feed false c with
    | .more seen => enter (.reference inTitle seen)
    | .finished characters isPart =>
      ⟨characters.map .char, if inTitle then .raw .references else .data, !isPart⟩
  | .tagOpen =>
    if c = '!' then enter (.declaration [])
    else if c = '/' then enter .endTagOpen
    else if c = '?' then enter .bogusComment
    else if c.isAlpha then enter (.tagName ⟨false, [c.toLower], []⟩)
    else textBack ['<'] .data
  | .endTagOpen =>
    if c = '>' then give .nameless .data
    else if c.isAlpha then enter (.tagName ⟨true, [c.toLower], []⟩)
    else enter .bogusComment
  | .tagName d =>
    if endsName c then afterName d c else enter (.tagName { d with name := nameChar c :: d.name })
  | .beforeAttribute d => reactBeforeAttribute d c
  | .attributeName d name => reactAttributeName d name c
  | .afterAttributeName d name => reactAfterAttributeName d name c
  | .beforeValue d name => reactBeforeValue d name c
  | .value quote d name value => reactValue quote d name value c
  | .valueReference seen quote d name value =>
    match seen.feed true c with
    | .more seen => enter (.valueReference seen quote d name value)
    | .finished characters isPart => ⟨[], .value quote d name (characters.reverse ++ value), !isPart⟩
  | .afterValue d => if endsName c then afterName d c else back (.beforeAttribute d)
  | .selfClosing d => if c = '>' then d.close true else back (.beforeAttribute d)
  | .rawLess kind => reactRawLess kind c
  | .rawEndOpen kind =>
    if c.isAlpha then enter (.rawEndName kind [c]) else textBack ['<', '/'] (.raw kind)
  | .rawEndName kind name => reactRawEndName lastStart kind name c
  | .escapeStart => if c = '-' then text [c] .escapeStartDash else back (.raw .script)
  | .escapeStartDash => if c = '-' then text [c] (.escapedDashDash false) else back (.raw .script)
  | .nestedStart name => reactNested true name c
  | .nestedEnd name => reactNested false name c
  | .escapedDash isNested => reactEscapedDash isNested false c
  | .escapedDashDash isNested => reactEscapedDash isNested true c
  | .bogusComment => if c = '>' then give .comment .data else enter .bogusComment
  | .declaration seen => reactDeclaration inForeign seen c
  | .cdata =>
    if c = ']' then enter .cdataBracket else if c = '\x00' then give .zero .cdata else text [c] .cdata
  | .cdataBracket => if c = ']' then enter .cdataEnd else textBack [']'] .cdata
  | .cdataEnd =>
    if c = ']' then text [c] .cdataEnd
    else if c = '>' then enter .data
    else textBack [']', ']'] .cdata
  | .commentStart | .commentStartDash | .comment | .commentDash | .commentEnd | .commentBang =>
    reactComment state c
  | .doctypeStart | .doctypeName _ | .afterDoctypeName _ | .doctypeKeyword _ _ | .afterKeyword _ _
  | .beforeId _ _ | .doctypeId _ _ _ | .afterId _ _ | .betweenIds _ | .bogusDoctype _ =>
    reactDoctype state c

/-- The tokens of what the end of the page breaks off. An unfinished tag is dropped. -/
def atEnd : LexerState → List Token
  | .reference _ seen => seen.finish.map .char
  | .tagOpen => [.char '<']
  | .endTagOpen | .rawEndOpen _ => [.char '<', .char '/']
  | .rawLess .scriptNested => []
  | .rawLess _ => [.char '<']
  | .rawEndName _ name => .char '<' :: .char '/' :: name.reverse.map .char
  | .bogusComment | .declaration _ | .commentStart | .commentStartDash | .comment | .commentDash
  | .commentEnd | .commentBang => [.comment]
  | .doctypeStart => [DoctypeDraft.blank.broken.token]
  | .doctypeName d | .afterDoctypeName d | .doctypeKeyword d _ | .afterKeyword _ d | .beforeId _ d
  | .doctypeId _ _ d | .afterId _ d | .betweenIds d => [d.broken.token]
  | .bogusDoctype d => [d.token]
  | .cdataBracket => [.char ']']
  | .cdataEnd => [.char ']', .char ']']
  | _ => []

end AuthorNames.Html
