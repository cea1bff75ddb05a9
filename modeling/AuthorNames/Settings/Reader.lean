import AuthorNames.Json.Skip
import AuthorNames.Settings.Basic
/-!
Settings from the text of a file: an object with up to four members of the names below, in any
order, among others that do not count. A list is taken as well, and holds the four in order.
-/

namespace AuthorNames.Settings

open AuthorNames.Json

/-- A fault at something of another type than is expected. Scalars are read to their end first. -/
def wrongType {α : Type} (expected : String) (c : Cursor) : Except Json.Fault α :=
  let report := fun (found : Found) (c : Cursor) => c.fail (.wrongType found expected)
  match c.rest with
  | 'n' :: _ => do report .null (← Cursor.expectRest ['u', 'l', 'l'] c.next)
  | 't' :: _ => do report (.boolean true) (← Cursor.expectRest ['r', 'u', 'e'] c.next)
  | 'f' :: _ => do report (.boolean false) (← Cursor.expectRest ['a', 'l', 's', 'e'] c.next)
  | '-' :: _ => do
    let (numeral, c) ← c.next.number true
    report numeral.found c
  | '\x22' :: _ => do
    let (text, c) ← c.next.string
    report (.string (String.ofList text)) c
  | '[' :: _ => report .list c
  | '{' :: _ => report .object c
  | d :: _ =>
    if d.isDigit then do
      let (numeral, c) ← c.number false
      report numeral.found c
    else c.failAhead .noValue
  | [] => c.failAhead .noValue

/-- A reader of one value. -/
abbrev ValueReader (α : Type) := Cursor → Except Json.Fault (α × Cursor)

/-- A string. -/
def readString : ValueReader String := fun c =>
  let c := c.skipBlanks
  match c.rest with
  | [] => c.failAhead .endInValue
  | '\x22' :: _ => do
    let (text, c) ← c.next.string
    .ok (String.ofList text, c)
  | _ => wrongType "a string" c

/-- A whole number of 64 bits, from one that was read. -/
def wholeNumber (numeral : Numeral) (c : Cursor) : Except Json.Fault (UInt64 × Cursor) :=
  match numeral with
  | .natural n => .ok (UInt64.ofNat n, c)
  | .negative n => c.fail (.wrongValue (.negative n) "u64")
  | .float x => c.fail (.wrongType (Numeral.float x).found "u64")

/-- A whole number of 64 bits. -/
def readWholeNumber : ValueReader UInt64 := fun c =>
  let c := c.skipBlanks
  match c.rest with
  | [] => c.failAhead .endInValue
  | '-' :: _ => do
    let (numeral, c) ← c.next.number true
    wholeNumber numeral c
  | d :: _ =>
    if d.isDigit then do
      let (numeral, c) ← c.number false
      wholeNumber numeral c
    else wrongType "u64" c

/-- The policy of a name. -/
def policyNamed? : String → Option MissingNamePolicy
  | "abort" => some .abort
  | "fallback" => some .fallback
  | _ => none

/-- The name of a policy. -/
def readPolicyName : ValueReader MissingNamePolicy := fun c =>
  let c := c.skipBlanks
  match c.rest with
  | [] => c.failAhead .endInValue
  | '\x22' :: _ => do
    let (text, c) ← c.next.string
    match policyNamed? (String.ofList text) with
    | some policy => .ok (policy, c)
    | none => c.fail (.unknownVariant (String.ofList text))
  | _ => wrongType "variant identifier" c

/-- The value that says nothing. -/
def readNull (c : Cursor) : Except Json.Fault Cursor :=
  let c := c.skipBlanks
  match c.rest with
  | [] => c.failAhead .endInValue
  | 'n' :: _ => Cursor.expectRest ['u', 'l', 'l'] c.next
  | _ => wrongType "unit" c

/-- A policy: its name, or an object with that one member and nothing in it. -/
def readPolicy : ValueReader MissingNamePolicy := fun c =>
  let c := c.skipBlanks
  match c.rest with
  | [] => c.failAhead .endInValue
  | '\x22' :: _ => readPolicyName c
  | '{' :: _ => do
    let (policy, c) ← readPolicyName c.next
    let c := (← readNull (← c.colon)).skipBlanks
    match c.rest with
    | [] => c.fail .endInObject
    | '}' :: _ => .ok (policy, c.next)
    | _ => c.fail .noValue
  | _ => c.failAhead .noValue

/-- A value that may be absent, written as `null`. -/
def readOptional {α : Type} (read : ValueReader α) : ValueReader (Option α) := fun c =>
  let c := c.skipBlanks
  match c.rest with
  | 'n' :: _ => do .ok (none, ← Cursor.expectRest ['u', 'l', 'l'] c.next)
  | _ => do
    let (value, c) ← read c
    .ok (some value, c)

/-- The settings that an object has given so far. A member that is given as `null` is given. -/
structure Given where
  baseUrl : Option (Option String)
  addressDomain : Option (Option String)
  onMissingName : Option (Option MissingNamePolicy)
  timeoutSecs : Option (Option UInt64)
  deriving DecidableEq, Repr

/-- Nothing is given yet. -/
def Given.nothing : Given :=
  ⟨none, none, none, none⟩

/-- The settings, once all has been read. -/
def Given.settings (g : Given) : Settings :=
  ⟨g.baseUrl.join, g.addressDomain.join, g.onMissingName.join, g.timeoutSecs.join⟩

/-- The place by which a member given twice is told: behind its name and the blanks there, and
behind the brace if the object ends so. -/
def behindObject (c : Cursor) : Cursor :=
  let c := c.skipBlanks
  match c.rest with
  | '}' :: _ => c.next
  | _ => c

/-- The value of a member that may not have been given before. -/
def readMember {α : Type} (name : String) (before : Option (Option α)) (read : ValueReader α)
    (put : Option α → Given) : ValueReader Given := fun c =>
  match before with
  | some _ => (behindObject c).fail (.duplicateField name)
  | none => do
    let (value, c) ← readOptional read (← c.colon)
    .ok (put value, c)

/-- The value of a member, behind its name. -/
def readNamed (g : Given) (name : String) : ValueReader Given := fun c =>
  match name with
  | "base_url" => readMember name g.baseUrl readString (fun v => { g with baseUrl := some v }) c
  | "address_domain" =>
    readMember name g.addressDomain readString (fun v => { g with addressDomain := some v }) c
  | "on_missing_name" =>
    readMember name g.onMissingName readPolicy (fun v => { g with onMissingName := some v }) c
  | "timeout_secs" =>
    readMember name g.timeoutSecs readWholeNumber (fun v => { g with timeoutSecs := some v }) c
  | _ => do .ok (g, ← (← c.colon).skipValue)

/-- In front of the quote of the next member's name, or `none` behind the object. -/
def nextMember (isFirst : Bool) (c : Cursor) : Except Json.Fault (Option Cursor × Cursor) :=
  let c := c.skipBlanks
  match c.rest with
  | [] => c.failAhead .endInObject
  | '}' :: _ => .ok (none, c.next)
  | x :: _ =>
    if isFirst then if x = '\x22' then .ok (some c, c) else c.failAhead .noKey
    else if x = ',' then
      let c := c.next.skipBlanks
      match c.rest with
      | '\x22' :: _ => .ok (some c, c)
      | '}' :: _ => c.failAhead .trailingComma
      | [] => c.failAhead .endInValue
      | _ => c.failAhead .noKey
    else c.failAhead .noCommaInObject

/-- The members of an object; the first argument bounds their number. -/
def readMembers : Nat → Bool → Given → ValueReader Given
  | 0, _, _, c => c.fail .endInObject
  | count + 1, isFirst, g, c => do
    match ← nextMember isFirst c with
    | (none, c) => .ok (g, c)
    | (some c, _) =>
      let (name, c) ← c.next.string
      let (g, c) ← readNamed g (String.ofList name) c
      readMembers count false g c

/-- The next item of a list, `none` in front of its end. The flag tells whether it is the first. -/
def readItem {α : Type} (isFirst : Bool) (read : ValueReader α) (c : Cursor) :
    Except Json.Fault (Option (Option α) × Cursor) := do
  let c := c.skipBlanks
  match c.rest with
  | [] => c.failAhead .endInList
  | ']' :: _ => .ok (none, c)
  | x :: _ =>
    let c ←
      if isFirst then pure c
      else if x = ',' then
        let c := c.next.skipBlanks
        match c.rest with
        | ']' :: _ => c.failAhead .trailingComma
        | [] => c.failAhead .endInValue
        | _ => pure c
      else c.failAhead .noCommaInList
    let (value, c) ← readOptional read c
    .ok (some value, c)

/-- The end of a list. -/
def endList (c : Cursor) : Except Json.Fault Cursor :=
  let c := c.skipBlanks
  match c.rest with
  | [] => c.failAhead .endInList
  | ']' :: _ => .ok c.next
  | ',' :: _ =>
    let c := c.next.skipBlanks
    if c.rest.head? = some ']' then c.failAhead .trailingComma else c.failAhead .trailingCharacters
  | _ => c.failAhead .trailingCharacters

/-- The items of a list, in the order of the settings. -/
def readItems (c : Cursor) : Except Json.Fault (Given × Cursor) := do
  let (baseUrl, c) ← readItem true readString c
  let (addressDomain, c) ← readItem baseUrl.isNone readString c
  let (onMissingName, c) ← readItem addressDomain.isNone readPolicy c
  let (timeoutSecs, c) ← readItem onMissingName.isNone readWholeNumber c
  .ok (⟨baseUrl, addressDomain, onMissingName, timeoutSecs⟩, ← endList c)

/-- The settings at the beginning of a text. -/
def readGiven (c : Cursor) : Except Json.Fault (Given × Cursor) :=
  let c := c.skipBlanks
  match c.rest with
  | [] => c.failAhead .endInValue
  | '{' :: _ => readMembers (c.rest.length + 1) true .nothing c.next
  | '[' :: _ => readItems c.next
  | _ => wrongType "struct Settings" c

/-- The settings that a text gives; nothing may follow them. -/
def ofText (text : String) : Except Json.Fault Settings := do
  let (g, c) ← readGiven (.start text.toList)
  let c := c.skipBlanks
  if c.rest.isEmpty then .ok g.settings else c.failAhead .trailingCharacters

end AuthorNames.Settings
