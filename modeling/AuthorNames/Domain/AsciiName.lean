import AuthorNames.Domain.Mapping
import AuthorNames.Domain.Punycode
import AuthorNames.Unicode.Canonical
import AuthorNames.Unicode.Direction
/-!
The one spelling of a domain name that is looked up. Every character is mapped, the result composed,
and each label that then is not ASCII is written in ASCII behind `xn--`. A label that came in that
form is read back first, so that both spellings pass the same checks: no leading mark, joiners only
where they show, and in a name with right-to-left letters no label that would be displayed out of
order.
-/

namespace AuthorNames.Domain

open AuthorNames.Unicode

/-- ASCII characters that delimit the parts of a URL or are unsafe in one; a name holds none. -/
def isDelimiter (c : Char) : Bool :=
  c.toNat ≤ 0x20 || c.toNat == 0x7F || "#/:<>?@[\\]^|%".toList.contains c

/-- Whether a character is ASCII. -/
def isAscii (c : Char) : Bool :=
  c.toNat < 0x80

/-- The sign in front of a label written in ASCII. -/
def encodedMark : List Char :=
  ['x', 'n', '-', '-']

/-- The joiner with marks between it and a letter that joins on the given side. -/
def joinsBeyondMarks (sides : List Joining) : List Char → Bool
  | [] => false
  | c :: rest => if joining c = .transparent then joinsBeyondMarks sides rest else sides.contains (joining c)

/-- Whether every zero-width joiner and non-joiner stands where it shows: after a virama (class 9),
or, the non-joiner only, between letters that would join. The first argument holds the characters
before, last one first. -/
def joinersShow : List Char → List Char → Bool
  | _, [] => true
  | before, c :: rest =>
    let placed :=
      if c = '\u200C' ∨ c = '\u200D' then
        match before with
        | [] => false
        | previous :: _ =>
          combiningClass previous == 9 ||
            (c == '\u200C' && joinsBeyondMarks [.left, .dual] before && joinsBeyondMarks [.right, .dual] rest)
      else true
    placed && joinersShow (c :: before) rest

/-- Whether a label, in the characters it shows, is one: it does not begin with a mark, its joiners
show, and if it is not ASCII it is not too long to be written in ASCII. -/
def isLabel (label : List Char) : Bool :=
  label.all isAscii ||
    (!(label.take 1).any isMark && joinersShow [] label && label.length ≤ 1000)

/-- Whether a character is written from right to left or is a numeral of such a script. -/
def isRightToLeft (c : Char) : Bool :=
  match direction c with
  | .right | .arabicLetter | .arabicNumber => true
  | _ => false

/-- The classes that both kinds of label allow. -/
def isNeutral : Direction → Bool
  | .europeanNumber | .europeanSeparator | .commonSeparator | .europeanTerminator
  | .otherNeutral | .boundaryNeutral | .mark => true
  | _ => false

/-- Whether a label can stand in a name with right-to-left letters: it begins with a letter, has
letters of that direction only, ends in a letter or numeral (and marks), and a right-to-left one
does not mix the two kinds of numerals. -/
def keepsOrder (label : List Char) : Bool :=
  match label with
  | [] => true
  | first :: _ =>
    let classes := label.map direction
    let last := (classes.reverse.dropWhile (· = .mark)).head?.getD .mark
    if direction first = .left then
      classes.all (fun d => d = .left || isNeutral d) && (last = .left || last = .europeanNumber)
    else if direction first = .right ∨ direction first = .arabicLetter then
      classes.all (fun d => d = .right || d = .arabicLetter || d = .arabicNumber || isNeutral d) &&
        (last = .right || last = .arabicLetter || last = .arabicNumber || last = .europeanNumber) &&
        !(classes.contains .arabicNumber && classes.contains .europeanNumber)
    else false

/-- A label in the characters it shows; `none` if it claims to be written in ASCII and is not, or
stands for what would have been written otherwise. -/
def readLabel (label : List Char) : Option (List Char) :=
  if label.take 4 = encodedMark then do
    let text := label.drop 4
    if text.length > 2000 ∨ text.getLast? = some '-' ∨ !text.all isAscii then none
    else
      let shown ← Punycode.decode? text
      if shown.all isAscii ∨ !shown.all isValid ∨ compose shown ≠ shown then none else some shown
  else some label

/-- A label as it is looked up. -/
def writeLabel (label : List Char) : List Char :=
  if label.all isAscii then label else encodedMark ++ Punycode.encode label

/-- Labels with dots between them. -/
def joinLabels : List (List Char) → List Char
  | [] => []
  | [label] => label
  | label :: rest => label ++ '.' :: joinLabels rest

/-- The spelling of a domain name that is looked up, `none` if the text is no name. -/
def asciiName (text : List Char) : Option (List Char) := do
  let mapped ← text.mapM mapChar
  let composed := compose mapped.flatten
  if composed.any isDelimiter then none
  else
    let labels ← (splitWhere (· == '.') composed).mapM readLabel
    if !labels.all isLabel then none
    else if labels.any (·.any isRightToLeft) ∧ !labels.all keepsOrder then none
    else some (joinLabels (labels.map writeLabel))

end AuthorNames.Domain
