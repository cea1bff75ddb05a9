/-!
Blank characters, and the two things the program does with them: an identifier loses the blanks
around it, and a name found on a page keeps its words but none of the spacing between them.
-/

namespace AuthorNames.Text

/-- The Unicode property `White_Space`: five controls, the space, the next-line control and the
seventeen wider spaces and separators. Zero-width characters and the byte order mark are not in it. -/
def isBlank (c : Char) : Bool :=
  let n := c.toNat
  (9 ≤ n && n ≤ 13) || n == 0x20 || n == 0x85 || n == 0xA0 || n == 0x1680 ||
    (0x2000 ≤ n && n ≤ 0x200A) || n == 0x2028 || n == 0x2029 || n == 0x202F || n == 0x205F ||
    n == 0x3000

/-- Drops the blanks at both ends and keeps those inside. -/
def trimmed (text : List Char) : List Char :=
  ((text.dropWhile isBlank).reverse.dropWhile isBlank).reverse

/-- `trimmed` on a string. -/
def trim (text : String) : String :=
  String.ofList (trimmed text.toList)

/-- Puts a finished word in front of the others; an empty one is between two blanks and is none. -/
def consWord (word : List Char) (rest : List (List Char)) : List (List Char) :=
  if word.isEmpty then rest else word :: rest

/-- The word that begins with the first character (empty if that is a blank), and the words after
it. -/
def splitWord : List Char → List Char × List (List Char)
  | [] => ([], [])
  | c :: rest =>
    let (word, others) := splitWord rest
    if isBlank c then ([], consWord word others) else (c :: word, others)

/-- The maximal runs of characters that are not blank, in order. -/
def words (text : List Char) : List (List Char) :=
  consWord (splitWord text).1 (splitWord text).2

/-- Words with one space between each two. -/
def unwords : List (List Char) → List Char
  | [] => []
  | [word] => word
  | word :: rest => word ++ ' ' :: unwords rest

/-- The words of a text with one space between each two: line breaks, tabs and runs of spaces all
become one space, and those at the ends are dropped. -/
def collapse (text : List Char) : List Char :=
  unwords (words text)

end AuthorNames.Text
