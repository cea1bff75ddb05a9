import AuthorNames.Charset.MediaType
import AuthorNames.Charset.SingleByte
import AuthorNames.Text.Utf8
/-!
The text of a page from its bytes. The page's own mark at its beginning says how they are to be read,
or else the charset that its media type names, or else they are UTF-8. Bytes that stand for nothing
are replaced, so every page has a text.

The East Asian charsets of more than one byte a character, `gbk`, `gb18030`, `big5`, `euc-jp`,
`iso-2022-jp`, `shift_jis` and `euc-kr`, have no table here. A page that names one of them, under any
of its names, is read as if it named none: its text here is not the one that the charset gives.
-/

namespace AuthorNames

/-- A way to read bytes as text. -/
inductive Charset where
  | utf8
  | utf16 (isBigEndian : Bool)
  | singleByte (charset : Charset.SingleByte)
  /-- The bytes from `0x80` on stand for characters of private use. -/
  | userDefined
  /-- A charset that is not read: the whole page is one part that stands for nothing. -/
  | unread
  deriving DecidableEq, Repr

namespace Charset

open AuthorNames.Text

/-- The names of the charsets, in lower case. -/
def names : List (Charset × String) := [
  (.utf8, "unicode-1-1-utf-8 unicode11utf8 unicode20utf8 utf-8 utf8 x-unicode20utf8"),
  (.singleByte .ibm866, "866 cp866 csibm866 ibm866"),
  (.singleByte .iso2, "csisolatin2 iso-8859-2 iso-ir-101 iso8859-2 iso88592 iso_8859-2 " ++
    "iso_8859-2:1987 l2 latin2"),
  (.singleByte .iso3, "csisolatin3 iso-8859-3 iso-ir-109 iso8859-3 iso88593 iso_8859-3 " ++
    "iso_8859-3:1988 l3 latin3"),
  (.singleByte .iso4, "csisolatin4 iso-8859-4 iso-ir-110 iso8859-4 iso88594 iso_8859-4 " ++
    "iso_8859-4:1988 l4 latin4"),
  (.singleByte .iso5, "csisolatincyrillic cyrillic iso-8859-5 iso-ir-144 iso8859-5 iso88595 iso_8859-5 " ++
    "iso_8859-5:1988"),
  (.singleByte .iso6, "arabic asmo-708 csiso88596e csiso88596i csisolatinarabic ecma-114 iso-8859-6 " ++
    "iso-8859-6-e iso-8859-6-i iso-ir-127 iso8859-6 iso88596 iso_8859-6 iso_8859-6:1987"),
  (.singleByte .iso7, "csisolatingreek ecma-118 elot_928 greek greek8 iso-8859-7 iso-ir-126 iso8859-7 " ++
    "iso88597 iso_8859-7 iso_8859-7:1987 sun_eu_greek"),
  (.singleByte .iso8, "csiso88598e csisolatinhebrew hebrew iso-8859-8 iso-8859-8-e iso-ir-138 iso8859-8 " ++
    "iso88598 iso_8859-8 iso_8859-8:1988 visual csiso88598i iso-8859-8-i logical"),
  (.singleByte .iso10, "csisolatin6 iso-8859-10 iso-ir-157 iso8859-10 iso885910 l6 latin6"),
  (.singleByte .iso13, "iso-8859-13 iso8859-13 iso885913"),
  (.singleByte .iso14, "iso-8859-14 iso8859-14 iso885914"),
  (.singleByte .iso15, "csisolatin9 iso-8859-15 iso8859-15 iso885915 iso_8859-15 l9"),
  (.singleByte .iso16, "iso-8859-16"),
  (.singleByte .koi8r, "cskoi8r koi koi8 koi8-r koi8_r"),
  (.singleByte .koi8u, "koi8-ru koi8-u"),
  (.singleByte .macintosh, "csmacintosh mac macintosh x-mac-roman"),
  (.singleByte .windows874, "dos-874 iso-8859-11 iso8859-11 iso885911 tis-620 windows-874"),
  (.singleByte .windows1250, "cp1250 windows-1250 x-cp1250"),
  (.singleByte .windows1251, "cp1251 windows-1251 x-cp1251"),
  (.singleByte .windows1252, "ansi_x3.4-1968 ascii cp1252 cp819 csisolatin1 ibm819 iso-8859-1 iso-ir-100 " ++
    "iso8859-1 iso88591 iso_8859-1 iso_8859-1:1987 l1 latin1 us-ascii windows-1252 x-cp1252"),
  (.singleByte .windows1253, "cp1253 windows-1253 x-cp1253"),
  (.singleByte .windows1254, "cp1254 csisolatin5 iso-8859-9 iso-ir-148 iso8859-9 iso88599 iso_8859-9 " ++
    "iso_8859-9:1989 l5 latin5 windows-1254 x-cp1254"),
  (.singleByte .windows1255, "cp1255 windows-1255 x-cp1255"),
  (.singleByte .windows1256, "cp1256 windows-1256 x-cp1256"),
  (.singleByte .windows1257, "cp1257 windows-1257 x-cp1257"),
  (.singleByte .windows1258, "cp1258 windows-1258 x-cp1258"),
  (.singleByte .macCyrillic, "x-mac-cyrillic x-mac-ukrainian"),
  (.unread, "csiso2022kr hz-gb-2312 iso-2022-cn iso-2022-cn-ext iso-2022-kr replacement"),
  (.utf16 true, "unicodefffe utf-16be"),
  (.utf16 false, "csunicode iso-10646-ucs-2 ucs-2 unicode unicodefeff utf-16 utf-16le"),
  (.userDefined, "x-user-defined")]

/-- The charset of a name, in either case and with blanks around it. -/
def ofName? (name : String) : Option Charset :=
  let isEdge := fun c : Char => [' ', '\t', '\n', '\r', '\x0c'].contains c
  let name := ((name.toList.dropWhile isEdge).reverse.dropWhile isEdge).reverse.map Char.toLower
  (names.find? fun entry => (Unicode.entries entry.2).contains name).map (·.1)

/-- The pairs of bytes as numbers, with `none` for half a pair at the end. -/
def unitsOf (isBigEndian : Bool) : List UInt8 → List (Option Nat)
  | [] => []
  | [_] => [none]
  | first :: second :: rest =>
    let (high, low) := if isBigEndian then (first, second) else (second, first)
    some (high.toNat * 256 + low.toNat) :: unitsOf isBigEndian rest

/-- What a unit that is no second half of a pair gives, and the first half that is open behind it. A
second half on its own stands for nothing. -/
def startUnit (unit : Nat) : List Char × Option Nat :=
  if 0xD800 ≤ unit ∧ unit < 0xDC00 then ([], some unit)
  else if 0xDC00 ≤ unit ∧ unit < 0xE000 then ([Utf8.replacement], none)
  else ([Char.ofNat unit], none)

/-- The characters of the units behind an open first half, if there is one. A first half that is not
followed by a second stands for nothing, alone or together with half a unit at the end. -/
def joinUnits : Option Nat → List (Option Nat) → List Char
  | none, [] => []
  | some _, [] => [Utf8.replacement]
  | _, none :: rest => Utf8.replacement :: joinUnits none rest
  | none, some unit :: rest => (startUnit unit).1 ++ joinUnits (startUnit unit).2 rest
  | some high, some unit :: rest =>
    if 0xDC00 ≤ unit ∧ unit < 0xE000 then
      Char.ofNat (0x10000 + (high - 0xD800) * 0x400 + (unit - 0xDC00)) :: joinUnits none rest
    else Utf8.replacement :: (startUnit unit).1 ++ joinUnits (startUnit unit).2 rest

/-- The characters of the bytes in a charset. -/
def decode (charset : Charset) (bytes : List UInt8) : List Char :=
  match charset with
  | .utf8 => Utf8.decodeLossy bytes
  | .utf16 isBigEndian => joinUnits none (unitsOf isBigEndian bytes)
  | .singleByte s => s.decode bytes
  | .userDefined =>
    bytes.map fun b => if b < 128 then Char.ofNat b.toNat else Char.ofNat (0xF700 + b.toNat)
  | .unread => if bytes.isEmpty then [] else [Utf8.replacement]

/-- The mark at the beginning of the bytes, and what is behind it. -/
def splitMark? : List UInt8 → Option (Charset × List UInt8)
  | 0xEF :: 0xBB :: 0xBF :: rest => some (.utf8, rest)
  | 0xFE :: 0xFF :: rest => some (.utf16 true, rest)
  | 0xFF :: 0xFE :: rest => some (.utf16 false, rest)
  | _ => none

/-- The text of a page of a media type. -/
def pageText (mediaType : Option String) (bytes : List UInt8) : List Char :=
  match splitMark? bytes with
  | some (charset, rest) => charset.decode rest
  | none => (((mediaType.bind charsetName?).bind ofName?).getD .utf8).decode bytes

end Charset

end AuthorNames
