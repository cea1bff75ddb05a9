import AuthorNames.Unicode.StepTable
/-!
Charsets of one byte a character. The bytes below `0x80` are ASCII in all of them; the upper half is
a table of stretches, in which the byte at the start stands for the character given and those after
it for the characters that follow. `-` marks bytes that stand for nothing.
-/

namespace AuthorNames.Charset

open AuthorNames.Unicode

/-- A charset that differs from ASCII in the bytes from `0x80` on. -/
inductive SingleByte where
  | ibm866 | iso2 | iso3 | iso4 | iso5 | iso6 | iso7 | iso8 | iso10 | iso13 | iso14 | iso15 | iso16
  | koi8r | koi8u | macintosh | windows874 | macCyrillic
  | windows1250 | windows1251 | windows1252 | windows1253
  | windows1254 | windows1255 | windows1256 | windows1257 | windows1258
  deriving DecidableEq, Repr

/-- The upper half of each charset. -/
def SingleByte.upperHalf : SingleByte → String
  | .ibm866 => "
80:410 B0:2591 B3:2502 B4:2524 B5:2561 B7:2556 B8:2555 B9:2563 BA:2551 BB:2557 BC:255D BD:255C
BE:255B BF:2510 C0:2514 C1:2534 C2:252C C3:251C C4:2500 C5:253C C6:255E C8:255A C9:2554 CA:2569
CB:2566 CC:2560 CD:2550 CE:256C CF:2567 D1:2564 D3:2559 D4:2558 D5:2552 D7:256B D8:256A D9:2518
DA:250C DB:2588 DC:2584 DD:258C DE:2590 DF:2580 E0:440 F0:401 F1:451 F2:404 F3:454 F4:407 F5:457
F6:40E F7:45E F8:B0 F9:2219 FA:B7 FB:221A FC:2116 FD:A4 FE:25A0 FF:A0"
  | .iso2 => "
80:80 A1:104 A2:2D8 A3:141 A4:A4 A5:13D A6:15A A7:A7 A9:160 AA:15E AB:164 AC:179 AD:AD AE:17D
AF:17B B0:B0 B1:105 B2:2DB B3:142 B4:B4 B5:13E B6:15B B7:2C7 B8:B8 B9:161 BA:15F BB:165 BC:17A
BD:2DD BE:17E BF:17C C0:154 C1:C1 C3:102 C4:C4 C5:139 C6:106 C7:C7 C8:10C C9:C9 CA:118 CB:CB
CC:11A CD:CD CF:10E D0:110 D1:143 D2:147 D3:D3 D5:150 D6:D6 D8:158 D9:16E DA:DA DB:170 DC:DC
DE:162 DF:DF E0:155 E1:E1 E3:103 E4:E4 E5:13A E6:107 E7:E7 E8:10D E9:E9 EA:119 EB:EB EC:11B ED:ED
EF:10F F0:111 F1:144 F2:148 F3:F3 F5:151 F6:F6 F8:159 F9:16F FA:FA FB:171 FC:FC FE:163 FF:2D9"
  | .iso3 => "
80:80 A1:126 A2:2D8 A3:A3 A5:- A6:124 A7:A7 A9:130 AA:15E AB:11E AC:134 AD:AD AE:- AF:17B B0:B0
B1:127 B2:B2 B6:125 B7:B7 B9:131 BA:15F BB:11F BC:135 BD:BD BE:- BF:17C C0:C0 C3:- C4:C4 C5:10A
C6:108 C7:C7 D0:- D1:D1 D5:120 D6:D6 D8:11C D9:D9 DD:16C DE:15C DF:DF E3:- E4:E4 E5:10B E6:109
E7:E7 F0:- F1:F1 F5:121 F6:F6 F8:11D F9:F9 FD:16D FE:15D FF:2D9"
  | .iso4 => "
80:80 A1:104 A2:138 A3:156 A4:A4 A5:128 A6:13B A7:A7 A9:160 AA:112 AB:122 AC:166 AD:AD AE:17D
AF:AF B1:105 B2:2DB B3:157 B4:B4 B5:129 B6:13C B7:2C7 B8:B8 B9:161 BA:113 BB:123 BC:167 BD:14A
BE:17E BF:14B C0:100 C1:C1 C7:12E C8:10C C9:C9 CA:118 CB:CB CC:116 CD:CD CF:12A D0:110 D1:145
D2:14C D3:136 D4:D4 D9:172 DA:DA DD:168 DE:16A DF:DF E0:101 E1:E1 E7:12F E8:10D E9:E9 EA:119 EB:EB
EC:117 ED:ED EF:12B F0:111 F1:146 F2:14D F3:137 F4:F4 F9:173 FA:FA FD:169 FE:16B FF:2D9"
  | .iso5 => "
80:80 A1:401 AD:AD AE:40E F0:2116 F1:451 FD:A7 FE:45E"
  | .iso6 => "
80:80 A1:- A4:A4 A5:- AC:60C AD:AD AE:- BB:61B BC:- BF:61F C0:- C1:621 DB:- E0:640 F3:-"
  | .iso7 => "
80:80 A1:2018 A3:A3 A4:20AC A5:20AF A6:A6 AA:37A AB:AB AE:- AF:2015 B0:B0 B4:384 B7:B7 B8:388
BB:BB BC:38C BD:BD BE:38E D2:- D3:3A3 FF:-"
  | .iso8 => "
80:80 A1:- A2:A2 AA:D7 AB:AB BA:F7 BB:BB BF:- DF:2017 E0:5D0 FB:- FD:200E FF:-"
  | .iso10 => "
80:80 A1:104 A2:112 A3:122 A4:12A A5:128 A6:136 A7:A7 A8:13B A9:110 AA:160 AB:166 AC:17D AD:AD
AE:16A AF:14A B0:B0 B1:105 B2:113 B3:123 B4:12B B5:129 B6:137 B7:B7 B8:13C B9:111 BA:161 BB:167
BC:17E BD:2015 BE:16B BF:14B C0:100 C1:C1 C7:12E C8:10C C9:C9 CA:118 CB:CB CC:116 CD:CD D1:145
D2:14C D3:D3 D7:168 D8:D8 D9:172 DA:DA E0:101 E1:E1 E7:12F E8:10D E9:E9 EA:119 EB:EB EC:117 ED:ED
F1:146 F2:14D F3:F3 F7:169 F8:F8 F9:173 FA:FA FF:138"
  | .iso13 => "
80:80 A1:201D A2:A2 A5:201E A6:A6 A8:D8 A9:A9 AA:156 AB:AB AF:C6 B0:B0 B4:201C B5:B5 B8:F8 B9:B9
BA:157 BB:BB BF:E6 C0:104 C1:12E C2:100 C3:106 C4:C4 C6:118 C7:112 C8:10C C9:C9 CA:179 CB:116
CC:122 CD:136 CE:12A CF:13B D0:160 D1:143 D2:145 D3:D3 D4:14C D5:D5 D8:172 D9:141 DA:15A DB:16A
DC:DC DD:17B DE:17D DF:DF E0:105 E1:12F E2:101 E3:107 E4:E4 E6:119 E7:113 E8:10D E9:E9 EA:17A
EB:117 EC:123 ED:137 EE:12B EF:13C F0:161 F1:144 F2:146 F3:F3 F4:14D F5:F5 F8:173 F9:142 FA:15B
FB:16B FC:FC FD:17C FE:17E FF:2019"
  | .iso14 => "
80:80 A1:1E02 A3:A3 A4:10A A6:1E0A A7:A7 A8:1E80 A9:A9 AA:1E82 AB:1E0B AC:1EF2 AD:AD AF:178
B0:1E1E B2:120 B4:1E40 B6:B6 B7:1E56 B8:1E81 B9:1E57 BA:1E83 BB:1E60 BC:1EF3 BD:1E84 BF:1E61 C0:C0
D0:174 D1:D1 D7:1E6A D8:D8 DE:176 DF:DF F0:175 F1:F1 F7:1E6B F8:F8 FE:177 FF:FF"
  | .iso15 => "
80:80 A4:20AC A5:A5 A6:160 A7:A7 A8:161 A9:A9 B4:17D B5:B5 B8:17E B9:B9 BC:152 BE:178 BF:BF"
  | .iso16 => "
80:80 A1:104 A3:141 A4:20AC A5:201E A6:160 A7:A7 A8:161 A9:A9 AA:218 AB:AB AC:179 AD:AD AE:17A
B0:B0 B2:10C B3:142 B4:17D B5:201D B6:B6 B8:17E B9:10D BA:219 BB:BB BC:152 BE:178 BF:17C C0:C0
C3:102 C4:C4 C5:106 C6:C6 D0:110 D1:143 D2:D2 D5:150 D6:D6 D7:15A D8:170 D9:D9 DD:118 DE:21A DF:DF
E3:103 E4:E4 E5:107 E6:E6 F0:111 F1:144 F2:F2 F5:151 F6:F6 F7:15B F8:171 F9:F9 FD:119 FE:21B FF:FF"
  | .koi8r => "
80:2500 81:2502 82:250C 83:2510 84:2514 85:2518 86:251C 87:2524 88:252C 89:2534 8A:253C 8B:2580
8C:2584 8D:2588 8E:258C 8F:2590 93:2320 94:25A0 95:2219 97:2248 98:2264 9A:A0 9B:2321 9C:B0 9D:B2
9E:B7 9F:F7 A0:2550 A3:451 A4:2553 B3:401 B4:2562 BF:A9 C0:44E C1:430 C3:446 C4:434 C6:444 C7:433
C8:445 C9:438 D1:44F D2:440 D6:436 D7:432 D8:44C D9:44B DA:437 DB:448 DC:44D DD:449 DE:447 DF:44A
E0:42E E1:410 E3:426 E4:414 E6:424 E7:413 E8:425 E9:418 F1:42F F2:420 F6:416 F7:412 F8:42C F9:42B
FA:417 FB:428 FC:42D FD:429 FE:427 FF:42A"
  | .koi8u => "
80:2500 81:2502 82:250C 83:2510 84:2514 85:2518 86:251C 87:2524 88:252C 89:2534 8A:253C 8B:2580
8C:2584 8D:2588 8E:258C 8F:2590 93:2320 94:25A0 95:2219 97:2248 98:2264 9A:A0 9B:2321 9C:B0 9D:B2
9E:B7 9F:F7 A0:2550 A3:451 A4:454 A5:2554 A6:456 A8:2557 AD:491 AE:45E AF:255E B3:401 B4:404
B5:2563 B6:406 B8:2566 BD:490 BE:40E BF:A9 C0:44E C1:430 C3:446 C4:434 C6:444 C7:433 C8:445 C9:438
D1:44F D2:440 D6:436 D7:432 D8:44C D9:44B DA:437 DB:448 DC:44D DD:449 DE:447 DF:44A E0:42E E1:410
E3:426 E4:414 E6:424 E7:413 E8:425 E9:418 F1:42F F2:420 F6:416 F7:412 F8:42C F9:42B FA:417 FB:428
FC:42D FD:429 FE:427 FF:42A"
  | .macintosh => "
80:C4 82:C7 83:C9 84:D1 85:D6 86:DC 87:E1 88:E0 89:E2 8A:E4 8B:E3 8C:E5 8D:E7 8E:E9 8F:E8 90:EA
92:ED 93:EC 94:EE 96:F1 97:F3 98:F2 99:F4 9A:F6 9B:F5 9C:FA 9D:F9 9E:FB A0:2020 A1:B0 A2:A2 A4:A7
A5:2022 A6:B6 A7:DF A8:AE A9:A9 AA:2122 AB:B4 AC:A8 AD:2260 AE:C6 AF:D8 B0:221E B1:B1 B2:2264
B4:A5 B5:B5 B6:2202 B7:2211 B8:220F B9:3C0 BA:222B BB:AA BC:BA BD:3A9 BE:E6 BF:F8 C0:BF C1:A1
C2:AC C3:221A C4:192 C5:2248 C6:2206 C7:AB C8:BB C9:2026 CA:A0 CB:C0 CC:C3 CD:D5 CE:152 D0:2013
D2:201C D4:2018 D6:F7 D7:25CA D8:FF D9:178 DA:2044 DB:20AC DC:2039 DE:FB01 E0:2021 E1:B7 E2:201A
E3:201E E4:2030 E5:C2 E6:CA E7:C1 E8:CB E9:C8 EA:CD ED:CC EE:D3 F0:F8FF F1:D2 F2:DA F4:D9 F5:131
F6:2C6 F7:2DC F8:AF F9:2D8 FC:B8 FD:2DD FE:2DB FF:2C7"
  | .windows874 => "
80:20AC 81:81 85:2026 86:86 91:2018 93:201C 95:2022 96:2013 98:98 A1:E01 DB:- DF:E3F FC:-"
  | .windows1250 => "
80:20AC 81:81 82:201A 83:83 84:201E 85:2026 86:2020 88:88 89:2030 8A:160 8B:2039 8C:15A 8D:164
8E:17D 8F:179 90:90 91:2018 93:201C 95:2022 96:2013 98:98 99:2122 9A:161 9B:203A 9C:15B 9D:165
9E:17E 9F:17A A0:A0 A1:2C7 A2:2D8 A3:141 A4:A4 A5:104 A6:A6 AA:15E AB:AB AF:17B B0:B0 B2:2DB
B3:142 B4:B4 B9:105 BA:15F BB:BB BC:13D BD:2DD BE:13E BF:17C C0:154 C1:C1 C3:102 C4:C4 C5:139
C6:106 C7:C7 C8:10C C9:C9 CA:118 CB:CB CC:11A CD:CD CF:10E D0:110 D1:143 D2:147 D3:D3 D5:150 D6:D6
D8:158 D9:16E DA:DA DB:170 DC:DC DE:162 DF:DF E0:155 E1:E1 E3:103 E4:E4 E5:13A E6:107 E7:E7 E8:10D
E9:E9 EA:119 EB:EB EC:11B ED:ED EF:10F F0:111 F1:144 F2:148 F3:F3 F5:151 F6:F6 F8:159 F9:16F FA:FA
FB:171 FC:FC FE:163 FF:2D9"
  | .windows1251 => "
80:402 82:201A 83:453 84:201E 85:2026 86:2020 88:20AC 89:2030 8A:409 8B:2039 8C:40A 8D:40C 8E:40B
8F:40F 90:452 91:2018 93:201C 95:2022 96:2013 98:98 99:2122 9A:459 9B:203A 9C:45A 9D:45C 9E:45B
9F:45F A0:A0 A1:40E A2:45E A3:408 A4:A4 A5:490 A6:A6 A8:401 A9:A9 AA:404 AB:AB AF:407 B0:B0 B2:406
B3:456 B4:491 B5:B5 B8:451 B9:2116 BA:454 BB:BB BC:458 BD:405 BE:455 BF:457 C0:410"
  | .windows1252 => "
80:20AC 81:81 82:201A 83:192 84:201E 85:2026 86:2020 88:2C6 89:2030 8A:160 8B:2039 8C:152 8D:8D
8E:17D 8F:8F 91:2018 93:201C 95:2022 96:2013 98:2DC 99:2122 9A:161 9B:203A 9C:153 9D:9D 9E:17E
9F:178 A0:A0"
  | .windows1253 => "
80:20AC 81:81 82:201A 83:192 84:201E 85:2026 86:2020 88:88 89:2030 8A:8A 8B:2039 8C:8C 91:2018
93:201C 95:2022 96:2013 98:98 99:2122 9A:9A 9B:203A 9C:9C A1:385 A3:A3 AA:- AB:AB AF:2015 B0:B0
B4:384 B5:B5 B8:388 BB:BB BC:38C BD:BD BE:38E D2:- D3:3A3 FF:-"
  | .windows1254 => "
80:20AC 81:81 82:201A 83:192 84:201E 85:2026 86:2020 88:2C6 89:2030 8A:160 8B:2039 8C:152 8D:8D
91:2018 93:201C 95:2022 96:2013 98:2DC 99:2122 9A:161 9B:203A 9C:153 9D:9D 9F:178 A0:A0 D0:11E
D1:D1 DD:130 DE:15E DF:DF F0:11F F1:F1 FD:131 FE:15F FF:FF"
  | .windows1255 => "
80:20AC 81:81 82:201A 83:192 84:201E 85:2026 86:2020 88:2C6 89:2030 8A:8A 8B:2039 8C:8C 91:2018
93:201C 95:2022 96:2013 98:2DC 99:2122 9A:9A 9B:203A 9C:9C A4:20AA A5:A5 AA:D7 AB:AB BA:F7 BB:BB
C0:5B0 D4:5F0 D9:- E0:5D0 FB:- FD:200E FF:-"
  | .windows1256 => "
80:20AC 81:67E 82:201A 83:192 84:201E 85:2026 86:2020 88:2C6 89:2030 8A:679 8B:2039 8C:152 8D:686
8E:698 8F:688 90:6AF 91:2018 93:201C 95:2022 96:2013 98:6A9 99:2122 9A:691 9B:203A 9C:153 9D:200C
9F:6BA A0:A0 A1:60C A2:A2 AA:6BE AB:AB BA:61B BB:BB BF:61F C0:6C1 C1:621 D7:D7 D8:637 DC:640 E0:E0
E1:644 E2:E2 E3:645 E7:E7 EC:649 EE:EE F0:64B F4:F4 F5:64F F7:F7 F8:651 F9:F9 FA:652 FB:FB FD:200E
FF:6D2"
  | .windows1257 => "
80:20AC 81:81 82:201A 83:83 84:201E 85:2026 86:2020 88:88 89:2030 8A:8A 8B:2039 8C:8C 8D:A8 8E:2C7
8F:B8 90:90 91:2018 93:201C 95:2022 96:2013 98:98 99:2122 9A:9A 9B:203A 9C:9C 9D:AF 9E:2DB 9F:9F
A1:- A2:A2 A5:- A6:A6 A8:D8 A9:A9 AA:156 AB:AB AF:C6 B0:B0 B8:F8 B9:B9 BA:157 BB:BB BF:E6 C0:104
C1:12E C2:100 C3:106 C4:C4 C6:118 C7:112 C8:10C C9:C9 CA:179 CB:116 CC:122 CD:136 CE:12A CF:13B
D0:160 D1:143 D2:145 D3:D3 D4:14C D5:D5 D8:172 D9:141 DA:15A DB:16A DC:DC DD:17B DE:17D DF:DF
E0:105 E1:12F E2:101 E3:107 E4:E4 E6:119 E7:113 E8:10D E9:E9 EA:17A EB:117 EC:123 ED:137 EE:12B
EF:13C F0:161 F1:144 F2:146 F3:F3 F4:14D F5:F5 F8:173 F9:142 FA:15B FB:16B FC:FC FD:17C FE:17E
FF:2D9"
  | .windows1258 => "
80:20AC 81:81 82:201A 83:192 84:201E 85:2026 86:2020 88:2C6 89:2030 8A:8A 8B:2039 8C:152 8D:8D
91:2018 93:201C 95:2022 96:2013 98:2DC 99:2122 9A:9A 9B:203A 9C:153 9D:9D 9F:178 A0:A0 C3:102
C4:C4 CC:300 CD:CD D0:110 D1:D1 D2:309 D3:D3 D5:1A0 D6:D6 DD:1AF DE:303 DF:DF E3:103 E4:E4 EC:301
ED:ED F0:111 F1:F1 F2:323 F3:F3 F5:1A1 F6:F6 FD:1B0 FE:20AB FF:FF"
  | .macCyrillic => "
80:410 A0:2020 A1:B0 A2:490 A3:A3 A4:A7 A5:2022 A6:B6 A7:406 A8:AE A9:A9 AA:2122 AB:402 AC:452
AD:2260 AE:403 AF:453 B0:221E B1:B1 B2:2264 B4:456 B5:B5 B6:491 B7:408 B8:404 B9:454 BA:407 BB:457
BC:409 BD:459 BE:40A BF:45A C0:458 C1:405 C2:AC C3:221A C4:192 C5:2248 C6:2206 C7:AB C8:BB C9:2026
CA:A0 CB:40B CC:45B CD:40C CE:45C CF:455 D0:2013 D2:201C D4:2018 D6:F7 D7:201E D8:40E D9:45E
DA:40F DB:45F DC:2116 DD:401 DE:451 DF:44F E0:430 FF:20AC"

/-- The character of a byte in a stretch. -/
def stretchChar (byte start : Nat) (first : String) : Char :=
  if first = "-" then '\uFFFD' else Char.ofNat (hexValue first.toList + (byte - start))

/-- The characters of the bytes from `0x80` on. -/
def SingleByte.upperChars (s : SingleByte) : Array Char :=
  let table := StepTable.parse s.upperHalf
  ((List.range 128).map fun i =>
    let (start, first) := table.lookup (128 + i)
    stretchChar (128 + i) start first).toArray

/-- The characters of the bytes. -/
def SingleByte.decode (s : SingleByte) (bytes : List UInt8) : List Char :=
  let upper := s.upperChars
  bytes.map fun b => if b < 128 then Char.ofNat b.toNat else upper.getD (b.toNat - 128) '\uFFFD'

end AuthorNames.Charset
