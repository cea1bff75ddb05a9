/-!
Labels with characters beyond ASCII, written in ASCII. The basic characters come first and a hyphen
ends them; then every other character is written as the number of places and code points that lie
between it and the one before, in digits of base 36 whose weights adapt to the numbers seen so far.
-/

namespace AuthorNames.Domain.Punycode

/-- The digit of a value below 36: letters first, then figures. -/
def digit (value : Nat) : Char :=
  if value < 26 then Char.ofNat (97 + value) else Char.ofNat (22 + value)

/-- The value of a digit; letters count in either case. -/
def digitValue? (c : Char) : Option Nat :=
  if 'a' ≤ c ∧ c ≤ 'z' then some (c.toNat - 97)
  else if 'A' ≤ c ∧ c ≤ 'Z' then some (c.toNat - 65)
  else if '0' ≤ c ∧ c ≤ '9' then some (c.toNat - 22)
  else none

/-- The least digit that is followed by another, at the place `k` (36 for the first, then steps of
36). -/
def threshold (k bias : Nat) : Nat :=
  if k ≤ bias then 1 else if bias + 26 ≤ k then 26 else k - bias

/-- Divides by 35 until at most 455 is left, and counts the divisions in steps of 36; the first
argument bounds their number. -/
def scaleDown : Nat → Nat → Nat × Nat
  | 0, delta => (delta, 0)
  | steps + 1, delta =>
    if delta ≤ 455 then (delta, 0)
    else
      let (rest, k) := scaleDown steps (delta / 35)
      (rest, k + 36)

/-- The bias after a number `delta` was written as the `count`-th character of the label. -/
def adapt (delta count : Nat) (isFirst : Bool) : Nat :=
  let damped := if isFirst then delta / 700 else delta / 2
  let (rest, k) := scaleDown 16 (damped + damped / count)
  k + 36 * rest / (rest + 38)

/-- A number as digits, the least significant first; the first argument bounds their count. -/
def encodeNumber : Nat → Nat → Nat → Nat → List Char
  | 0, _, _, _ => []
  | count + 1, bias, k, n =>
    let t := threshold k bias
    if n < t then [digit n]
    else digit (t + (n - t) % (36 - t)) :: encodeNumber count bias (k + 36) ((n - t) / (36 - t))

/-- Where the writer stands: the digits written so far, the distance gathered since the last
character, the bias, and how many characters have their place. -/
structure Writer where
  written : List Char
  delta : Nat
  bias : Nat
  placed : Nat

/-- Passes one character of the label while characters equal to `target` are being placed. -/
def Writer.pass (basic target : Nat) (w : Writer) (c : Char) : Writer :=
  if c.toNat < target then { w with delta := w.delta + 1 }
  else if c.toNat = target then
    { written := w.written ++ encodeNumber 16 w.bias 36 w.delta
      delta := 0
      bias := adapt w.delta (w.placed + 1) (w.placed = basic)
      placed := w.placed + 1 }
  else w

/-- Places the characters of the label that are beyond ASCII, given which there are in rising
order. -/
def encodeTargets (label : List Char) (basic : Nat) : List Nat → Nat → Writer → Writer
  | [], _, w => w
  | target :: rest, reached, w =>
    let w := { w with delta := w.delta + (target - reached) * (w.placed + 1) }
    let w := label.foldl (Writer.pass basic target) w
    encodeTargets label basic rest (target + 1) { w with delta := w.delta + 1 }

/-- Puts a number into a rising list, unless it is there. -/
def insertRising (n : Nat) : List Nat → List Nat
  | [] => [n]
  | m :: rest => if n < m then n :: m :: rest else if n = m then m :: rest else m :: insertRising n rest

/-- The label in ASCII, without a sign that it is so written. -/
def encode (label : List Char) : List Char :=
  let basic := label.filter (·.toNat < 0x80)
  let targets := (label.filter (0x80 ≤ ·.toNat)).foldr (fun c rising => insertRising c.toNat rising) []
  let start := if basic.isEmpty then [] else basic ++ ['-']
  (encodeTargets label basic.length targets 0x80 ⟨start, 0, 72, basic.length⟩).written

/-- Reads one number: the sum and what follows it. Sums and weights stay below `2 ^ 32`. -/
def decodeNumber (bias : Nat) : Nat → Nat → Nat → List Char → Option (Nat × List Char)
  | _, _, _, [] => none
  | k, weight, sum, c :: rest => do
    let d ← digitValue? c
    let sum := sum + d * weight
    if 0x100000000 ≤ sum then none
    else
      let t := threshold k bias
      if d < t then some (sum, rest)
      else
        let weight := weight * (36 - t)
        if 0x100000000 ≤ weight then none else decodeNumber bias (k + 36) weight sum rest

/-- Reads the numbers to the end and puts their characters into place; the first argument bounds
their count, `place` is where the last character went plus one. -/
def decodeFrom : Nat → List Char → Nat → Nat → Nat → List Char → Option (List Char)
  | 0, _, _, _, _, _ => none
  | count + 1, label, reached, place, bias, text =>
    if text.isEmpty then some label
    else do
      let (sum, rest) ← decodeNumber bias 36 1 place text
      let length := label.length + 1
      let value := reached + sum / length
      let next := sum % length
      if value < 0x110000 ∧ ¬ (0xD800 ≤ value ∧ value < 0xE000) then
        decodeFrom count (label.take next ++ Char.ofNat value :: label.drop next) value (next + 1)
          (adapt (sum - place) length (place = 0)) rest
      else none

/-- The label that an ASCII text stands for. The last hyphen ends the basic characters; one at the
very beginning ends nothing, and is no digit either. -/
def decode? (text : List Char) : Option (List Char) :=
  let back := text.reverse
  let basic := ((back.dropWhile (· ≠ '-')).drop 1).reverse
  let numbers := if basic.isEmpty then text else (back.takeWhile (· ≠ '-')).reverse
  decodeFrom (text.length + 1) basic 0x80 0 72 numbers

end AuthorNames.Domain.Punycode
