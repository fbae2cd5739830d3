/-!
# Labels written in ASCII

A label with letters beyond ASCII is also written in ASCII: its characters of ASCII come first, then
one number for each of the others, which says how far the character lies from the one before it when
all pairs of a code point and a place in the label are counted through. The numbers have digits to
the base 36, lowest first; a digit below a threshold ends a number, and the thresholds follow the
size of the numbers before. All numbers stay below `2 ^ 32`.

## Main definitions

* `Punycode.digit?`, `Punycode.threshold`, `Punycode.adapt`: digits and thresholds
* `Punycode.Reading`: how far a label is read
* `Punycode.decode?`: the label that a text in ASCII spells
-/

namespace LoggingProvider

namespace Punycode

/-! ## Digits -/

/-- The value of a digit: letters first, then the decimal digits. -/
def digit? (c : Char) : Option Nat :=
  if 'a' ≤ c && c ≤ 'z' then some (c.toNat - 'a'.toNat)
  else if '0' ≤ c && c ≤ '9' then some (c.toNat - '0'.toNat + 26)
  else none

/-- The threshold of a column; the columns count in steps of 36. -/
def threshold (column bias : Nat) : Nat :=
  if column ≤ bias then 1 else if bias + 26 ≤ column then 26 else column - bias

/-- The bias for a distance: 36 for each time that it is divided by 35 until it is small, and a part
for what is left. -/
def biasFor (distance : Nat) : Nat :=
  if 455 < distance then 36 + biasFor (distance / 35) else 36 * distance / (distance + 38)
termination_by distance
decreasing_by omega

/-- The bias after a distance, in a label of so many characters. -/
def adapt (distance size : Nat) (first : Bool) : Nat :=
  let distance := if first then distance / 700 else distance / 2
  biasFor (distance + distance / size)

/-! ## Reading -/

/-- **How far a label is read**, and the number that is being read. -/
structure Reading where
  /-- The characters read so far. -/
  label : List Char
  /-- The code point of the last insertion. -/
  point : Nat
  /-- The bias of the thresholds. -/
  bias : Nat
  /-- The place after the last insertion. -/
  start : Nat
  /-- The place counted so far. -/
  place : Nat
  /-- The weight of the next digit. -/
  weight : Nat
  /-- The column of the next digit. -/
  column : Nat

namespace Reading

/-- The reading of the numbers after the characters of ASCII. -/
def begin (label : List Char) : Reading := ⟨label, 0x80, 72, 0, 0, 1, 36⟩

/-- No number reaches this one. -/
def limit : Nat := 4294967296

/-- The reading after a whole number: its character is inserted. -/
def insert? (r : Reading) : Option Reading :=
  let size := r.label.length + 1
  let point := r.point + r.place / size
  if point.isValidChar then
    let here := r.place % size
    some ⟨r.label.insertIdx here (Char.ofNat point), point,
      adapt (r.place - r.start) size (r.start = 0), here + 1, here + 1, 1, 36⟩
  else none

/-- The reading after one more digit. -/
def next? (r : Reading) (c : Char) : Option Reading := do
  let digit ← digit? c
  let place := r.place + digit * r.weight
  let t := threshold r.column r.bias
  let weight := r.weight * (36 - t)
  if limit ≤ place then none
  else if digit < t then insert? { r with place := place }
  else if limit ≤ weight then none
  else some { r with place := place, weight := weight, column := r.column + 36 }

/-- The label, if no number is begun. -/
def label? (r : Reading) : Option (List Char) :=
  if r.column = 36 then some r.label else none

end Reading

/-- The characters before the last hyphen and the digits after it. Without characters before it, a
hyphen is not counted as one. -/
def split (cs : List Char) : List Char × List Char :=
  let digits := (cs.reverse.takeWhile (· ≠ '-')).reverse
  let before := cs.take (cs.length - digits.length - 1)
  if before.isEmpty then ([], cs) else (before, digits)

/-- **The label that a text in ASCII spells.** -/
def decode? (cs : List Char) : Option (List Char) := do
  let (label, digits) := split cs
  let r ← digits.foldlM Reading.next? (Reading.begin label)
  r.label?

end Punycode

end LoggingProvider
