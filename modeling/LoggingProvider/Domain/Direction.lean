import LoggingProvider.Text.Mark

/-!
# The direction of writing

A label must read the same wherever it is shown, also where text runs from right to left. So in a
domain name with a character that runs from right to left every label begins with a letter, holds
characters of one direction, and does not end with a sign that could move.

## Main definitions

* `Direction`, `Direction.of`: the classes of characters, and the class of each
* `Direction.isOrdered`: whether a label reads the same everywhere
* `Direction.runsLeft`: whether a character runs from right to left
-/

namespace LoggingProvider

/-- **The class of a character by the direction of its writing.** -/
inductive Direction where
  | leftToRight
  | rightToLeft
  /-- A digit between letters that run from right to left. -/
  | arabicNumber
  | europeanNumber
  /-- A sign that takes the direction around it. -/
  | neutral
  /-- A mark that takes the direction of its letter. -/
  | mark
deriving DecidableEq

namespace Direction

/-! ## Tables

The ranges also cover code points between their characters that are marks or that no domain name
admits. -/

/-- The letters that run from right to left. -/
def rightToLeftRanges : List (Nat × Nat) :=
  [(0x5be, 0x5f4), (0x608, 0x608), (0x60b, 0x60b), (0x60d, 0x60d), (0x61b, 0x64a), (0x66d, 0x6d5),
   (0x6e5, 0x6e6), (0x6ee, 0x6ef), (0x6fa, 0x7f5), (0x7fa, 0x8c9), (0xfbb2, 0xfbc2),
   (0xfe73, 0xfe73), (0x10800, 0x1091b), (0x10920, 0x10b35), (0x10b40, 0x10d23), (0x10d4a, 0x10d4f),
   (0x10d6f, 0x10d8f), (0x10e80, 0x10ec7), (0x10f00, 0x10ff6), (0x1e800, 0x1ed3d)]

/-- The digits between letters that run from right to left. -/
def arabicNumberRanges : List (Nat × Nat) :=
  [(0x660, 0x669), (0x66b, 0x66c), (0x10d30, 0x10d49), (0x10e60, 0x10e7e)]

/-- The other digits. -/
def europeanNumberRanges : List (Nat × Nat) :=
  [(0x30, 0x39), (0x6f0, 0x6f9), (0x102e1, 0x102fb)]

/-- The signs that take the direction around them. -/
def neutralRanges : List (Nat × Nat) :=
  [(0x21, 0x2e), (0x3b, 0x60), (0x7b, 0xd7), (0xf7, 0xf7), (0x2b9, 0x2ba), (0x2c2, 0x2cf),
   (0x2d2, 0x2ed), (0x2ef, 0x2ff), (0x375, 0x375), (0x3f6, 0x3f6), (0x58a, 0x58f), (0x606, 0x607),
   (0x609, 0x60a), (0x60c, 0x60c), (0x60e, 0x60f), (0x66a, 0x66a), (0x6de, 0x6de), (0x6e9, 0x6e9),
   (0x7f6, 0x7f9), (0x9f2, 0x9f3), (0x9fb, 0x9fb), (0xaf1, 0xaf1), (0xbf3, 0xbfa), (0xc78, 0xc7e),
   (0xe3f, 0xe3f), (0xf3a, 0xf3d), (0x1390, 0x1399), (0x1400, 0x1400), (0x169b, 0x169c),
   (0x17db, 0x17db), (0x17f0, 0x180a), (0x1940, 0x1945), (0x19de, 0x19ff), (0x200c, 0x214d),
   (0x218a, 0x2335), (0x237b, 0x2394), (0x2396, 0x26ab), (0x26ad, 0x27ff), (0x2900, 0x2bff),
   (0x2ce5, 0x2cea), (0x2cf9, 0x2cff), (0x2e00, 0x3004), (0x3008, 0x3020), (0x3030, 0x3030),
   (0x3037, 0x3037), (0x303d, 0x303f), (0x30a0, 0x30a0), (0x30fb, 0x30fb), (0x31c0, 0x31e5),
   (0x4dc0, 0x4dff), (0xa490, 0xa4c6), (0xa60d, 0xa60f), (0xa673, 0xa67f), (0xa700, 0xa721),
   (0xa788, 0xa788), (0xa828, 0xa82b), (0xa838, 0xa839), (0xa874, 0xa877), (0xab6a, 0xab6b),
   (0xfbc3, 0xfe46), (0x10101, 0x10101), (0x10140, 0x1018c), (0x10190, 0x101a0), (0x1091f, 0x1091f),
   (0x10b39, 0x10b3f), (0x10d6e, 0x10d6e), (0x10ed0, 0x10ed8), (0x11052, 0x11065),
   (0x11660, 0x1166c), (0x11fd5, 0x11ff1), (0x16fe2, 0x16fe2), (0x1cc00, 0x1cef0),
   (0x1d1e9, 0x1d245), (0x1d300, 0x1d356), (0x1e2ff, 0x1e2ff), (0x1eef0, 0x1f12f),
   (0x1f16d, 0x1f16f), (0x1f1ad, 0x1f1ad), (0x1f260, 0x1fbfa)]

/-- The nonspacing marks that run from left to right themselves. -/
def leadingMarks : List Nat := [0xcbf, 0xcc6, 0x11a07, 0x11a08, 0x11c3f]

/-- **The class of a character.** -/
def of (c : Char) : Direction :=
  let n := c.toNat
  if Text.isMark c then if Text.isNonspacing c && n ∉ leadingMarks then .mark else .leftToRight
  else if Text.inRanges rightToLeftRanges n then .rightToLeft
  else if Text.inRanges arabicNumberRanges n then .arabicNumber
  else if Text.inRanges europeanNumberRanges n then .europeanNumber
  else if Text.inRanges neutralRanges n then .neutral
  else .leftToRight

/-! ## Labels -/

/-- Whether a character runs from right to left. The first script that does is Hebrew. -/
def runsLeft (c : Char) : Bool :=
  0x5be ≤ c.toNat && (of c = .rightToLeft || of c = .arabicNumber)

/-- The classes without the marks at the end. -/
def dropMarks (ds : List Direction) : List Direction :=
  (ds.reverse.dropWhile (· = .mark)).reverse

/-- The classes in a label that runs from left to right, and those that may end it. -/
def leftToRightParts : List Direction × List Direction :=
  ([.leftToRight, .europeanNumber, .neutral, .mark], [.leftToRight, .europeanNumber])

/-- The classes in a label that runs from right to left, and those that may end it. -/
def rightToLeftParts : List Direction × List Direction :=
  ([.rightToLeft, .arabicNumber, .europeanNumber, .neutral, .mark],
    [.rightToLeft, .arabicNumber, .europeanNumber])

/-- Whether classes are all among some, the last among others. -/
def areParts (parts : List Direction × List Direction) (ds : List Direction) : Bool :=
  ds.all (· ∈ parts.1) && ds.getLast?.all (· ∈ parts.2)

/-- **Whether a label reads the same everywhere.** -/
def isOrdered (label : List Char) : Bool :=
  match label.map of with
  | [] => true
  | first :: rest =>
    let rest := dropMarks rest
    match first with
    | .leftToRight => areParts leftToRightParts rest
    | .rightToLeft =>
      areParts rightToLeftParts rest && !(.arabicNumber ∈ rest && .europeanNumber ∈ rest)
    | _ => false

end Direction

end LoggingProvider
