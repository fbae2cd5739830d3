/-!
# Bytes and characters

A byte sequence read as UTF-8 is a sequence of pieces: characters, and stray bytes that belong to
none. A text that must be whole UTF-8 has no stray bytes; a text that is only shown has the
replacement character for each broken sequence.

## Main definitions

* `Utf8.Piece`: a character or a stray byte
* `Utf8.encode`: the bytes of a text
* `Utf8.pieces`: the pieces of a byte sequence
* `Utf8.decode?`: the text of a byte sequence that is whole UTF-8
* `Utf8.shown`: the text of any byte sequence, broken sequences replaced
-/

namespace LoggingProvider

/-- A byte sequence. -/
abbrev Bytes := List UInt8

namespace Utf8

/-- **A piece of a byte sequence**: a character, or a byte that belongs to none. -/
inductive Piece where
  | scalar (c : Char)
  | stray (b : UInt8)
deriving DecidableEq

/-- The number of bytes of a piece. -/
def Piece.width : Piece → Nat
  | .scalar c => c.utf8Size
  | .stray _ => 1

/-- The character of a piece. -/
def Piece.char? : Piece → Option Char
  | .scalar c => some c
  | .stray _ => none

/-- The bytes of a text. -/
def encode (s : String) : Bytes :=
  s.toList.flatMap String.utf8EncodeChar

/-- The character that starts a byte sequence. -/
def first? (bytes : Bytes) : Option Char :=
  (bytes.take 4).toByteArray.utf8DecodeChar? 0

/-- **The pieces of a byte sequence**, read from the left. The second argument counts the bytes
that still belong to the character read last. -/
def piecesFrom : Bytes → Nat → List Piece
  | [], _ => []
  | _ :: rest, skip + 1 => piecesFrom rest skip
  | b :: rest, 0 =>
    match first? (b :: rest) with
    | some c => .scalar c :: piecesFrom rest (c.utf8Size - 1)
    | none => .stray b :: piecesFrom rest 0

/-- The pieces of a byte sequence. -/
def pieces (bytes : Bytes) : List Piece :=
  piecesFrom bytes 0

/-- The pieces of a text: its characters. -/
def ofText (s : String) : List Piece :=
  s.toList.map .scalar

/-- The text of a byte sequence without stray bytes. -/
def decode? (bytes : Bytes) : Option String :=
  (pieces bytes).mapM Piece.char? |>.map String.ofList

/-! ## Showing broken sequences -/

/-- The range of the byte after a leading byte, and how many bytes follow the leading byte in all;
nothing when no character starts with the byte. -/
def continuation? (b : UInt8) : Option (Nat × Nat × Nat) :=
  let n := b.toNat
  if 0xc2 ≤ n && n ≤ 0xdf then some (0x80, 0xbf, 1)
  else if n = 0xe0 then some (0xa0, 0xbf, 2)
  else if n = 0xed then some (0x80, 0x9f, 2)
  else if 0xe1 ≤ n && n ≤ 0xef then some (0x80, 0xbf, 2)
  else if n = 0xf0 then some (0x90, 0xbf, 3)
  else if n = 0xf4 then some (0x80, 0x8f, 3)
  else if 0xf1 ≤ n && n ≤ 0xf3 then some (0x80, 0xbf, 3)
  else none

/-- How many of the bytes after a leading byte continue it, in a broken sequence. -/
def brokenTail (b : UInt8) (rest : Bytes) : Nat :=
  match continuation? b, rest with
  | some (low, high, more), c :: rest =>
    if low ≤ c.toNat && c.toNat ≤ high then
      1 + ((rest.take (more - 1)).takeWhile fun d => 0x80 ≤ d.toNat && d.toNat ≤ 0xbf).length
    else 0
  | _, _ => 0

/-- The characters of a byte sequence, with one replacement character for each broken sequence.
The second argument counts the bytes that still belong to what was read last. -/
def shownFrom : Bytes → Nat → List Char
  | [], _ => []
  | _ :: rest, skip + 1 => shownFrom rest skip
  | b :: rest, 0 =>
    match first? (b :: rest) with
    | some c => c :: shownFrom rest (c.utf8Size - 1)
    | none => Char.ofNat 0xfffd :: shownFrom rest (brokenTail b rest)

/-- The text of a byte sequence, broken sequences replaced. -/
def shown (bytes : Bytes) : String :=
  String.ofList (shownFrom bytes 0)

end Utf8

end LoggingProvider
