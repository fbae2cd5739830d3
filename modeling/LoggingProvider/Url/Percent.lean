import LoggingProvider.Text.Utf8

/-!
# Percent encoding

A character that may not stand in a part of an address is written as its bytes, each as a percent
sign and two hexadecimal digits in upper case. Characters outside ASCII and controls are always
written so; which others are depends on the part.

## Main definitions

* `Percent.Reserved`: the visible characters that a part does not admit
* `Percent.encode`: the encoded text
* `Percent.decode`: the bytes of an encoded text

## Main results

* `Percent.decode_encode`: an encoded text decodes to its bytes, if the percent sign is reserved
-/

namespace LoggingProvider

namespace Percent

/-- The visible characters that a part of an address does not admit. -/
abbrev Reserved := List Char

/-- The characters that a path does not admit. -/
def path : Reserved := [' ', '"', '#', '<', '>', '?', '`', Char.ofNat 0x7b, Char.ofNat 0x7d]

/-- The characters that a single segment of a path does not admit. -/
def segment : Reserved := '/' :: '%' :: path

/-- The characters that a segment does not admit where a backslash separates segments too. -/
def specialSegment : Reserved := '\\' :: segment

/-- The characters that a query does not admit. -/
def query : Reserved := [' ', '"', '#', '<', '>']

/-- The characters that a query of a special address does not admit. -/
def specialQuery : Reserved := '\'' :: query

/-- The characters that a fragment does not admit. -/
def fragment : Reserved := [' ', '"', '<', '>', '`']

/-- Whether a character is written as its bytes. -/
def escapes (reserved : Reserved) (c : Char) : Bool :=
  c.toNat < 0x20 || 0x7f ≤ c.toNat || c ∈ reserved

/-- A hexadecimal digit in upper case. -/
def digit (n : Nat) : Char :=
  if n < 10 then Char.ofNat (0x30 + n) else Char.ofNat (0x37 + n)

/-- A byte as a percent sign and two digits. -/
def escape (b : UInt8) : List Char :=
  ['%', digit (b.toNat / 16), digit (b.toNat % 16)]

/-- The encoded form of a character. -/
def encodeChar (reserved : Reserved) (c : Char) : List Char :=
  if escapes reserved c then (String.utf8EncodeChar c).flatMap escape else [c]

/-- **The encoded text.** -/
def encode (reserved : Reserved) (cs : List Char) : List Char :=
  cs.flatMap (encodeChar reserved)

/-- The value of a hexadecimal digit of either case. -/
def value? (c : Char) : Option Nat :=
  let n := c.toNat
  if 0x30 ≤ n && n ≤ 0x39 then some (n - 0x30)
  else if 0x41 ≤ n && n ≤ 0x46 then some (n - 0x37)
  else if 0x61 ≤ n && n ≤ 0x66 then some (n - 0x57)
  else none

/-- The byte that two digits denote. -/
def byte? (a b : Char) : Option UInt8 :=
  match value? a, value? b with
  | some m, some n => some (UInt8.ofNat (16 * m + n))
  | _, _ => none

/-- **The bytes of an encoded text**; a percent sign without two digits stands for itself. The first
argument counts the characters that still belong to the byte read last. -/
def decodeFrom : Nat → List Char → Bytes
  | _, [] => []
  | skip + 1, _ :: rest => decodeFrom skip rest
  | 0, c :: rest =>
    match c, rest with
    | '%', a :: b :: _ =>
      match byte? a b with
      | some byte => byte :: decodeFrom 2 rest
      | none => String.utf8EncodeChar c ++ decodeFrom 0 rest
    | _, _ => String.utf8EncodeChar c ++ decodeFrom 0 rest

/-- The bytes of an encoded text. -/
def decode (cs : List Char) : Bytes := decodeFrom 0 cs

/-! ## Decoding what was encoded -/

theorem value?_digit {n : Nat} (h : n < 16) : value? (digit n) = some n := by
  have : ∀ m ∈ List.range 16, value? (digit m) = some m := by decide
  exact this n (List.mem_range.2 h)

theorem byte?_digits (b : UInt8) :
    byte? (digit (b.toNat / 16)) (digit (b.toNat % 16)) = some b := by
  have hb : b.toNat < 256 := b.toNat_lt
  unfold byte?
  rw [value?_digit (by omega), value?_digit (by omega)]
  simp only [Nat.div_add_mod]
  simp

theorem decode_escape_append (b : UInt8) (rest : List Char) :
    decode (escape b ++ rest) = b :: decode rest := by
  simp only [decode, escape, List.cons_append, List.nil_append, decodeFrom, byte?_digits]

theorem decode_escapes_append (bytes : Bytes) (rest : List Char) :
    decode (bytes.flatMap escape ++ rest) = bytes ++ decode rest := by
  induction bytes with
  | nil => rfl
  | cons b more ih =>
    rw [List.flatMap_cons, List.append_assoc, decode_escape_append, ih, List.cons_append]

theorem decode_cons {c : Char} (h : c ≠ '%') (rest : List Char) :
    decode (c :: rest) = String.utf8EncodeChar c ++ decode rest := by
  unfold decode
  rw [decodeFrom]
  exact fun _ _ _ hc => absurd hc h

theorem decode_encodeChar_append {reserved : Reserved} (h : '%' ∈ reserved) (c : Char)
    (rest : List Char) :
    decode (encodeChar reserved c ++ rest) = String.utf8EncodeChar c ++ decode rest := by
  unfold encodeChar
  split
  · exact decode_escapes_append _ _
  · next hc =>
    refine decode_cons ?_ rest
    rintro rfl
    exact hc (by simp [escapes, h])

/-- An encoded text decodes to its bytes, if the percent sign is reserved. -/
theorem decode_encode {reserved : Reserved} (h : '%' ∈ reserved) (cs : List Char) :
    decode (encode reserved cs) = cs.flatMap String.utf8EncodeChar := by
  induction cs with
  | nil => rfl
  | cons c rest ih =>
    unfold encode at ih ⊢
    rw [List.flatMap_cons, decode_encodeChar_append h, ih, List.flatMap_cons]

end Percent

end LoggingProvider
