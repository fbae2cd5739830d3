import LoggingProvider.Json.Basic
import LoggingProvider.Text.Utf8

/-!
# Compact texts of documents

The compact text of a document has no blanks between its parts. In a text the quote, the backslash
and the control characters below the space are escaped, and nothing else.

## Main definitions

* `Json.escaped`: the spelling of a character inside a text
* `Json.compact`: the compact text of a document
* `Json.encode`: its bytes
-/

namespace LoggingProvider

namespace Json

/-- A hexadecimal digit, lower case. -/
def hexDigit (n : Nat) : Char :=
  if n < 10 then Char.ofNat (0x30 + n) else Char.ofNat (0x57 + n)

/-- The spelling of a character inside a text. -/
def escaped (c : Char) : List Char :=
  if c = '"' then ['\\', '"']
  else if c = '\\' then ['\\', '\\']
  else if c.toNat = 0x08 then ['\\', 'b']
  else if c = '\t' then ['\\', 't']
  else if c = '\n' then ['\\', 'n']
  else if c.toNat = 0x0c then ['\\', 'f']
  else if c = '\r' then ['\\', 'r']
  else if c.toNat < 0x20 then
    ['\\', 'u', '0', '0', hexDigit (c.toNat / 16), hexDigit (c.toNat % 16)]
  else [c]

/-- The characters of a text between its quotes. -/
def quotedChars (s : String) : List Char :=
  '"' :: (s.toList.flatMap escaped ++ ['"'])

mutual

/-- The characters of a document's compact text. -/
def chars : Json → List Char
  | .null => ['n', 'u', 'l', 'l']
  | .bool true => ['t', 'r', 'u', 'e']
  | .bool false => ['f', 'a', 'l', 's', 'e']
  | .number n => n.text.toList
  | .string s => quotedChars s
  | .array items => '[' :: (itemChars items ++ [']'])
  | .object members => Char.ofNat 0x7b :: (memberChars members ++ [Char.ofNat 0x7d])

/-- The characters of an array's items, with commas between them. -/
def itemChars : List Json → List Char
  | [] => []
  | [v] => v.chars
  | v :: w :: rest => v.chars ++ ',' :: itemChars (w :: rest)

/-- The characters of an object's members, with commas between them. -/
def memberChars : List (String × Json) → List Char
  | [] => []
  | [(name, v)] => quotedChars name ++ ':' :: v.chars
  | (name, v) :: e :: rest => quotedChars name ++ ':' :: (v.chars ++ ',' :: memberChars (e :: rest))

end

/-- **The compact text of a document.** -/
def compact (v : Json) : String :=
  String.ofList v.chars

/-- The bytes of a document's compact text. -/
def encode (v : Json) : Bytes :=
  Utf8.encode v.compact

end Json

end LoggingProvider
