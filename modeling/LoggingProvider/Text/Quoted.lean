import LoggingProvider.Text.Hidden
import LoggingProvider.Text.Mark

/-!
# Quoted texts

The spelling of a text inside a message: between double quotes, with a short escape for the
quote, the backslash and four controls, and with the code point in hexadecimal for every
character that could not be seen or would merge with its neighbour.

## Main definitions

* `Text.escaped`: the spelling of one character
* `Text.quoted`: the spelling of a text
* `Text.quotedList`: the spelling of a list of texts
-/

namespace LoggingProvider

namespace Text

/-- A number in hexadecimal, lower case, without leading zeros. -/
def hex (n : Nat) : String :=
  String.ofList (Nat.toDigits 16 n)

/-- The spelling of one character between the quotes. -/
def escaped (c : Char) : String :=
  if c = '"' then "\\\""
  else if c = '\\' then "\\\\"
  else if c = '\n' then "\\n"
  else if c = '\r' then "\\r"
  else if c = '\t' then "\\t"
  else if c.toNat = 0 then "\\0"
  else if 0x20 ≤ c.toNat && c.toNat < 0x7f then c.toString
  else if isCombining c || isHidden c then "\\u\x7b" ++ hex c.toNat ++ "\x7d"
  else c.toString

/-- **The quoted spelling of a text.** -/
def quoted (s : String) : String :=
  "\"" ++ String.join (s.toList.map escaped) ++ "\""

/-- The spelling of a list of texts: quoted, with commas, between square brackets. -/
def quotedList (xs : List String) : String :=
  "[" ++ ", ".intercalate (xs.map quoted) ++ "]"

end Text

end LoggingProvider
