import LoggingProvider.Json.Printer
import LoggingProvider.Json.SyntaxFault

/-!
# Reading documents

A document is read from the left, one piece of the text after another, with the line and the bytes
read in it at hand for the place of a fault. At most 127 arrays and objects are open at a time.

## Main definitions

* `Json.Cursor`: what remains of a text, and the place
* `Json.readString`, `Json.readNumber`, `Json.readItems`, `Json.readMembers`: the parts of a
  document
* `Json.readValue`: a document, its texts and numbers read in a given way
* `Json.parseRaw`: the document of a text, members in the order of the text
* `Json.parse`, `Json.parseBytes`: the document of a text and of its bytes
-/

namespace LoggingProvider

namespace Json

open Utf8 (Piece)

/-- **A place in a text**: the pieces that remain, the line, and the bytes read in the line. -/
structure Cursor where
  /-- What remains. -/
  rest : List Piece
  /-- The line, counted from one. -/
  line : Nat
  /-- The bytes read in the line. -/
  column : Nat

namespace Cursor

/-- The start of a text. -/
def start (pieces : List Piece) : Cursor := ⟨pieces, 1, 0⟩

/-- The next character; nothing at the end and at a stray byte. -/
def peek? (c : Cursor) : Option Char :=
  c.rest.head?.bind Piece.char?

/-- The place after the next piece. -/
def advance : Cursor → Cursor
  | ⟨[], line, column⟩ => ⟨[], line, column⟩
  | ⟨.scalar '\n' :: rest, line, _⟩ => ⟨rest, line + 1, 0⟩
  | ⟨p :: rest, line, column⟩ => ⟨rest, line, column + p.width⟩

/-- A fault at this place. -/
def fault (c : Cursor) (cause : SyntaxCause) : SyntaxFault :=
  ⟨cause, c.line, c.column⟩

/-- A fault at the place after a number of further bytes. -/
def faultAfter (cause : SyntaxCause) : Nat → Cursor → SyntaxFault
  | bytes, ⟨rest, line, column⟩ => go rest bytes line column
where
  /-- The bytes are counted off piece by piece. -/
  go : List Piece → Nat → Nat → Nat → SyntaxFault
    | _, 0, line, column => ⟨cause, line, column⟩
    | [], _, line, column => ⟨cause, line, column⟩
    | .scalar '\n' :: rest, n + 1, line, _ => go rest n (line + 1) 0
    | p :: rest, n + 1, line, column =>
      if p.width ≤ n + 1 then go rest (n + 1 - p.width) line (column + p.width)
      else ⟨cause, line, column + (n + 1)⟩

/-- A fault at the first byte of the next piece; at the end of the text, at its last byte. -/
def faultNext (c : Cursor) (cause : SyntaxCause) : SyntaxFault :=
  faultAfter cause 1 c

/-- The number of bytes that remain. -/
def bytesLeft (c : Cursor) : Nat :=
  c.rest.foldl (fun n p => n + p.width) 0

/-- The place after the blanks that come next. -/
def skipBlanks (c : Cursor) : Cursor :=
  go c.rest c.line c.column
where
  /-- The four blanks of a document's text are skipped. -/
  go : List Piece → Nat → Nat → Cursor
    | .scalar '\n' :: rest, line, _ => go rest (line + 1) 0
    | .scalar ' ' :: rest, line, column => go rest line (column + 1)
    | .scalar '\t' :: rest, line, column => go rest line (column + 1)
    | .scalar '\r' :: rest, line, column => go rest line (column + 1)
    | rest, line, column => ⟨rest, line, column⟩

end Cursor

/-! ## Texts -/

/-- The brace that opens an object. -/
def openingBrace : Char := Char.ofNat 0x7b

/-- The brace that closes an object. -/
def closingBrace : Char := Char.ofNat 0x7d

/-- The value of a hexadecimal digit. -/
def hexValue? (c : Char) : Option Nat :=
  if '0' ≤ c && c ≤ '9' then some (c.toNat - 0x30)
  else if 'a' ≤ c && c ≤ 'f' then some (c.toNat - 0x57)
  else if 'A' ≤ c && c ≤ 'F' then some (c.toNat - 0x37)
  else none

/-- Four hexadecimal digits. -/
def readHex (c : Cursor) : Except SyntaxFault (Nat × Cursor) :=
  match c.rest with
  | .scalar a :: .scalar b :: .scalar d :: .scalar e :: _ =>
    match hexValue? a, hexValue? b, hexValue? d, hexValue? e with
    | some a, some b, some d, some e =>
      .ok (((a * 16 + b) * 16 + d) * 16 + e, c.advance.advance.advance.advance)
    | _, _, _, _ => .error (c.faultAfter .invalidEscape 4)
  | _ =>
    if c.bytesLeft < 4 then .error (c.faultAfter .endInString c.bytesLeft)
    else .error (c.faultAfter .invalidEscape 4)

/-- The second half of a surrogate pair, whose first half was read before. -/
def readLowSurrogate (high : Nat) (c : Cursor) : Except SyntaxFault (Char × Cursor) := do
  if c.rest.isEmpty then throw (c.fault .endInString)
  if c.peek? ≠ some '\\' then throw (c.faultNext .endOfHexEscape)
  let c := c.advance
  if c.rest.isEmpty then throw (c.fault .endInString)
  if c.peek? ≠ some 'u' then throw (c.faultNext .endOfHexEscape)
  let (low, c) ← readHex c.advance
  if low < 0xdc00 || 0xdfff < low then throw (c.fault .loneSurrogate)
  return (Char.ofNat (0x10000 + (high - 0xd800) * 0x400 + (low - 0xdc00)), c)

/-- The character of an escape, after the backslash. -/
def readEscape (c : Cursor) : Except SyntaxFault (Char × Cursor) := do
  if c.rest.isEmpty then throw (c.fault .endInString)
  match c.peek? with
  | some '"' => return ('"', c.advance)
  | some '\\' => return ('\\', c.advance)
  | some '/' => return ('/', c.advance)
  | some 'b' => return (Char.ofNat 0x08, c.advance)
  | some 'f' => return (Char.ofNat 0x0c, c.advance)
  | some 'n' => return ('\n', c.advance)
  | some 'r' => return ('\r', c.advance)
  | some 't' => return ('\t', c.advance)
  | some 'u' =>
    let (n, c) ← readHex c.advance
    if 0xdc00 ≤ n && n ≤ 0xdfff then throw (c.fault .loneSurrogate)
    else if 0xd800 ≤ n && n ≤ 0xdbff then readLowSurrogate n c
    else return (Char.ofNat n, c)
  | _ => throw (c.faultNext .invalidEscape)

/-- The characters of a text up to its closing quote, after those read before, in reverse. A text
with a stray byte is refused at its end. The first argument bounds the length. -/
def readStringFrom : Nat → List Char → Bool → Cursor → Except SyntaxFault (String × Cursor)
  | 0, _, _, c => .error (c.fault .endInString)
  | bound + 1, done, stray, c =>
    match c.rest with
    | [] => .error (c.fault .endInString)
    | .scalar '"' :: _ =>
      if stray then .error (c.advance.fault .invalidCodePoint)
      else .ok (String.ofList done.reverse, c.advance)
    | .scalar '\\' :: _ => do
      let (d, c) ← readEscape c.advance
      readStringFrom bound (d :: done) stray c
    | .scalar d :: _ =>
      if d.toNat < 0x20 then .error (c.advance.fault .controlCharacter)
      else readStringFrom bound (d :: done) stray c.advance
    | .stray _ :: _ => readStringFrom bound done true c.advance

/-- A text, after its opening quote. -/
def readString (c : Cursor) : Except SyntaxFault (String × Cursor) :=
  readStringFrom (c.rest.length + 1) [] false c

/-! ## Numbers -/

/-- The value of a decimal digit. -/
def digitValue? (c : Char) : Option Nat :=
  if '0' ≤ c && c ≤ '9' then some (c.toNat - 0x30) else none

/-- The decimal digits that come next. -/
def readDigits (c : Cursor) : List Nat × Cursor :=
  let (digits, rest) := go c.rest
  (digits, ⟨rest, c.line, c.column + digits.length⟩)
where
  /-- The digits and what follows them. -/
  go : List Piece → List Nat × List Piece
    | .scalar d :: rest =>
      match digitValue? d with
      | some n => let (digits, rest) := go rest; (n :: digits, rest)
      | none => ([], .scalar d :: rest)
    | rest => ([], rest)

/-- **Digits gathered into an integer**, as long as it stays within a limit, and the digits left
over. -/
def gather (limit : Nat) : Nat → List Nat → Nat × List Nat
  | n, [] => (n, [])
  | n, d :: rest => if limit < 10 * n + d then (n, d :: rest) else gather limit (10 * n + d) rest

/-- The largest integer into which digits are gathered. -/
def largestSignificand : Nat := 18446744073709551615

/-- The largest exponent. -/
def largestExponent : Nat := 2147483647

/-- The floating-point number of gathered digits, at an exponent. -/
def realOf (negative : Bool) (digits : Nat) (exponent : Int) (c : Cursor) :
    Except SyntaxFault (Number × Cursor) :=
  match Binary64.ofDecimal? digits exponent with
  | some x => .ok (.real (if negative then x.neg else x), c)
  | none => .error (c.fault .numberOutOfRange)

/-- The exponent of a number, after its mark, and the number. -/
def readExponent (negative : Bool) (digits : Nat) (exponent : Int) (c : Cursor) :
    Except SyntaxFault (Number × Cursor) := do
  let down := c.peek? = some '-'
  let c := if c.peek? = some '-' || c.peek? = some '+' then c.advance else c
  if c.rest.isEmpty then throw (c.fault .endInValue)
  let (ds, after) := readDigits c
  if ds.isEmpty then throw (c.faultNext .invalidNumber)
  let (power, left) := gather largestExponent 0 ds
  if left.isEmpty then
    realOf negative digits (if down then exponent - power else exponent + power) after
  else if digits ≠ 0 && !down then
    throw (c.faultAfter .numberOutOfRange (ds.length - left.length + 1))
  else return (.real (if negative then Binary64.zero.neg else .zero), after)

/-- A number, after its sign: an integer part without superfluous zeros, a fraction and an exponent.
A number without fraction and exponent that fits an integer kind is of that kind. Digits that do not
fit the gathered integer count as zeros before the point, and are dropped behind it. -/
def readNumber (negative : Bool) (c : Cursor) : Except SyntaxFault (Number × Cursor) := do
  if c.rest.isEmpty then throw (c.fault .endInValue)
  let (whole, after) := readDigits c
  match whole with
  | [] => throw (c.faultNext .invalidNumber)
  | 0 :: _ :: _ => throw (c.advance.faultNext .invalidNumber)
  | _ =>
    let (digits, surplus) := gather largestSignificand 0 whole
    let exponent : Int := surplus.length
    match after.peek? with
    | some '.' =>
      let c := after.advance
      let (fraction, after) := readDigits c
      if fraction.isEmpty then
        if c.rest.isEmpty then throw (c.fault .endInValue)
        else throw (c.faultNext .invalidNumber)
      let (digits, left) := gather largestSignificand digits fraction
      let exponent := exponent - (fraction.length - left.length : Nat)
      if after.peek? = some 'e' || after.peek? = some 'E' then
        readExponent negative digits exponent after.advance
      else realOf negative digits exponent after
    | some 'e' => readExponent negative digits exponent after.advance
    | some 'E' => readExponent negative digits exponent after.advance
    | _ =>
      if surplus.isEmpty then
        match Number.ofInt? negative digits with
        | some n => return (n, after)
        | none =>
          return (.real (if negative then (Binary64.ofNat digits).neg else .ofNat digits), after)
      else realOf negative digits exponent after

/-! ## Lists and objects -/

/-- The remaining characters of a word. -/
def readWord (word : List Char) (v : Json) (c : Cursor) : Except SyntaxFault (Json × Cursor) :=
  match word with
  | [] => .ok (v, c)
  | d :: word =>
    if c.rest.isEmpty then .error (c.fault .endInValue)
    else if c.peek? = some d then readWord word v c.advance
    else .error (c.faultNext .expectedIdent)

/-- The colon between a name and its value. -/
def readColon (c : Cursor) : Except SyntaxFault Cursor :=
  let c := c.skipBlanks
  if c.rest.isEmpty then .error (c.fault .endInObject)
  else if c.peek? = some ':' then .ok c.advance
  else .error (c.faultNext .expectedColon)

/-- The start of the next item or member, after the comma before it. -/
def readComma (close : Char) (expected : SyntaxCause) (c : Cursor) : Except SyntaxFault Cursor :=
  if c.peek? = some ',' then
    let c := c.advance.skipBlanks
    if c.rest.isEmpty then .error (c.fault .endInValue)
    else if c.peek? = some close then .error (c.faultNext .trailingComma)
    else .ok c
  else .error (c.faultNext expected)

/-- The items of an array up to its end, each read by one reader. The second argument bounds their
number; the third says whether none was read before. -/
def readItems {α : Type} (item : Cursor → Except SyntaxFault (α × Cursor)) :
    Nat → Bool → Cursor → Except SyntaxFault (List α × Cursor)
  | 0, _, c => .error (c.fault .endInList)
  | bound + 1, first, c =>
    let c := c.skipBlanks
    if c.rest.isEmpty then .error (c.fault .endInList)
    else if c.peek? = some ']' then .ok ([], c.advance)
    else do
      let c ← if first then pure c else readComma ']' .expectedListEnd c
      let (v, c) ← item c
      let (vs, c) ← readItems item bound false c
      return (v :: vs, c)

/-- The members of an object up to its end: names read by one reader, values by a reader that knows
the name. The third argument bounds their number; the fourth says whether none was read before. -/
def readMembers {α : Type} (text : Cursor → Except SyntaxFault (String × Cursor))
    (value : String → Cursor → Except SyntaxFault (α × Cursor)) :
    Nat → Bool → Cursor → Except SyntaxFault (List (String × α) × Cursor)
  | 0, _, c => .error (c.fault .endInObject)
  | bound + 1, first, c =>
    let c := c.skipBlanks
    if c.rest.isEmpty then .error (c.fault .endInObject)
    else if c.peek? = some closingBrace then .ok ([], c.advance)
    else do
      let c ← if first then pure c else readComma closingBrace .expectedObjectEnd c
      if c.peek? ≠ some '"' then throw (c.faultNext .keyNotString)
      let (name, c) ← text c.advance
      let c ← readColon c
      let (v, c) ← value name c
      let (ms, c) ← readMembers text value bound false c
      return ((name, v) :: ms, c)

/-! ## Values -/

/-- **How the parts of a document are read**: its texts, after the opening quote, and its numbers,
after the sign. -/
structure Parts where
  /-- The reader of texts. -/
  text : Cursor → Except SyntaxFault (String × Cursor)
  /-- The reader of numbers. -/
  number : Bool → Cursor → Except SyntaxFault (Number × Cursor)

/-- The texts and numbers as they are. -/
def Parts.exact : Parts := ⟨readString, readNumber⟩

/-- **A document.** The second argument is the number of arrays and objects that may still be
opened. -/
def readValue (parts : Parts) (depth : Nat) (c : Cursor) : Except SyntaxFault (Json × Cursor) :=
  let c := c.skipBlanks
  if c.rest.isEmpty then .error (c.fault .endInValue)
  else
    match c.peek? with
    | some 'n' => readWord ['u', 'l', 'l'] .null c.advance
    | some 't' => readWord ['r', 'u', 'e'] (.bool true) c.advance
    | some 'f' => readWord ['a', 'l', 's', 'e'] (.bool false) c.advance
    | some '-' => (parts.number true c.advance).map fun (n, c) => (.number n, c)
    | some '"' => (parts.text c.advance).map fun (s, c) => (.string s, c)
    | some d =>
      if d = '[' || d = openingBrace then
        match depth with
        | 0 => .error (c.faultNext .recursionLimit)
        | depth + 1 =>
          let bound := c.rest.length
          if d = '[' then
            (readItems (readValue parts depth) bound true c.advance).map fun (vs, c) =>
              (.array vs, c)
          else
            (readMembers parts.text (fun _ => readValue parts depth) bound true c.advance).map
              fun (ms, c) => (.object ms, c)
      else if (digitValue? d).isSome then
        (parts.number false c).map fun (n, c) => (.number n, c)
      else .error (c.faultNext .expectedValue)
    | none => .error (c.faultNext .expectedValue)

/-- The number of arrays and objects that may be open at a time. -/
def depthLimit : Nat := 127

/-- A whole text, read by one reader; blanks may follow. -/
def readWhole {α : Type} (read : Cursor → Except SyntaxFault (α × Cursor)) (pieces : List Piece) :
    Except SyntaxFault α := do
  let (v, c) ← read (.start pieces)
  let c := c.skipBlanks
  if c.rest.isEmpty then return v else throw (c.faultNext .trailingCharacters)

/-- The document of a sequence of pieces, members in the order of the text. -/
def parseRaw (pieces : List Piece) : Except SyntaxFault Json :=
  readWhole (readValue .exact depthLimit) pieces

/-- **The document of a text.** -/
def parse (s : String) : Except SyntaxFault Json :=
  (parseRaw (Utf8.ofText s)).map canonical

/-- **The document of a byte sequence.** -/
def parseBytes (bytes : Bytes) : Except SyntaxFault Json :=
  (parseRaw (Utf8.pieces bytes)).map canonical

end Json

end LoggingProvider
