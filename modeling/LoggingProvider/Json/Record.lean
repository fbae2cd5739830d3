import LoggingProvider.Json.Reader

/-!
# Reading records

A record is read from an object that may hold more than the record. Members of other names are
passed over: only their grammar is checked, not the size of their numbers, the code points in their
texts, or how deep they go.

## Main definitions

* `Json.Parts.skimmed`: texts and numbers passed over
* `Json.skim`: a document passed over
* `Json.readRecord`: an object, its members of other names passed over
* `Json.record?`, `Json.records?`: a byte sequence that holds a record, or a list of records
-/

namespace LoggingProvider

namespace Json

/-! ## Passing over -/

/-- The place after an escape, whose backslash was read before. -/
def skimEscape (c : Cursor) : Except SyntaxFault Cursor :=
  if c.rest.isEmpty then .error (c.fault .endInString)
  else if c.peek? = some 'u' then (readHex c.advance).map Prod.snd
  else if c.peek?.any (· ∈ ['"', '\\', '/', 'b', 'f', 'n', 'r', 't']) then .ok c.advance
  else .error (c.faultNext .invalidEscape)

/-- The place after the closing quote of a text. The first argument bounds the length. -/
def skimStringFrom : Nat → Cursor → Except SyntaxFault Cursor
  | 0, c => .error (c.fault .endInString)
  | bound + 1, c =>
    match c.rest with
    | [] => .error (c.fault .endInString)
    | .scalar '"' :: _ => .ok c.advance
    | .scalar '\\' :: _ => do
      let c ← skimEscape c.advance
      skimStringFrom bound c
    | .scalar d :: _ =>
      if d.toNat < 0x20 then .error (c.advance.fault .controlCharacter)
      else skimStringFrom bound c.advance
    | .stray _ :: _ => skimStringFrom bound c.advance

/-- The place after a text, whose opening quote was read before. -/
def skimString (c : Cursor) : Except SyntaxFault Cursor :=
  skimStringFrom (c.rest.length + 1) c

/-- The place after at least one decimal digit. -/
def skimDigits (c : Cursor) : Except SyntaxFault Cursor :=
  let (digits, after) := readDigits c
  if digits.isEmpty then .error (c.faultNext .invalidNumber) else .ok after

/-- The place after a number, whose sign was read before. -/
def skimNumber (c : Cursor) : Except SyntaxFault Cursor := do
  let after ← skimDigits c
  if c.peek? = some '0' && (readDigits c).1.length ≠ 1 then
    throw (c.advance.faultNext .invalidNumber)
  let after ← if after.peek? = some '.' then skimDigits after.advance else pure after
  if after.peek? = some 'e' || after.peek? = some 'E' then
    let c := after.advance
    skimDigits (if c.peek? = some '-' || c.peek? = some '+' then c.advance else c)
  else return after

/-- Texts and numbers passed over; an empty text and zero stand for them. -/
def Parts.skimmed : Parts :=
  ⟨fun c => (skimString c).map ("", ·), fun _ c => (skimNumber c).map (.natural 0, ·)⟩

/-- **The place after a document**, however deep it goes: no more arrays and objects can be open
than there are characters. -/
def skim (c : Cursor) : Except SyntaxFault Cursor :=
  (readValue .skimmed c.rest.length c).map Prod.snd

/-! ## Records -/

/-- **An object with the members of some names**; null stands for the values of the others. What is
no object is read as it is. The second argument is the number of arrays and objects that may still
be opened inside. -/
def readRecord (names : List String) (depth : Nat) (c : Cursor) :
    Except SyntaxFault (Json × Cursor) :=
  let c := c.skipBlanks
  let value (name : String) (c : Cursor) :=
    if name ∈ names then readValue .exact depth c else (skim c).map (.null, ·)
  if c.peek? = some openingBrace then
    (readMembers readString value c.rest.length true c.advance).map fun (ms, c) => (.object ms, c)
  else readValue .exact (depth + 1) c

/-- An array of records. -/
def readRecords (names : List String) (depth : Nat) (c : Cursor) :
    Except SyntaxFault (List Json × Cursor) :=
  let c := c.skipBlanks
  if c.peek? = some '[' then
    readItems (readRecord names (depth - 1)) c.rest.length true c.advance
  else .error (c.faultNext .expectedValue)

/-- **The record in a byte sequence**, if it holds one. -/
def record? (names : List String) (bytes : Bytes) : Option Json :=
  (readWhole (readRecord names (depthLimit - 1)) (Utf8.pieces bytes)).toOption

/-- **The records in a byte sequence**, if it holds a list of them. -/
def records? (names : List String) (bytes : Bytes) : Option (List Json) :=
  (readWhole (readRecords names (depthLimit - 1)) (Utf8.pieces bytes)).toOption

end Json

end LoggingProvider
