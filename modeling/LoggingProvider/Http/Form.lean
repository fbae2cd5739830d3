import LoggingProvider.Url.Percent

/-!
# Forms

A form is a list of names with values, written as one text: letters, digits and four marks stand for
themselves, a space is a plus sign, and any other byte is percent-encoded.

## Main definitions

* `Http.formText`: the text of a form
-/

namespace LoggingProvider

namespace Http

/-- Whether a byte stands for itself in a form. -/
def isPlainInForm (b : UInt8) : Bool :=
  let n := b.toNat
  (0x30 ≤ n && n ≤ 0x39) || (0x41 ≤ n && n ≤ 0x5a) || (0x61 ≤ n && n ≤ 0x7a)
    || n ∈ [0x2a, 0x2d, 0x2e, 0x5f]

/-- A byte in a form. -/
def formByte (b : UInt8) : List Char :=
  if isPlainInForm b then [Char.ofNat b.toNat]
  else if b = 0x20 then ['+']
  else Percent.escape b

/-- A name or a value in a form. -/
def formChars (s : String) : List Char :=
  (Utf8.encode s).flatMap formByte

/-- **The text of a form.** -/
def formText (entries : List (String × String)) : String :=
  String.ofList
    (List.intercalate ['&'] (entries.map fun e => formChars e.1 ++ '=' :: formChars e.2))

end Http

end LoggingProvider
