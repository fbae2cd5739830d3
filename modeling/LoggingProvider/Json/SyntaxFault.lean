/-!
# Faults of a document's text

Where a text stops being a document, and why.

## Main definitions

* `Json.SyntaxCause`: why a text is no document
* `Json.SyntaxFault`: a cause and the place where it shows
* `Json.SyntaxFault.message`: the wording
-/

namespace LoggingProvider

namespace Json

/-- **Why a text is no document.** -/
inductive SyntaxCause where
  | endInValue
  | endInObject
  | endInList
  | endInString
  | expectedValue
  | expectedIdent
  | expectedColon
  | expectedListEnd
  | expectedObjectEnd
  | keyNotString
  | trailingComma
  | trailingCharacters
  | invalidEscape
  | endOfHexEscape
  | loneSurrogate
  | invalidCodePoint
  | invalidNumber
  | numberOutOfRange
  | controlCharacter
  | recursionLimit
deriving DecidableEq

/-- The wording of a cause. -/
def SyntaxCause.message : SyntaxCause → String
  | .endInValue => "EOF while parsing a value"
  | .endInObject => "EOF while parsing an object"
  | .endInList => "EOF while parsing a list"
  | .endInString => "EOF while parsing a string"
  | .expectedValue => "expected value"
  | .expectedIdent => "expected ident"
  | .expectedColon => "expected `:`"
  | .expectedListEnd => "expected `,` or `]`"
  | .expectedObjectEnd => "expected `,` or `\x7d`"
  | .keyNotString => "key must be a string"
  | .trailingComma => "trailing comma"
  | .trailingCharacters => "trailing characters"
  | .invalidEscape => "invalid escape"
  | .endOfHexEscape => "unexpected end of hex escape"
  | .loneSurrogate => "lone leading surrogate in hex escape"
  | .invalidCodePoint => "invalid unicode code point"
  | .invalidNumber => "invalid number"
  | .numberOutOfRange => "number out of range"
  | .controlCharacter => "control character (\\u0000-\\u001F) found while parsing a string"
  | .recursionLimit => "recursion limit exceeded"

/-- **A fault of a text**: the cause and the place. Lines count from one; the column is the number
of bytes read in the line. -/
structure SyntaxFault where
  /-- Why the text is no document. -/
  cause : SyntaxCause
  /-- The line. -/
  line : Nat
  /-- The bytes read in the line. -/
  column : Nat
deriving DecidableEq

/-- The wording of a fault. -/
def SyntaxFault.message (f : SyntaxFault) : String :=
  f.cause.message ++ " at line " ++ toString f.line ++ " column " ++ toString f.column

end Json

end LoggingProvider
