import LoggingProvider.Domain.Direction
import LoggingProvider.Domain.Joining
import LoggingProvider.Domain.Punycode
import LoggingProvider.Text.Canonical.Composition
import LoggingProvider.Text.Utf8

/-!
# Domain names

A domain name is a row of labels with points between them. Its characters are brought to one
spelling and composed; a label written in ASCII for letters beyond it is decoded. A name is refused
if a character is left that no domain name admits, or a label that would not be seen as it is
written.

## Main definitions

* `Domain.labels`: the labels of a name
* `Domain.fold?`: a text in the spelling of domain names
* `Domain.label?`: the label that a folded label stands for
* `Domain.name?`: the domain name that bytes spell
-/

namespace LoggingProvider

namespace Domain

/-- The labels of a domain name. -/
def labels : List Char → List (List Char)
  | [] => [[]]
  | '.' :: rest => [] :: labels rest
  | c :: rest =>
    match labels rest with
    | label :: more => (c :: label) :: more
    | [] => [[c]]

/-- The characters of ASCII that no domain name admits, controls apart. -/
def deniedMarks : List Char :=
  ['%', '#', '/', ':', '<', '>', '?', '@', '[', '\\', ']', '^', '|', ' ']

/-- Whether no domain name admits a character of ASCII. -/
def isDenied (c : Char) : Bool :=
  c.toNat < 0x20 || c.toNat = 0x7f || c ∈ deniedMarks

/-- **The text in the spelling of domain names.** -/
def fold? (cs : List Char) : Option (List Char) :=
  (cs.mapM spelling?).map fun parts => Text.composed parts.flatten

/-! ## Labels -/

/-- Whether a text is one of ASCII. -/
def isPlain (cs : List Char) : Bool :=
  cs.all fun c => c.toNat < 0x80

/-- The largest number of characters in a label with letters beyond ASCII. -/
def longestLabel : Nat := 1000

/-- The largest number of characters that are decoded. -/
def longestEncoding : Nat := 2000

/-- Whether a label is seen as it is written. -/
def isFit (label : List Char) : Bool :=
  !label.head?.any Text.isMark && Joining.isAllowed label
    && (isPlain label || label.length ≤ longestLabel)

/-- The label that a text spells in ASCII. It must be in the spelling of domain names and must need
its encoding. -/
def encodedLabel? (cs : List Char) : Option (List Char) := do
  if !isPlain cs || cs.isEmpty || cs.getLast? = some '-' || longestEncoding < cs.length then none
  let label ← Punycode.decode? cs
  if fold? label = some label then some label else none

/-- **The label that a folded label stands for.** -/
def label? (cs : List Char) : Option (List Char) := do
  let label ←
    match cs with
    | 'x' :: 'n' :: '-' :: '-' :: rest => encodedLabel? rest
    | cs => some cs
  if isFit label then some label else none

/-! ## Names -/

/-- Whether the labels of a name read the same everywhere. -/
def isOrdered (parts : List (List Char)) : Bool :=
  !parts.any (·.any Direction.runsLeft) || parts.all Direction.isOrdered

/-- The name with some labels. -/
def ofLabels (parts : List (List Char)) : List Char :=
  ['.'].intercalate parts

/-- **The domain name that bytes spell**; nothing when they spell none. -/
def name? (bytes : Bytes) : Option (List Char) := do
  let text ← Utf8.decode? bytes
  let name ← fold? text.toList
  if name.any isDenied then none
  else
    let parts ← (labels name).mapM label?
    if isOrdered parts then some (ofLabels parts) else none

end Domain

end LoggingProvider
