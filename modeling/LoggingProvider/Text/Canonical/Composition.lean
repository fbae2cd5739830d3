import LoggingProvider.Text.Canonical.Decomposition
import LoggingProvider.Text.Canonical.Order

/-!
# Composed texts

Two spellings of a text that differ in composites and in the order of marks alone have one composed
form: every character is decomposed, the marks are put in order, and each mark is then joined to the
letter before it where a composite for the two exists and no mark between them stands in the way.

## Main definitions

* `Text.composite?`: the composite of two characters
* `Text.compose`: the composed form of a decomposed text in canonical order
* `Text.composed`: the composed form of a text
-/

namespace LoggingProvider

namespace Text

/-- The composite of two characters. -/
def composite? (a b : Char) : Option Char :=
  match Hangul.join? a b with
  | some c => some c
  | none =>
    (composites.find? fun e => e.2.1 = a.toNat && e.2.2 = b.toNat).map fun e => Char.ofNat e.1

/-- A letter, the marks after it that stay, last first, and the text after those, composed. A
character is not joined to the letter across a mark whose class is not smaller. -/
def composeAfter (letter : Char) (kept : List Char) : List Char → List Char
  | [] => letter :: kept.reverse
  | c :: rest =>
    let blocked := kept.head?.any fun m => combiningClass c ≤ combiningClass m
    match if blocked then none else composite? letter c with
    | some joined => composeAfter joined kept rest
    | none =>
      if combiningClass c = 0 then letter :: (kept.reverse ++ composeAfter c [] rest)
      else composeAfter letter (c :: kept) rest

/-- **The composed form of a decomposed text in canonical order.** -/
def compose : List Char → List Char
  | [] => []
  | c :: rest => if combiningClass c = 0 then composeAfter c [] rest else c :: compose rest

/-- **The composed form of a text.** -/
def composed (cs : List Char) : List Char :=
  if cs.all fun c => c.toNat < 0x300 then cs else compose (reorder (cs.flatMap decompose))

end Text

end LoggingProvider
