import LoggingProvider.Binary64.Basic

/-!
# Shortest decimals

The decimal text of a binary floating-point number has the fewest digits that still round to that
number, and of those the nearest ones. For a given count of digits only the two neighbours of the
number on that decimal grid can round to it; they are tested in exact arithmetic, for one digit,
two digits, and so on up to seventeen.

## Main definitions

* `Binary64.Interval`: the quotients that round to a number
* `Binary64.shortest`: the digits of a number, and the place of the last one
* `Binary64.text`: the text of a number, positional or with an exponent
-/

namespace LoggingProvider

namespace Binary64

/-- The quotients that round to one number, in quarters of the least positive number. -/
structure Interval where
  /-- The lower end. -/
  low : Nat
  /-- The number itself. -/
  value : Nat
  /-- The upper end. -/
  high : Nat
  /-- Whether the ends round to the number too. -/
  closed : Bool

/-- The interval of a number: half the way to its neighbours. Below a power of two the neighbours
are twice as close. -/
def interval (x : Binary64) : Interval :=
  let value := 4 * x.magnitude
  let half := 2 * Nat.pow 2 x.scale
  { low := value - (if x.fraction.val = 0 && 1 < x.exponent.val then half / 2 else half)
    value := value
    high := value + half
    closed := x.significand % 2 = 0 }

/-- The quarters of the least positive number in one. -/
def quarters : Nat := 4 * unit

/-- Decimal digits and the place of the last of them: `digits` times ten to the power `place`. -/
structure Decimal where
  /-- The digits, read as an integer. -/
  digits : Nat
  /-- The power of ten that the last digit counts. -/
  place : Int
deriving DecidableEq

/-- The exponent of the leading digit of a value below one, found by multiplying with ten. The
first argument bounds the search. -/
def leadingBelow : Nat → Nat → Nat → Int
  | 0, _, k => -(k : Int)
  | bound + 1, value, k =>
    if quarters ≤ value then -(k : Int) else leadingBelow bound (10 * value) (k + 1)

/-- The exponent of the leading digit of a positive value, given in quarters. -/
def leading (value : Nat) : Int :=
  if quarters ≤ value then ((Nat.toDigits 10 (value / quarters)).length : Int) - 1
  else leadingBelow 324 (10 * value) 1

/-- Whether the decimal `digits * num / den` lies in an interval. -/
def Interval.holds (i : Interval) (digits num den : Nat) : Bool :=
  let scaled := digits * num
  if i.closed then i.low * den ≤ scaled && scaled ≤ i.high * den
  else i.low * den < scaled && scaled < i.high * den

/-- The neighbour of the value on the grid of `num / den` that rounds to the number; the nearer one
if both do. -/
def Interval.onGrid? (i : Interval) (num den : Nat) : Option Nat :=
  let below := i.value * den / num
  let rest := i.value * den % num
  match i.holds below num den, i.holds (below + 1) num den with
  | true, true =>
    if 2 * rest < num then some below
    else if num < 2 * rest then some (below + 1)
    else if below % 2 = 0 then some below else some (below + 1)
  | true, false => some below
  | false, true => some (below + 1)
  | false, false => none

/-- The grid of a place, as a quotient of integers in quarters. -/
def grid : Int → Nat × Nat
  | .ofNat k => (quarters * Nat.pow 10 k, 1)
  | .negSucc k => (quarters, Nat.pow 10 (k + 1))

/-- The first of `left` counts of digits, from `count` on, with a decimal that rounds to the
number. -/
def search (i : Interval) (lead : Int) : Nat → Nat → Decimal
  | 0, _ => ⟨0, 0⟩
  | left + 1, count =>
    let place := lead - (count - 1 : Nat)
    match i.onGrid? (grid place).1 (grid place).2 with
    | some digits => ⟨digits, place⟩
    | none => search i lead left (count + 1)

/-- **The shortest decimal of a number**, without its sign. -/
def shortest (x : Binary64) : Decimal :=
  if x.isZero then ⟨0, 0⟩
  else
    let i := x.interval
    search i (leading i.value) 17 1

/-! ## Text -/

/-- The digits of a decimal without trailing zeros, and the exponent of the leading digit. -/
def Decimal.spread (d : Decimal) : List Char × Int :=
  let all := Nat.toDigits 10 d.digits
  let kept := (all.reverse.dropWhile (· = '0')).reverse
  (if kept.isEmpty then ['0'] else kept, d.place + (all.length - 1 : Nat))

/-- The text of digits with the leading digit at an exponent from -5 to 15: positional, with at
least one digit after the point. -/
def positional (digits : List Char) : Int → List Char
  | .negSucc k => '0' :: '.' :: (List.replicate k '0' ++ digits)
  | .ofNat k =>
    if digits.length ≤ k + 1 then digits ++ List.replicate (k + 1 - digits.length) '0' ++ ['.', '0']
    else digits.take (k + 1) ++ '.' :: digits.drop (k + 1)

/-- The text of digits with an exponent: one digit before the point, a signed exponent after the
mark. -/
def exponential (digits : List Char) (exponent : Int) : List Char :=
  let mantissa :=
    match digits with
    | [] => []
    | [d] => [d]
    | d :: rest => d :: '.' :: rest
  let sign := if exponent < 0 then '-' else '+'
  mantissa ++ 'e' :: sign :: Nat.toDigits 10 exponent.natAbs

/-- **The text of a number**: positional when the leading digit stands between the fifth place
after the point and the sixteenth place before it, with an exponent otherwise. -/
def text (x : Binary64) : String :=
  let (digits, exponent) := x.shortest.spread
  let body :=
    if -5 ≤ exponent && exponent ≤ 15 then positional digits exponent
    else exponential digits exponent
  String.ofList (if x.negative then '-' :: body else body)

end Binary64

end LoggingProvider
