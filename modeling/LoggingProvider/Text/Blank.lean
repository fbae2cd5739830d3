import LoggingProvider.Text.Table

/-!
# Blank characters

The characters that count as blank space, and a text without the blanks at its two ends.

## Main definitions

* `Text.blanks`: the blank characters, as ranges of code points
* `Text.isBlank`: whether a character is one of them
* `Text.trim`: a text without the blanks around it

## Main results

* `Text.trim_trim`: a trimmed text has nothing left to trim
-/

namespace LoggingProvider

namespace Text

/-- The code points with the property `White_Space`. -/
def blanks : List (Nat × Nat) :=
  [(0x9, 0xd), (0x20, 0x20), (0x85, 0x85), (0xa0, 0xa0), (0x1680, 0x1680), (0x2000, 0x200a),
   (0x2028, 0x2029), (0x202f, 0x202f), (0x205f, 0x205f), (0x3000, 0x3000)]

/-- Whether a character is blank. -/
def isBlank (c : Char) : Bool :=
  inRanges blanks c.toNat

/-- The blanks of a character list are dropped at both ends. -/
def trimList (cs : List Char) : List Char :=
  ((cs.dropWhile isBlank).reverse.dropWhile isBlank).reverse

/-- **A text without the blanks around it.** -/
def trim (s : String) : String :=
  String.ofList (trimList s.toList)

/-! ## Trimming twice -/

/-- What remains after `dropWhile` starts with no dropped element. -/
theorem dropWhile_dropWhile (p : Char → Bool) (cs : List Char) :
    (cs.dropWhile p).dropWhile p = cs.dropWhile p := by
  induction cs with
  | nil => rfl
  | cons c cs ih =>
    by_cases h : p c
    · simp [h, ih]
    · simp [h]

/-- Dropping at the end leaves the start as it is. -/
theorem dropWhile_reverse_dropWhile (p : Char → Bool) (cs : List Char)
    (h : cs.dropWhile p = cs) :
    ((cs.reverse.dropWhile p).reverse).dropWhile p = (cs.reverse.dropWhile p).reverse := by
  cases cs with
  | nil => rfl
  | cons c rest =>
    have hc : p c = false := by
      cases hp : p c with
      | false => rfl
      | true =>
        have hlen := congrArg List.length h
        have := (List.dropWhile_suffix p (l := rest)).length_le
        simp [hp] at hlen
        omega
    rw [List.reverse_cons, List.dropWhile_append]
    split
    · simp [hc]
    · rw [List.reverse_append]
      simp [hc]

theorem trimList_trimList (cs : List Char) : trimList (trimList cs) = trimList cs := by
  unfold trimList
  rw [dropWhile_reverse_dropWhile isBlank _ (dropWhile_dropWhile isBlank cs)]
  rw [List.reverse_reverse, dropWhile_dropWhile]

theorem trim_trim (s : String) : trim (trim s) = trim s := by
  simp [trim, trimList_trimList]

end Text

end LoggingProvider
