import LoggingProvider.Json.Reader
import Mathlib.Data.List.Basic
import Mathlib.Tactic.IntervalCases

/-!
# Reading what was written

A reader reads a text as a value if, wherever the text stands, it takes exactly the text and gives
the value. The readers of texts, numbers, words, lists and objects read the compact spelling of
each; a number has to be followed by something that ends it.

## Main definitions

* `Json.Reads`: a reader reads a text as a value, before some pieces
* `Json.Ended`: the pieces that may follow a value in a compact text

## Main results

* `Json.reads_readString`: texts
* `Json.reads_readNumber`: integers
* `Json.reads_readItems`, `Json.reads_readMembers`: lists and objects, if their values are read
-/

namespace LoggingProvider

namespace Json

open Utf8 (Piece)

variable {α : Type}

/-- **A reader reads a text as a value**: where the text stands before some pieces, the reader gives
the value and leaves the pieces. -/
def Reads (read : Cursor → Except SyntaxFault (α × Cursor)) (text : List Char) (a : α)
    (rest : List Piece) : Prop :=
  ∀ c : Cursor, c.rest = text.map .scalar ++ rest → ∃ c', read c = .ok (a, c') ∧ c'.rest = rest

/-! ## Places -/

namespace Cursor

variable {c : Cursor} {d : Char} {rest : List Piece}

theorem advance_rest (h : c.rest = .scalar d :: rest) : c.advance.rest = rest := by
  obtain ⟨pieces, line, column⟩ := c
  subst h
  unfold advance
  split <;> simp_all

theorem peek?_of_rest (h : c.rest = .scalar d :: rest) : c.peek? = some d := by
  rw [peek?, h]
  rfl

theorem isEmpty_of_rest (h : c.rest = .scalar d :: rest) : c.rest.isEmpty = false := by
  rw [h]
  rfl

/-- The blanks between the parts of a text. -/
def blanks : List Char := ['\n', ' ', '\t', '\r']

theorem skipBlanks_of_rest (h : c.rest = .scalar d :: rest) (hd : d ∉ blanks) :
    c.skipBlanks = c := by
  obtain ⟨pieces, line, column⟩ := c
  subst h
  simp only [blanks, List.mem_cons, List.not_mem_nil, or_false, not_or] at hd
  obtain ⟨hnewline, hspace, htab, hreturn⟩ := hd
  unfold skipBlanks skipBlanks.go
  split <;> simp_all

theorem skipBlanks_of_nil (h : c.rest = []) : c.skipBlanks = c := by
  obtain ⟨pieces, line, column⟩ := c
  subst h
  rfl

end Cursor

/-! ## Texts -/

theorem hexValue?_hexDigit {n : Nat} (h : n < 16) : hexValue? (hexDigit n) = some n := by
  interval_cases n <;> rfl

theorem escaped_ne_nil (d : Char) : escaped d ≠ [] := by
  unfold escaped
  split_ifs <;> exact List.cons_ne_nil _ _

/-- The four digits of a control character. -/
theorem readHex_of_rest {c : Cursor} {n : Nat} {rest : List Piece} (hn : n < 256)
    (h : c.rest = .scalar '0' :: .scalar '0' :: .scalar (hexDigit (n / 16)) ::
      .scalar (hexDigit (n % 16)) :: rest) :
    ∃ c', readHex c = .ok (n, c') ∧ c'.rest = rest := by
  have hhigh := hexValue?_hexDigit (n := n / 16) (by omega)
  have hlow := hexValue?_hexDigit (n := n % 16) (by omega)
  have hzero : hexValue? '0' = some 0 := rfl
  have hvalue : ((0 * 16 + 0) * 16 + n / 16) * 16 + n % 16 = n := by omega
  refine ⟨c.advance.advance.advance.advance, ?_, ?_⟩
  · simp only [readHex, h, hzero, hhigh, hlow, hvalue]
  · exact Cursor.advance_rest (Cursor.advance_rest (Cursor.advance_rest (Cursor.advance_rest h)))

theorem readEscape_control {c : Cursor} {d : Char} {rest : List Piece} (hd : d.toNat < 0x20)
    (h : c.rest = .scalar 'u' :: .scalar '0' :: .scalar '0' :: .scalar (hexDigit (d.toNat / 16)) ::
      .scalar (hexDigit (d.toNat % 16)) :: rest) :
    ∃ c', readEscape c = .ok (d, c') ∧ c'.rest = rest := by
  obtain ⟨c', hread, hrest⟩ := readHex_of_rest (by omega) (Cursor.advance_rest h)
  refine ⟨c', ?_, hrest⟩
  have hlow : ¬(0xdc00 ≤ d.toNat ∧ d.toNat ≤ 0xdfff) := by omega
  have hhigh : ¬(0xd800 ≤ d.toNat ∧ d.toNat ≤ 0xdbff) := by omega
  simp only [readEscape, Cursor.isEmpty_of_rest h, Cursor.peek?_of_rest h, hread]
  simp [bind, Except.bind, pure, Except.pure, hlow, hhigh]

theorem readStringFrom_of_escape {c c' : Cursor} {d : Char} {rest : List Piece}
    (h : c.rest = .scalar '\\' :: rest) (he : readEscape c.advance = .ok (d, c')) (bound : Nat)
    (done : List Char) (stray : Bool) :
    readStringFrom (bound + 1) done stray c = readStringFrom bound (d :: done) stray c' := by
  simp only [readStringFrom, h, he]
  rfl

/-- The characters after the backslash of a short escape, and the characters they stand for. -/
def shortEscapes : List (Char × Char) :=
  [('"', '"'), ('\\', '\\'), ('b', Char.ofNat 0x08), ('t', '\t'), ('n', '\n'),
    ('f', Char.ofNat 0x0c), ('r', '\r')]

theorem readStringFrom_short {c : Cursor} {e d : Char} {rest : List Piece}
    (he : (e, d) ∈ shortEscapes) (h : c.rest = .scalar '\\' :: .scalar e :: rest) :
    ∃ c', c'.rest = rest ∧ ∀ bound done stray, readStringFrom (bound + 1) done stray c =
      readStringFrom bound (d :: done) stray c' := by
  have hnext := Cursor.advance_rest h
  have hread : readEscape c.advance = .ok (d, c.advance.advance) := by
    simp only [readEscape, Cursor.isEmpty_of_rest hnext, Cursor.peek?_of_rest hnext]
    simp only [shortEscapes, List.mem_cons, List.not_mem_nil, or_false, Prod.mk.injEq] at he
    rcases he with ⟨rfl, rfl⟩ | ⟨rfl, rfl⟩ | ⟨rfl, rfl⟩ | ⟨rfl, rfl⟩ | ⟨rfl, rfl⟩ | ⟨rfl, rfl⟩ |
      ⟨rfl, rfl⟩ <;> rfl
  exact ⟨c.advance.advance, Cursor.advance_rest hnext, readStringFrom_of_escape h hread⟩

/-- **The spelling of a character is read as the character.** -/
theorem readStringFrom_escaped {c : Cursor} {d : Char} {rest : List Piece}
    (h : c.rest = (escaped d).map .scalar ++ rest) : ∃ c', c'.rest = rest ∧
      ∀ bound done stray, readStringFrom (bound + 1) done stray c =
        readStringFrom bound (d :: done) stray c' := by
  have hcode {n : Nat} (hd : d.toNat = n) : d = Char.ofNat n := by rw [← hd, Char.ofNat_toNat]
  unfold escaped at h
  split_ifs at h with hquote hbackslash hbackspace htab hnewline hfeed hreturn hcontrol
  · exact readStringFrom_short (by simp [shortEscapes, hquote]) h
  · exact readStringFrom_short (by simp [shortEscapes, hbackslash]) h
  · exact readStringFrom_short (by rw [hcode hbackspace]; simp [shortEscapes]) h
  · exact readStringFrom_short (by simp [shortEscapes, htab]) h
  · exact readStringFrom_short (by simp [shortEscapes, hnewline]) h
  · exact readStringFrom_short (by rw [hcode hfeed]; simp [shortEscapes]) h
  · exact readStringFrom_short (by simp [shortEscapes, hreturn]) h
  · obtain ⟨c', hread, hrest⟩ := readEscape_control hcontrol (Cursor.advance_rest h)
    exact ⟨c', hrest, readStringFrom_of_escape h hread⟩
  · -- A character without an escape is none of those at which the reader does something else.
    refine ⟨c.advance, Cursor.advance_rest h, fun bound done stray => ?_⟩
    have hrest : c.rest = .scalar d :: rest := h
    rw [readStringFrom, hrest]
    split
    · next heq => cases heq
    · next heq => exact absurd (Piece.scalar.inj (List.cons.inj heq).1) hquote
    · next heq => exact absurd (Piece.scalar.inj (List.cons.inj heq).1) hbackslash
    · next heq =>
      obtain rfl := Piece.scalar.inj (List.cons.inj heq).1
      exact if_neg hcontrol
    · next heq => cases heq

theorem length_le_flatMap_escaped (cs : List Char) : cs.length ≤ (cs.flatMap escaped).length := by
  induction cs with
  | nil => exact Nat.le_refl 0
  | cons d cs ih =>
    have hpos := List.length_pos_iff.2 (escaped_ne_nil d)
    rw [List.flatMap_cons, List.length_append, List.length_cons]
    omega

/-- The spellings of several characters are read one after another. -/
theorem readStringFrom_flatMap {cs : List Char} {c : Cursor} {rest : List Piece} {bound : Nat}
    (hbound : cs.length < bound)
    (h : c.rest = (cs.flatMap escaped ++ ['"']).map .scalar ++ rest) (done : List Char) :
    ∃ c', readStringFrom bound done false c = .ok (String.ofList (done.reverse ++ cs), c') ∧
      c'.rest = rest := by
  obtain ⟨bound, rfl⟩ := Nat.exists_eq_add_one_of_ne_zero (Nat.ne_zero_of_lt hbound)
  -- The characters read so far are gathered in reverse, and each step uses up one of the bound.
  induction cs generalizing c done bound with
  | nil =>
    have hrest : c.rest = .scalar '"' :: rest := h
    refine ⟨c.advance, ?_, Cursor.advance_rest hrest⟩
    simp [readStringFrom, hrest]
  | cons d cs ih =>
    rw [List.flatMap_cons, List.append_assoc, List.map_append, List.append_assoc] at h
    obtain ⟨c', hrest, hstep⟩ := readStringFrom_escaped h
    obtain ⟨bound, rfl⟩ := Nat.exists_eq_add_one_of_ne_zero
      (Nat.ne_zero_of_lt (Nat.lt_of_succ_lt_succ hbound))
    obtain ⟨c'', hread, hend⟩ := ih hrest (d :: done) bound (Nat.lt_of_succ_lt_succ hbound)
    refine ⟨c'', ?_, hend⟩
    rw [hstep, hread, List.reverse_cons, List.append_assoc]
    rfl

/-- **The quoted spelling of a text is read as the text**, after its opening quote. -/
theorem reads_readString (s : String) (rest : List Piece) :
    Reads readString (s.toList.flatMap escaped ++ ['"']) s rest := by
  intro c h
  have hbound : s.toList.length < c.rest.length + 1 := by
    have hlength := length_le_flatMap_escaped s.toList
    rw [h, List.length_append, List.length_map, List.length_append]
    omega
  obtain ⟨c', hread, hend⟩ := readStringFrom_flatMap hbound h []
  refine ⟨c', ?_, hend⟩
  rw [readString, hread, List.reverse_nil, List.nil_append, String.ofList_toList]

/-! ## Numbers -/

/-- **The pieces that may follow a value** in a compact text: none, a comma, or what closes a list
or an object. -/
def Ended (rest : List Piece) : Prop :=
  ∀ p, rest.head? = some p → p ∈ [.scalar ',', .scalar ']', .scalar closingBrace]

theorem ended_nil : Ended [] := by simp [Ended]

theorem digitValue?_of_mem_toDigits {n : Nat} {d : Char} (h : d ∈ Nat.toDigits 10 n) :
    digitValue? d = some (d.toNat - '0'.toNat) := by
  have hdigit : d.isDigit = true := Nat.isDigit_of_mem_toDigits (by omega) (by omega) h
  exact if_pos hdigit

theorem digitValue?_eq_zero {d : Char} (h : digitValue? d = some 0) : d = '0' := by
  unfold digitValue? at h
  split_ifs at h with hdigit
  simp only [Bool.and_eq_true, decide_eq_true_eq] at hdigit
  have hlow : '0'.toNat ≤ d.toNat := hdigit.1
  have hzero : d.toNat - '0'.toNat = 0 := Option.some.inj h
  exact Char.toNat_inj.1 (by omega)

/-- Digits are read up to what ends them. -/
theorem readDigits_go (cs : List Char) {value : Char → Nat} {rest : List Piece}
    (hcs : ∀ d ∈ cs, digitValue? d = some (value d)) (hrest : Ended rest) :
    readDigits.go (cs.map .scalar ++ rest) = (cs.map value, rest) := by
  induction cs with
  | nil =>
    rcases rest with _ | ⟨p, more⟩
    · rfl
    · have hp := hrest p rfl
      simp only [List.mem_cons, List.not_mem_nil, or_false] at hp
      rcases hp with rfl | rfl | rfl <;> rfl
  | cons d cs ih =>
    obtain ⟨hd, hmore⟩ := List.forall_mem_cons.1 hcs
    simp only [List.map_cons, List.cons_append, readDigits.go, hd, ih hmore]

theorem le_ofDigitChars (cs : List Char) (n : Nat) : n ≤ Nat.ofDigitChars 10 cs n := by
  induction cs generalizing n with
  | nil => exact Nat.le_refl n
  | cons d cs ih =>
    rw [Nat.ofDigitChars_cons]
    exact Nat.le_trans (by omega) (ih _)

/-- Digits are gathered into the number they denote, if it is within the limit. -/
theorem gather_map (limit : Nat) (cs : List Char) (n : Nat)
    (h : Nat.ofDigitChars 10 cs n ≤ limit) :
    gather limit n (cs.map fun d => d.toNat - '0'.toNat) = (Nat.ofDigitChars 10 cs n, []) := by
  induction cs generalizing n with
  | nil => rfl
  | cons d cs ih =>
    rw [Nat.ofDigitChars_cons] at h ⊢
    have hstep : ¬limit < 10 * n + (d.toNat - '0'.toNat) :=
      Nat.not_lt.2 (Nat.le_trans (le_ofDigitChars cs _) h)
    rw [List.map_cons, gather, if_neg hstep]
    exact ih _ h

/-- The digits of a number start with zero only if it is zero. -/
theorem head?_toDigits (n : Nat) : (Nat.toDigits 10 n).head? = some '0' → n = 0 := by
  induction n using Nat.strongRecOn with
  | ind n ih =>
    rw [Nat.toDigits_eq_if (by omega)]
    split_ifs with hn
    · intro h
      exact Nat.digitChar_eq_zero.1 (Option.some.inj h)
    · intro h
      rw [List.head?_append_of_ne_nil _ Nat.toDigits_ne_nil] at h
      have := ih (n / 10) (by omega) h
      omega

/-- What ends a value is no point and no mark of an exponent. -/
theorem Ended.peek? {c : Cursor} (h : Ended c.rest) :
    c.peek? ≠ some '.' ∧ c.peek? ≠ some 'e' ∧ c.peek? ≠ some 'E' := by
  unfold Cursor.peek?
  rcases hhead : c.rest.head? with _ | p
  · simp
  · have hp := h p hhead
    simp only [List.mem_cons, List.not_mem_nil, or_false] at hp
    rcases hp with rfl | rfl | rfl <;> decide

/-- Digits without a superfluous zero that are followed by what ends them are an integer. -/
theorem readNumber_of_digits {negative : Bool} {c after : Cursor} {whole : List Nat} {n : Nat}
    {number : Number} (hc : c.rest.isEmpty = false) (hdigits : readDigits c = (whole, after))
    (hne : whole ≠ []) (hzero : ∀ d more, whole ≠ 0 :: d :: more)
    (hgather : gather largestSignificand 0 whole = (n, []))
    (hnumber : Number.ofInt? negative n = some number) (hafter : Ended after.rest) :
    readNumber negative c = .ok (number, after) := by
  obtain ⟨hpoint, hsmall, hlarge⟩ := hafter.peek?
  unfold readNumber
  rw [hc, hdigits]
  simp only [hgather, hnumber]
  rfl

/-- **An integer's digits are read as the integer** by the reader of numbers. -/
theorem reads_readNumber {negative : Bool} {n : Nat} {number : Number}
    (hn : n ≤ largestSignificand) (hnumber : Number.ofInt? negative n = some number)
    {rest : List Piece} (hrest : Ended rest) :
    Reads (readNumber negative) (Nat.toDigits 10 n) number rest := by
  intro c h
  have hread := readDigits_go (Nat.toDigits 10 n) (fun d => digitValue?_of_mem_toDigits) hrest
  have hgather := gather_map largestSignificand (Nat.toDigits 10 n) 0
    (by rw [Nat.ofDigitChars_ten_toDigits]; exact hn)
  rw [Nat.ofDigitChars_ten_toDigits] at hgather
  -- Only zero has a zero for its first digit, and zero has no other digit.
  have hzero : ∀ d more, (Nat.toDigits 10 n).map (fun d => d.toNat - '0'.toNat) ≠
      0 :: d :: more := by
    intro d more heq
    obtain ⟨e, tail, hdigits, he, htail⟩ := List.map_eq_cons_iff.1 heq
    have hvalue := digitValue?_of_mem_toDigits (hdigits ▸ List.mem_cons_self : e ∈ _)
    have hdigit : e = '0' := digitValue?_eq_zero (he ▸ hvalue)
    have hn : n = 0 := head?_toDigits n (by rw [hdigits, hdigit]; rfl)
    rw [hn, Nat.toDigits_zero] at hdigits
    rw [← (List.cons.inj hdigits).2] at htail
    cases htail
  have hempty : c.rest.isEmpty = false := by
    rw [h]
    simp [Nat.toDigits_ne_nil]
  refine ⟨_, readNumber_of_digits hempty (by rw [readDigits, h, hread]) ?_ hzero hgather hnumber
    hrest, rfl⟩
  simp [Nat.toDigits_ne_nil]

/-! ## Words -/

theorem reads_readWord (word : List Char) (v : Json) (rest : List Piece) :
    Reads (readWord word v) word v rest := by
  induction word with
  | nil => exact fun c h => ⟨c, rfl, h⟩
  | cons d word ih =>
    intro c h
    obtain ⟨c', hread, hend⟩ := ih c.advance (Cursor.advance_rest h)
    refine ⟨c', ?_, hend⟩
    rw [readWord, Cursor.isEmpty_of_rest h, Cursor.peek?_of_rest h, if_neg (by simp), if_pos rfl]
    exact hread

/-! ## Lists and objects -/

/-- The characters that start a value or a name: neither blanks nor what stands between values. -/
def Opens (text : List Char) : Prop :=
  ∃ d more, text = d :: more ∧ d ∉ Cursor.blanks ∧ d ∉ [',', ']', closingBrace]

theorem readComma_of_rest {close : Char} {expected : SyntaxCause} {c : Cursor} {d : Char}
    {rest : List Piece} (h : c.rest = .scalar ',' :: .scalar d :: rest)
    (hblank : d ∉ Cursor.blanks) (hclose : d ≠ close) :
    readComma close expected c = .ok c.advance := by
  have hnext := Cursor.advance_rest h
  have hopen : some d ≠ some close := fun heq => hclose (Option.some.inj heq)
  simp only [readComma, Cursor.peek?_of_rest h, Cursor.skipBlanks_of_rest hnext hblank,
    Cursor.isEmpty_of_rest hnext, Cursor.peek?_of_rest hnext, if_pos, if_neg hopen]
  rfl

theorem readColon_of_rest {c : Cursor} {rest : List Piece} (h : c.rest = .scalar ':' :: rest) :
    readColon c = .ok c.advance := by
  simp only [readColon, Cursor.skipBlanks_of_rest h (by decide), Cursor.isEmpty_of_rest h,
    Cursor.peek?_of_rest h, if_pos]
  rfl

/-- The spellings of several things, each after a comma. -/
def afterCommas (text : α → List Char) (vs : List α) : List Char :=
  vs.flatMap fun v => ',' :: text v

/-- The spellings of several things, with commas between them. -/
def separated (text : α → List Char) : List α → List Char
  | [] => []
  | v :: vs => text v ++ afterCommas text vs

/-- What follows a thing in a list is the next comma or what closes the list. -/
theorem ended_afterCommas {close : Char} (hclose : close ∈ [']', closingBrace])
    (text : α → List Char) (vs : List α) (rest : List Piece) :
    Ended ((afterCommas text vs ++ [close]).map .scalar ++ rest) := by
  intro p hp
  cases vs with
  | nil =>
    obtain rfl := Option.some.inj hp
    rcases List.mem_pair.1 hclose with rfl | rfl <;> simp
  | cons v vs =>
    obtain rfl := Option.some.inj hp
    exact List.mem_cons_self

theorem rest_of_afterCommas {text : α → List Char} {v : α} {vs : List α} {close : Char}
    {rest pieces : List Piece}
    (h : pieces = (afterCommas text (v :: vs) ++ [close]).map .scalar ++ rest) :
    pieces = .scalar ',' :: ((text v).map .scalar ++
      ((afterCommas text vs ++ [close]).map .scalar ++ rest)) := by
  rw [h]
  simp [afterCommas]

section Items

variable {item : Cursor → Except SyntaxFault (α × Cursor)} {text : α → List Char} {vs : List α}
  {rest : List Piece} {bound : Nat}

theorem readItems_cons {first : Bool} {c c₁ c₂ c₃ : Cursor} {d : Char} {more : List Piece}
    {v : α} (h : c.rest = .scalar d :: more) (hblank : d ∉ Cursor.blanks) (hclose : d ≠ ']')
    (hstart : (if first then pure c else readComma ']' .expectedListEnd c) = .ok c₁)
    (hv : item c₁ = .ok (v, c₂)) (hvs : readItems item bound false c₂ = .ok (vs, c₃)) :
    readItems item (bound + 1) first c = .ok (v :: vs, c₃) := by
  have hopen : some d ≠ some ']' := fun heq => hclose (Option.some.inj heq)
  rw [readItems, Cursor.skipBlanks_of_rest h hblank, Cursor.isEmpty_of_rest h,
    Cursor.peek?_of_rest h, if_neg (by simp), if_neg hopen]
  cases first with
  | true =>
    obtain rfl := Except.ok.inj hstart
    simp only [if_pos, bind, Except.bind, pure, Except.pure, hv, hvs]
  | false =>
    have hcomma : readComma ']' .expectedListEnd c = .ok c₁ := hstart
    simp only [Bool.false_eq_true, if_false, bind, Except.bind, pure, Except.pure, hcomma, hv, hvs]

theorem readItems_nil {first : Bool} {c : Cursor} {rest : List Piece}
    (h : c.rest = .scalar ']' :: rest) :
    readItems item (bound + 1) first c = .ok ([], c.advance) := by
  rw [readItems, Cursor.skipBlanks_of_rest h (by decide), Cursor.isEmpty_of_rest h,
    Cursor.peek?_of_rest h, if_neg (by simp), if_pos rfl]

variable (hitem : ∀ v ∈ vs, ∀ rest, Ended rest → Reads item (text v) v rest)
  (hopens : ∀ v ∈ vs, Opens (text v)) (hbound : vs.length < bound)

include hitem hopens hbound

/-- The items after the first one, each with the comma before it. -/
theorem reads_readItems_more :
    Reads (readItems item bound false) (afterCommas text vs ++ [']']) vs rest := by
  intro c h
  induction vs generalizing c bound with
  | nil =>
    obtain ⟨bound, rfl⟩ := Nat.exists_eq_add_one_of_ne_zero (Nat.ne_zero_of_lt hbound)
    exact ⟨c.advance, readItems_nil h, Cursor.advance_rest h⟩
  | cons v vs ih =>
    obtain ⟨bound, rfl⟩ := Nat.exists_eq_add_one_of_ne_zero (Nat.ne_zero_of_lt hbound)
    obtain ⟨hv, hvs⟩ := List.forall_mem_cons.1 hitem
    obtain ⟨⟨d, more, hd, hblank, hclose⟩, hopens⟩ := List.forall_mem_cons.1 hopens
    have hrest := rest_of_afterCommas h
    have hcomma : readComma ']' .expectedListEnd c = .ok c.advance := by
      rw [hd] at hrest
      exact readComma_of_rest hrest hblank fun heq => hclose (by simp [heq])
    obtain ⟨c', hread, hend⟩ := hv _ (ended_afterCommas (by simp) text vs rest) c.advance
      (Cursor.advance_rest hrest)
    obtain ⟨c'', hmore, hend'⟩ := ih hvs hopens (Nat.lt_of_succ_lt_succ hbound) c' hend
    exact ⟨c'', readItems_cons hrest (by decide) (by decide) hcomma hread hmore, hend'⟩

/-- **The items of a list are read**, with commas between them, if each of them is. -/
theorem reads_readItems :
    Reads (readItems item bound true) (separated text vs ++ [']']) vs rest := by
  intro c h
  obtain ⟨bound, rfl⟩ := Nat.exists_eq_add_one_of_ne_zero (Nat.ne_zero_of_lt hbound)
  cases vs with
  | nil => exact ⟨c.advance, readItems_nil h, Cursor.advance_rest h⟩
  | cons v vs =>
    obtain ⟨hv, hvs⟩ := List.forall_mem_cons.1 hitem
    obtain ⟨⟨d, more, hd, hblank, hclose⟩, hopens⟩ := List.forall_mem_cons.1 hopens
    rw [separated, List.append_assoc, List.map_append, List.append_assoc] at h
    obtain ⟨c', hread, hend⟩ := hv _ (ended_afterCommas (by simp) text vs rest) c h
    obtain ⟨c'', hmore, hend'⟩ :=
      reads_readItems_more hvs hopens (Nat.lt_of_succ_lt_succ hbound) c' hend
    rw [hd] at h
    exact ⟨c'', readItems_cons h hblank (fun heq => hclose (by simp [heq])) rfl hread hmore, hend'⟩

end Items

section Members

/-- The spelling of a member. -/
def memberText (text : α → List Char) (e : String × α) : List Char :=
  quotedChars e.1 ++ ':' :: text e.2

variable {value : String → Cursor → Except SyntaxFault (α × Cursor)} {text : α → List Char}
  {ms : List (String × α)} {rest : List Piece} {bound : Nat}

theorem opens_memberText (text : α → List Char) (e : String × α) : Opens (memberText text e) :=
  ⟨'"', _, rfl, by decide, by decide⟩

/-- The name, the colon and the value of a member are read one after another. -/
theorem exists_readMember {c : Cursor} {e : String × α}
    (hvalue : Reads (value e.1) (text e.2) e.2 rest)
    (h : c.rest = (memberText text e).map .scalar ++ rest) : ∃ c₁ c₂ c₃,
      readString c.advance = .ok (e.1, c₁) ∧ readColon c₁ = .ok c₂ ∧
        value e.1 c₂ = .ok (e.2, c₃) ∧ c₃.rest = rest := by
  have hrest : c.rest = .scalar '"' :: ((e.1.toList.flatMap escaped ++ ['"']).map .scalar ++
      .scalar ':' :: ((text e.2).map .scalar ++ rest)) := by
    rw [h]
    simp [memberText, quotedChars]
  obtain ⟨c₁, hname, hcolon⟩ := reads_readString _ _ c.advance (Cursor.advance_rest hrest)
  obtain ⟨c₃, hread, hend⟩ := hvalue c₁.advance (Cursor.advance_rest hcolon)
  exact ⟨c₁, c₁.advance, c₃, hname, readColon_of_rest hcolon, hread, hend⟩

theorem readMembers_cons {first : Bool} {c c' c₁ c₂ c₃ c₄ : Cursor} {d : Char}
    {more more' : List Piece} {e : String × α} (h : c.rest = .scalar d :: more)
    (hblank : d ∉ Cursor.blanks) (hclose : d ≠ closingBrace)
    (hstart : (if first then pure c else readComma closingBrace .expectedObjectEnd c) = .ok c')
    (hquote : c'.rest = .scalar '"' :: more') (hname : readString c'.advance = .ok (e.1, c₁))
    (hcolon : readColon c₁ = .ok c₂) (hv : value e.1 c₂ = .ok (e.2, c₃))
    (hms : readMembers readString value bound false c₃ = .ok (ms, c₄)) :
    readMembers readString value (bound + 1) first c = .ok (e :: ms, c₄) := by
  have hopen : some d ≠ some closingBrace := fun heq => hclose (Option.some.inj heq)
  rw [readMembers, Cursor.skipBlanks_of_rest h hblank, Cursor.isEmpty_of_rest h,
    Cursor.peek?_of_rest h, if_neg (by simp), if_neg hopen]
  cases first with
  | true =>
    obtain rfl := Except.ok.inj hstart
    simp only [if_pos, bind, Except.bind, pure, Except.pure, Cursor.peek?_of_rest hquote, ne_eq,
      not_true_eq_false, if_false, hname, hcolon, hv, hms]
  | false =>
    have hcomma : readComma closingBrace .expectedObjectEnd c = .ok c' := hstart
    simp only [Bool.false_eq_true, if_false, bind, Except.bind, pure, Except.pure, hcomma,
      Cursor.peek?_of_rest hquote, ne_eq, not_true_eq_false, hname, hcolon, hv, hms]

theorem readMembers_nil {first : Bool} {c : Cursor} {rest : List Piece}
    (h : c.rest = .scalar closingBrace :: rest) :
    readMembers readString value (bound + 1) first c = .ok ([], c.advance) := by
  rw [readMembers, Cursor.skipBlanks_of_rest h (by decide), Cursor.isEmpty_of_rest h,
    Cursor.peek?_of_rest h, if_neg (by simp), if_pos rfl]

variable (hvalue : ∀ e ∈ ms, ∀ rest, Ended rest → Reads (value e.1) (text e.2) e.2 rest)
  (hbound : ms.length < bound)

include hvalue hbound

/-- The members after the first one, each with the comma before it. -/
theorem reads_readMembers_more :
    Reads (readMembers readString value bound false)
      (afterCommas (memberText text) ms ++ [closingBrace]) ms rest := by
  intro c h
  induction ms generalizing c bound with
  | nil =>
    obtain ⟨bound, rfl⟩ := Nat.exists_eq_add_one_of_ne_zero (Nat.ne_zero_of_lt hbound)
    exact ⟨c.advance, readMembers_nil h, Cursor.advance_rest h⟩
  | cons e ms ih =>
    obtain ⟨bound, rfl⟩ := Nat.exists_eq_add_one_of_ne_zero (Nat.ne_zero_of_lt hbound)
    obtain ⟨he, hms⟩ := List.forall_mem_cons.1 hvalue
    have hrest := rest_of_afterCommas h
    have hnext := Cursor.advance_rest hrest
    have hcomma : readComma closingBrace .expectedObjectEnd c = .ok c.advance :=
      readComma_of_rest (d := '"') hrest (by decide) (by decide)
    obtain ⟨c₁, c₂, c₃, hname, hcolon, hread, hend⟩ :=
      exists_readMember (he _ (ended_afterCommas (by simp) _ ms rest)) hnext
    obtain ⟨c₄, hmore, hend'⟩ := ih hms (Nat.lt_of_succ_lt_succ hbound) c₃ hend
    exact ⟨c₄, readMembers_cons hrest (by decide) (by decide) hcomma hnext hname hcolon hread hmore,
      hend'⟩

/-- **The members of an object are read**, with commas between them, if their values are. -/
theorem reads_readMembers :
    Reads (readMembers readString value bound true)
      (separated (memberText text) ms ++ [closingBrace]) ms rest := by
  intro c h
  obtain ⟨bound, rfl⟩ := Nat.exists_eq_add_one_of_ne_zero (Nat.ne_zero_of_lt hbound)
  cases ms with
  | nil => exact ⟨c.advance, readMembers_nil h, Cursor.advance_rest h⟩
  | cons e ms =>
    obtain ⟨he, hms⟩ := List.forall_mem_cons.1 hvalue
    rw [separated, List.append_assoc, List.map_append, List.append_assoc] at h
    obtain ⟨c₁, c₂, c₃, hname, hcolon, hread, hend⟩ :=
      exists_readMember (he _ (ended_afterCommas (by simp) _ ms rest)) h
    obtain ⟨c₄, hmore, hend'⟩ :=
      reads_readMembers_more hms (Nat.lt_of_succ_lt_succ hbound) c₃ hend
    exact ⟨c₄, readMembers_cons (d := '"') h (by decide) (by decide) rfl h hname hcolon hread hmore,
      hend'⟩

end Members

end Json

end LoggingProvider
