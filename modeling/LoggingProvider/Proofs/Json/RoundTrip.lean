import LoggingProvider.Proofs.Dict
import LoggingProvider.Proofs.Json.Printer
import LoggingProvider.Proofs.Json.Reading
import LoggingProvider.Proofs.Json.Same
import LoggingProvider.Proofs.Text.Utf8

/-!
# Documents survive their bytes

A document is read back from its compact text if no floating-point number occurs in it, its members
are in name order, and no more arrays and objects are open in it at a time than the reader allows.

## Main definitions

* `Json.depth`: the number of arrays and objects that are open at a time
* `Json.Portable`: a document that is read back from its bytes

## Main results

* `Json.reads_readValue`: the compact text of a document is read as the document
* `Json.canonical_eq_self`: members in name order stay where they are
* `Json.parseBytes_encode`: a document is read back from its bytes
* `Json.eq_of_encode_eq`: documents with the same bytes are equal
-/

namespace LoggingProvider

namespace Json

open Utf8 (Piece)

/-! ## Depth -/

mutual

/-- **The number of arrays and objects that are open at a time** in a document. -/
def depth : Json → Nat
  | .array items => depthItems items + 1
  | .object members => depthMembers members + 1
  | _ => 0

/-- The depth of the deepest item. -/
def depthItems : List Json → Nat
  | [] => 0
  | v :: rest => max v.depth (depthItems rest)

/-- The depth of the deepest member. -/
def depthMembers : List (String × Json) → Nat
  | [] => 0
  | (_, v) :: rest => max v.depth (depthMembers rest)

end

/-! ## Compact texts -/

theorem itemChars_eq (items : List Json) : itemChars items = separated chars items := by
  induction items with
  | nil => rfl
  | cons v rest ih =>
    cases rest with
    | nil => simp [itemChars, separated, afterCommas]
    | cons w rest => simp_all [itemChars, separated, afterCommas]

theorem memberChars_eq (members : List (String × Json)) :
    memberChars members = separated (memberText chars) members := by
  induction members with
  | nil => rfl
  | cons e rest ih =>
    obtain ⟨name, v⟩ := e
    cases rest with
    | nil => simp [memberChars, separated, afterCommas, memberText]
    | cons f rest => simp_all [memberChars, separated, afterCommas, memberText]

theorem length_le_afterCommas {α : Type} (text : α → List Char) (vs : List α) :
    vs.length ≤ (afterCommas text vs).length := by
  induction vs with
  | nil => exact Nat.le_refl 0
  | cons v vs ih =>
    have hcons : afterCommas text (v :: vs) = ',' :: text v ++ afterCommas text vs := rfl
    rw [hcons, List.length_append, List.length_cons, List.length_cons]
    omega

theorem length_le_separated {α : Type} {text : α → List Char} {vs : List α}
    (h : ∀ v ∈ vs, Opens (text v)) : vs.length ≤ (separated text vs).length := by
  cases vs with
  | nil => exact Nat.le_refl 0
  | cons v vs =>
    obtain ⟨⟨d, more, hd, -, -⟩, -⟩ := List.forall_mem_cons.1 h
    have hmore : vs.length ≤ (afterCommas text vs).length := length_le_afterCommas text vs
    rw [separated, hd, List.length_append, List.length_cons, List.length_cons]
    omega

theorem opens_of_isDigit {d : Char} (hd : d.isDigit = true) :
    d ∉ Cursor.blanks ∧ d ∉ [',', ']', closingBrace] := by
  constructor
  · intro h
    simp only [Cursor.blanks, List.mem_cons, List.not_mem_nil, or_false] at h
    rcases h with rfl | rfl | rfl | rfl <;> cases hd
  · intro h
    simp only [List.mem_cons, List.not_mem_nil, or_false] at h
    rcases h with rfl | rfl | rfl <;> cases hd

theorem opens_toDigits (n : Nat) : Opens (Nat.toDigits 10 n) := by
  obtain ⟨d, more, hdigits⟩ := List.exists_cons_of_ne_nil (Nat.toDigits_ne_nil (b := 10) (n := n))
  have hd : d.isDigit = true :=
    Nat.isDigit_of_mem_toDigits (by omega) (by omega) (hdigits ▸ List.mem_cons_self)
  exact ⟨d, more, hdigits, opens_of_isDigit hd⟩

/-- A document starts with neither a blank nor what stands between documents. -/
theorem opens_chars : {v : Json} → v.FloatFree → Opens v.chars
  | .null, _ => ⟨_, _, rfl, by decide, by decide⟩
  | .bool true, _ => ⟨_, _, rfl, by decide, by decide⟩
  | .bool false, _ => ⟨_, _, rfl, by decide, by decide⟩
  | .string _, _ => ⟨_, _, rfl, by decide, by decide⟩
  | .array _, _ => ⟨_, _, rfl, by decide, by decide⟩
  | .object _, _ => ⟨_, _, rfl, by decide, by decide⟩
  | .number (.natural n), _ => by
    have hchars : chars (.number (.natural n)) = Nat.toDigits 10 n.toNat := Nat.toList_repr
    rw [hchars]
    exact opens_toDigits n.toNat
  | .number (.negSucc k), _ =>
    ⟨'-', Nat.toDigits 10 (k.val + 1), by simp [chars, Number.text], by decide, by decide⟩

/-! ## Reading -/

section Values

variable {depth : Nat} {rest : List Piece}

/-- **A document is read by its first character**: if the reader that the character chooses reads
the rest of a text, the text is read as a document. The reader may depend on a bound of its
length. -/
theorem reads_of_first {α : Type} (make : α → Json)
    (read : Nat → Cursor → Except SyntaxFault (α × Cursor)) {d : Char} {text : List Char} {a : α}
    (hd : d ∉ Cursor.blanks)
    (hread : ∀ bound, text.length < bound → Reads (read bound) text a rest)
    (hstep : ∀ c : Cursor, c.skipBlanks = c → c.rest.isEmpty = false → c.peek? = some d →
      readValue .exact depth c =
        (read c.rest.length c.advance).map fun (a, c) => (make a, c)) :
    Reads (readValue .exact depth) (d :: text) (make a) rest := by
  intro c h
  have hbound : text.length < c.rest.length := by
    rw [h, List.length_append, List.length_map, List.length_cons]
    omega
  obtain ⟨c', hc', hend⟩ := hread _ hbound c.advance (Cursor.advance_rest h)
  refine ⟨c', ?_, hend⟩
  rw [hstep c (Cursor.skipBlanks_of_rest h hd) (Cursor.isEmpty_of_rest h)
    (Cursor.peek?_of_rest h), hc']
  rfl

theorem reads_word {d : Char} {word : List Char} {v : Json} (hd : d ∉ Cursor.blanks)
    (hstep : ∀ c : Cursor, c.skipBlanks = c → c.rest.isEmpty = false → c.peek? = some d →
      readValue .exact depth c = readWord word v c.advance) :
    Reads (readValue .exact depth) (d :: word) v rest := by
  refine reads_of_first id (fun _ => readWord word v) hd (fun _ _ => reads_readWord word v rest)
    fun c hskip hempty hpeek => ?_
  rw [hstep c hskip hempty hpeek]
  cases readWord word v c.advance <;> rfl

theorem reads_null : Reads (readValue .exact depth) (chars .null) .null rest :=
  reads_word (by decide) fun c hskip hempty hpeek => by
    unfold readValue
    simp only [hskip, hempty, hpeek]
    rfl

theorem reads_bool (b : Bool) :
    Reads (readValue .exact depth) (chars (.bool b)) (.bool b) rest := by
  cases b with
  | true | false =>
    refine reads_word (by decide) fun c hskip hempty hpeek => ?_
    unfold readValue
    simp only [hskip, hempty, hpeek]
    rfl

theorem reads_string (s : String) :
    Reads (readValue .exact depth) (chars (.string s)) (.string s) rest := by
  refine reads_of_first .string (fun _ => readString) (by decide)
    (fun _ _ => reads_readString s rest) fun c hskip hempty hpeek => ?_
  unfold readValue
  simp only [hskip, hempty, hpeek]
  rfl

/-- A digit starts a number. -/
theorem readValue_of_digit {c : Cursor} {d : Char} (hd : d.isDigit = true)
    (h : c.rest = .scalar d :: rest) : readValue .exact depth c =
      (readNumber false c).map fun (n, c) => (.number n, c) := by
  have hblank : d ∉ Cursor.blanks := (opens_of_isDigit hd).1
  unfold readValue
  simp only [Cursor.skipBlanks_of_rest h hblank, Cursor.isEmpty_of_rest h, Cursor.peek?_of_rest h]
  have hvalue : (digitValue? d).isSome = true := by
    unfold digitValue?
    exact (congrArg Option.isSome (if_pos hd)).trans rfl
  have hopen : ¬(d = '[' ∨ d = openingBrace) := by
    rintro (rfl | rfl) <;> cases hd
  rw [if_neg (by simp)]
  split
  · next heq => cases heq; cases hd
  · next heq => cases heq; cases hd
  · next heq => cases heq; cases hd
  · next heq => cases heq; cases hd
  · next heq => cases heq; cases hd
  · next heq =>
    obtain rfl := Option.some.inj heq
    simp [hopen, hvalue, Parts.exact]
  · next heq => cases heq

/-- An integer without a sign is read where a value is. -/
theorem reads_natural (n : UInt64) (hrest : Ended rest) :
    Reads (readValue .exact depth) (chars (.number (.natural n))) (.number (.natural n)) rest := by
  have hchars : chars (.number (.natural n)) = Nat.toDigits 10 n.toNat := Nat.toList_repr
  have hnumber : Number.ofInt? false n.toNat = some (.natural n) := by
    have hlt : n.toNat < 18446744073709551616 := n.toNat_lt
    simp [Number.ofInt?, hlt]
  have hlimit : n.toNat ≤ largestSignificand := Nat.le_of_lt_succ n.toNat_lt
  rw [hchars]
  intro c h
  obtain ⟨c', hread, hend⟩ := reads_readNumber hlimit hnumber hrest c h
  refine ⟨c', ?_, hend⟩
  obtain ⟨d, more, hdigits⟩ :=
    List.exists_cons_of_ne_nil (Nat.toDigits_ne_nil (b := 10) (n := n.toNat))
  have hd : d.isDigit = true :=
    Nat.isDigit_of_mem_toDigits (by omega) (by omega) (hdigits ▸ List.mem_cons_self)
  rw [hdigits] at h
  rw [readValue_of_digit hd h, hread]
  rfl

/-- A negative integer is read where a value is. -/
theorem reads_negSucc (k : Fin 9223372036854775808) (hrest : Ended rest) :
    Reads (readValue .exact depth) (chars (.number (.negSucc k))) (.number (.negSucc k)) rest := by
  have hchars : chars (.number (.negSucc k)) = '-' :: Nat.toDigits 10 (k.val + 1) := by
    simp [chars, Number.text]
  have hnumber : Number.ofInt? true (k.val + 1) = some (.negSucc k) := by
    simp [Number.ofInt?, Nat.succ_le_of_lt k.isLt]
  have hlimit : k.val + 1 ≤ largestSignificand := by
    have hlt := k.isLt
    unfold largestSignificand
    omega
  rw [hchars]
  refine reads_of_first .number (fun _ => readNumber true) (by decide)
    (fun _ _ => reads_readNumber hlimit hnumber hrest) fun c hskip hempty hpeek => ?_
  unfold readValue
  simp only [hskip, hempty, hpeek]
  rfl

/-- An array is read one level up from where its items are. -/
theorem reads_array {items : List Json} (hopens : ∀ v ∈ items, Opens v.chars)
    (hitems : ∀ v ∈ items, ∀ rest, Ended rest → Reads (readValue .exact depth) v.chars v rest) :
    Reads (readValue .exact (depth + 1)) (chars (.array items)) (.array items) rest := by
  have hlength := length_le_separated hopens
  rw [chars, itemChars_eq]
  refine reads_of_first .array (fun bound => readItems (readValue .exact depth) bound true)
    (by decide) (fun bound hbound => reads_readItems hitems hopens ?_)
    fun c hskip hempty hpeek => ?_
  · rw [List.length_append] at hbound
    omega
  · rw [readValue]
    simp only [hskip, hempty, hpeek]
    rfl

/-- An object is read one level up from where the values of its members are. -/
theorem reads_object {members : List (String × Json)}
    (hmembers : ∀ e ∈ members, ∀ rest, Ended rest →
      Reads (readValue .exact depth) e.2.chars e.2 rest) :
    Reads (readValue .exact (depth + 1)) (chars (.object members)) (.object members) rest := by
  have hlength := length_le_separated fun e (_ : e ∈ members) => opens_memberText chars e
  rw [chars, memberChars_eq]
  refine reads_of_first .object
    (fun bound => readMembers readString (fun _ => readValue .exact depth) bound true)
    (by decide) (fun bound hbound => reads_readMembers hmembers ?_) fun c hskip hempty hpeek => ?_
  · rw [List.length_append] at hbound
    omega
  · rw [readValue]
    simp only [hskip, hempty, hpeek]
    rfl

end Values

mutual

/-- **The compact text of a document is read as the document.** -/
theorem reads_readValue : (v : Json) → v.FloatFree → (depth : Nat) → v.depth ≤ depth →
    (rest : List Piece) → Ended rest → Reads (readValue .exact depth) v.chars v rest
  | .null, _, _, _, _, _ => reads_null
  | .bool b, _, _, _, _, _ => reads_bool b
  | .number (.natural n), _, _, _, _, hrest => reads_natural n hrest
  | .number (.negSucc k), _, _, _, _, hrest => reads_negSucc k hrest
  | .string s, _, _, _, _, _ => reads_string s
  | .array items, hfree, depth + 1, hdepth, _, _ =>
    reads_array (fun v hv => opens_chars (floatFreeItems_iff.1 hfree v hv))
      (reads_items items hfree depth (Nat.le_of_succ_le_succ hdepth))
  | .object members, hfree, depth + 1, hdepth, _, _ =>
    reads_object (reads_members members hfree depth (Nat.le_of_succ_le_succ hdepth))

theorem reads_items : (items : List Json) → FloatFreeItems items → (depth : Nat) →
    depthItems items ≤ depth → ∀ v ∈ items, ∀ rest, Ended rest →
      Reads (readValue .exact depth) v.chars v rest
  | [], _, _, _ => by simp
  | v :: items, hfree, depth, hdepth => List.forall_mem_cons.2
    ⟨reads_readValue v hfree.1 depth (Nat.le_trans (Nat.le_max_left _ _) hdepth),
      reads_items items hfree.2 depth (Nat.le_trans (Nat.le_max_right _ _) hdepth)⟩

theorem reads_members : (members : List (String × Json)) → FloatFreeMembers members →
    (depth : Nat) → depthMembers members ≤ depth → ∀ e ∈ members, ∀ rest, Ended rest →
      Reads (readValue .exact depth) e.2.chars e.2 rest
  | [], _, _, _ => by simp
  | (_, v) :: members, hfree, depth, hdepth => List.forall_mem_cons.2
    ⟨reads_readValue v hfree.1 depth (Nat.le_trans (Nat.le_max_left _ _) hdepth),
      reads_members members hfree.2 depth (Nat.le_trans (Nat.le_max_right _ _) hdepth)⟩

end

/-! ## One representation -/

mutual

/-- **Members in name order stay where they are.** -/
theorem canonical_eq_self : (v : Json) → v.Canonical → v.canonical = v
  | .null, _ | .bool _, _ | .number _, _ | .string _, _ => rfl
  | .array items, h => congrArg array (canonicalItems_eq_self items h)
  | .object members, ⟨hordered, h⟩ => by
    rw [canonical, canonicalMembers_eq_self members h, Dict.ofEntries_eq_self hordered]

theorem canonicalItems_eq_self : (items : List Json) → CanonicalItems items →
    canonicalItems items = items
  | [], _ => rfl
  | v :: rest, ⟨hv, hrest⟩ => by
    rw [canonicalItems, canonical_eq_self v hv, canonicalItems_eq_self rest hrest]

theorem canonicalMembers_eq_self : (members : List (String × Json)) → CanonicalMembers members →
    canonicalMembers members = members
  | [], _ => rfl
  | (_, v) :: rest, ⟨hv, hrest⟩ => by
    rw [canonicalMembers, canonical_eq_self v hv, canonicalMembers_eq_self rest hrest]

end

/-! ## Whole documents -/

/-- **A document that is read back from its bytes.** -/
structure Portable (v : Json) : Prop where
  /-- Its members are in name order. -/
  canonical : v.Canonical
  /-- No floating-point number occurs in it. -/
  floatFree : v.FloatFree
  /-- The reader allows as many open arrays and objects. -/
  depth_le : v.depth ≤ depthLimit

/-- At the start of a compact text, the text is what is left to read. -/
theorem rest_start_compact (v : Json) :
    (Cursor.start (Utf8.ofText v.compact)).rest = v.chars.map .scalar ++ [] := by
  rw [List.append_nil]
  simp [Cursor.start, Utf8.ofText, compact]

theorem parseRaw_compact {v : Json} (hv : v.Portable) :
    parseRaw (Utf8.ofText v.compact) = .ok v := by
  obtain ⟨c, hread, hend⟩ :=
    reads_readValue v hv.floatFree depthLimit hv.depth_le [] ended_nil _ v.rest_start_compact
  have hblanks := Cursor.skipBlanks_of_nil hend
  unfold parseRaw readWhole
  simp only [hread, bind, Except.bind, hblanks, hend]
  rfl

/-- **A document is read back from its bytes.** -/
theorem parseBytes_encode {v : Json} (hv : v.Portable) : parseBytes v.encode = .ok v := by
  rw [parseBytes, encode, Utf8.pieces_encode, parseRaw_compact hv]
  exact congrArg Except.ok (canonical_eq_self v hv.canonical)

/-- **Documents with the same bytes are equal**, however deep they go and in whatever order their
members are. -/
theorem eq_of_encode_eq {v w : Json} (hv : v.FloatFree) (hw : w.FloatFree)
    (h : v.encode = w.encode) : v = w := by
  have htext : v.compact = w.compact := Utf8.encode_injective h
  -- A reader that may open as many arrays and objects as either has finds both in the one text.
  obtain ⟨c, hread, -⟩ := reads_readValue v hv (max v.depth w.depth) (Nat.le_max_left _ _) []
    ended_nil _ v.rest_start_compact
  obtain ⟨c', hread', -⟩ := reads_readValue w hw (max v.depth w.depth) (Nat.le_max_right _ _) []
    ended_nil _ w.rest_start_compact
  rw [htext, hread'] at hread
  exact (Prod.mk.inj (Except.ok.inj hread)).1.symm

end Json

end LoggingProvider
