import LoggingProvider.Proofs.Text.Utf8
import LoggingProvider.Url.Basic
import Mathlib.Data.List.Basic

/-!
# The segments of a path

The segments of an address have no slash in them, so the text of its path tells them apart. A text
that is appended as a segment becomes the segment that spells it, or is passed over, or takes the
last segment away. It becomes the segment that spells it exactly if it stands for no step and has no
tabs and line ends.

## Main definitions

* `Url.Spellable`: a text that a segment can spell
* `Url.spelling`: the segment that spells a text
* `Url.pathParts`: what the text of a path has between its slashes
* `Url.Slashless`: no segment of an address has a slash in it

## Main results

* `Url.appendSegment_cases`: what appending a text to segments does
* `Url.bytesOf_foldl_appendSegment_iff`: when texts are spelled by the segments they become
* `Url.pathParts_of_segments`: the text of a path tells its segments apart
* `Url.slashless_parse`: the segments of an address that was read have no slashes
-/

namespace LoggingProvider

/-! ## Encoded texts -/

namespace Percent

theorem slash_not_mem_escape (b : UInt8) : '/' ∉ escape b := by
  have hdigit : ∀ n < 16, digit n ≠ '/' := by decide
  have hb : b.toNat < 256 := b.toNat_lt
  simp only [escape, List.mem_cons, List.not_mem_nil, or_false, not_or]
  exact ⟨by decide, (hdigit _ (by omega)).symm, (hdigit _ (by omega)).symm⟩

/-- An encoded text has a slash only where the text has one that is not reserved. -/
theorem slash_mem_encode {reserved : Reserved} {cs : List Char} (h : '/' ∈ encode reserved cs) :
    '/' ∈ cs ∧ '/' ∉ reserved := by
  obtain ⟨c, hc, hslash⟩ := List.mem_flatMap.1 h
  unfold encodeChar at hslash
  split at hslash
  · obtain ⟨b, -, hb⟩ := List.mem_flatMap.1 hslash
    exact absurd hb (slash_not_mem_escape b)
  · next hplain =>
    obtain rfl := List.mem_singleton.1 hslash
    exact ⟨hc, fun hreserved => hplain (by simp [escapes, hreserved])⟩

end Percent

namespace Url

/-! ## Appended segments -/

/-- **A text that a segment can spell**: it stands for no step, and has no tabs and line ends. -/
structure Spellable (s : String) : Prop where
  here : s ≠ "."
  parent : s ≠ ".."
  breaks : dropBreaks s.toList = s.toList

/-- **No segment has a slash in it.** -/
def Slashless (parts : List String) : Prop :=
  ∀ s ∈ parts, '/' ∉ s.toList

section Append

variable {special : Bool} {parts : List String}

/-- What a segment does not admit. -/
def reservedInSegment (special : Bool) : Percent.Reserved :=
  if special then Percent.specialSegment else Percent.segment

theorem percent_mem_reservedInSegment (special : Bool) : '%' ∈ reservedInSegment special := by
  cases special <;> decide

theorem slash_mem_reservedInSegment (special : Bool) : '/' ∈ reservedInSegment special := by
  cases special <;> decide

/-- The segment that spells a text, without its tabs and line ends. -/
def spelling (special : Bool) (s : String) : String :=
  String.ofList (Percent.encode (reservedInSegment special) (dropBreaks s.toList))

/-- The segments after which others are appended: a lone empty one does not count. -/
def front (parts : List String) : List String :=
  if parts = [""] then [] else parts

/-- The bytes of a segment. -/
def bytesOf (s : String) : Bytes :=
  Percent.decode s.toList

theorem slash_not_mem_spelling (special : Bool) (s : String) :
    '/' ∉ (spelling special s).toList := by
  rw [spelling, String.toList_ofList]
  exact fun h => (Percent.slash_mem_encode h).2 (slash_mem_reservedInSegment special)

/-- A segment has the bytes of the text that it spells, unless that has tabs or line ends. -/
theorem bytesOf_spelling_iff (special : Bool) (s : String) :
    bytesOf (spelling special s) = Utf8.encode s ↔ dropBreaks s.toList = s.toList := by
  have hbytes : bytesOf (spelling special s) =
      Utf8.encode (String.ofList (dropBreaks s.toList)) := by
    rw [bytesOf, spelling, String.toList_ofList,
      Percent.decode_encode (percent_mem_reservedInSegment special), Utf8.encode,
      String.toList_ofList]
  rw [hbytes, Utf8.encode_injective.eq_iff, ← String.toList_inj, String.toList_ofList]

/-- **What appending a text does.** A plain step is passed over. Of the other texts, without their
tabs and line ends, two dots take the last segment away, one dot leaves an empty segment, and the
rest becomes a segment. -/
theorem appendSegment_cases (special : Bool) (parts : List String) (s : String) :
    ((s = "." ∨ s = "..") ∧ appendSegment special parts s = parts) ∨
    (s ≠ ".." ∧ dropBreaks s.toList = ['.', '.'] ∧
      appendSegment special parts s = parts.dropLast ++ [""]) ∨
    (s ≠ "." ∧ dropBreaks s.toList = ['.'] ∧
      appendSegment special parts s = front parts ++ [""]) ∨
    (s ≠ "." ∧ s ≠ ".." ∧ appendSegment special parts s = front parts ++ [spelling special s]) := by
  unfold appendSegment
  by_cases hstep : s = "." ∨ s = ".."
  · exact .inl ⟨hstep, if_pos (by simpa using hstep)⟩
  obtain ⟨hhere, hparent⟩ := not_or.1 hstep
  rw [if_neg (by simpa using hstep)]
  by_cases hup : dropBreaks s.toList = ['.', '.']
  · exact .inr (.inl ⟨hparent, hup, if_pos hup⟩)
  by_cases hdot : dropBreaks s.toList = ['.']
  · exact .inr (.inr (.inl ⟨hhere, hdot, (if_neg hup).trans (if_pos hdot)⟩))
  · exact .inr (.inr (.inr ⟨hhere, hparent, (if_neg hup).trans (if_neg hdot)⟩))

/-- A text whose tabs and line ends make the difference to a step can be spelled by no segment. -/
theorem not_spellable_of_breaks {s t : String} (hs : s ≠ t) (ht : dropBreaks s.toList = t.toList) :
    ¬Spellable s :=
  fun h => hs (String.toList_inj.1 (h.breaks.symm.trans ht))

theorem append_ne_singleton {s t : String} (hnil : parts ≠ []) : parts ++ [s] ≠ [t] := by
  intro h
  have hlength := congrArg List.length h
  have hpos := List.length_pos_iff.2 hnil
  rw [List.length_append, List.length_singleton, List.length_singleton] at hlength
  omega

/-- **A text becomes one more segment**, which spells it if any can; or there are no more segments
than before. -/
theorem appendSegment_spells_or (special : Bool) (hnil : parts ≠ []) (hempty : parts ≠ [""])
    (s : String) :
    (∃ x, appendSegment special parts s = parts ++ [x] ∧
      (bytesOf x = Utf8.encode s ↔ Spellable s)) ∨
    (¬Spellable s ∧ (appendSegment special parts s).length ≤ parts.length) := by
  have hfront : front parts = parts := if_neg hempty
  rcases appendSegment_cases special parts s with
    ⟨hstep, h⟩ | ⟨hs, hup, h⟩ | ⟨hs, hdot, h⟩ | ⟨hhere, hparent, h⟩
  · exact .inr ⟨fun hs => hstep.elim hs.here hs.parent, Nat.le_of_eq (congrArg List.length h)⟩
  · refine .inr ⟨not_spellable_of_breaks hs hup, ?_⟩
    rw [h, List.length_append, List.length_dropLast]
    exact Nat.le_of_eq (Nat.sub_add_cancel (List.length_pos_iff.2 hnil))
  · refine .inl ⟨"", by rw [h, hfront], iff_of_false ?_ (not_spellable_of_breaks hs hdot)⟩
    intro hbytes
    obtain rfl : s = "" := Utf8.encode_injective hbytes.symm
    cases hdot
  · refine .inl ⟨spelling special s, by rw [h, hfront], ?_⟩
    exact (bytesOf_spelling_iff special s).trans
      ⟨fun hs => ⟨hhere, hparent, hs⟩, fun hs => hs.breaks⟩

theorem length_appendSegment_le (special : Bool) (parts : List String) (s : String) :
    (appendSegment special parts s).length ≤ parts.length + 1 := by
  have hfront : (front parts).length ≤ parts.length := by
    unfold front
    split
    · exact Nat.zero_le _
    · exact Nat.le_refl _
  rcases appendSegment_cases special parts s with
    ⟨-, h⟩ | ⟨-, -, h⟩ | ⟨-, -, h⟩ | ⟨-, -, h⟩ <;> rw [h]
  · omega
  · rw [List.length_append, List.length_dropLast, List.length_singleton]
    omega
  all_goals
    rw [List.length_append, List.length_singleton]
    omega

/-- A text that a segment can spell is appended as the segment that spells it. -/
theorem appendSegment_of_spellable (special : Bool) (parts : List String) {s : String}
    (hs : Spellable s) : appendSegment special parts s = front parts ++ [spelling special s] := by
  rcases appendSegment_cases special parts s with
    ⟨hstep, -⟩ | ⟨hne, hup, -⟩ | ⟨hne, hdot, -⟩ | ⟨-, -, h⟩
  · exact (hstep.elim hs.here hs.parent).elim
  · exact absurd hs (not_spellable_of_breaks hne hup)
  · exact absurd hs (not_spellable_of_breaks hne hdot)
  · exact h

/-- **The texts that are passed over** are the plain steps. -/
theorem appendSegment_eq_self_iff (special : Bool) (hnil : parts ≠ []) {last : String}
    (hlast : last ≠ "") (s : String) :
    appendSegment special (parts ++ [last]) s = parts ++ [last] ↔ s = "." ∨ s = ".." := by
  have hfront : front (parts ++ [last]) = parts ++ [last] := if_neg (append_ne_singleton hnil)
  rcases appendSegment_cases special (parts ++ [last]) s with
    ⟨hstep, h⟩ | ⟨hne, hup, h⟩ | ⟨hne, hdot, h⟩ | ⟨hhere, hparent, h⟩
  · exact iff_of_true h hstep
  · refine iff_of_false (fun heq => ?_) fun hstep => ?_
    · rw [h, List.dropLast_concat] at heq
      exact hlast (List.singleton_inj.1 (List.append_cancel_left heq)).symm
    · rcases hstep with rfl | rfl
      · cases hup
      · exact hne rfl
  · refine iff_of_false (fun heq => ?_) fun hstep => ?_
    · rw [h, hfront] at heq
      exact absurd (List.append_right_eq_self.1 heq) (List.cons_ne_nil _ _)
    · rcases hstep with rfl | rfl
      · exact hne rfl
      · cases hdot
  · refine iff_of_false (fun heq => ?_) (not_or.2 ⟨hhere, hparent⟩)
    rw [h, hfront] at heq
    exact absurd (List.append_right_eq_self.1 heq) (List.cons_ne_nil _ _)

theorem slashless_concat (hparts : Slashless parts) {s : String} (hs : '/' ∉ s.toList) :
    Slashless (parts ++ [s]) := by
  intro t ht
  rcases List.mem_append.1 ht with ht | ht
  · exact hparts t ht
  · exact List.mem_singleton.1 ht ▸ hs

theorem slashless_front (hparts : Slashless parts) : Slashless (front parts) := by
  unfold front
  split
  · exact fun _ h => absurd h List.not_mem_nil
  · exact hparts

theorem slashless_appendSegment (hparts : Slashless parts) (s : String) :
    Slashless (appendSegment special parts s) := by
  have hlast : Slashless parts.dropLast := fun t ht => hparts t (parts.dropLast_subset ht)
  have hempty : '/' ∉ "".toList := List.not_mem_nil
  rcases appendSegment_cases special parts s with
    ⟨-, h⟩ | ⟨-, -, h⟩ | ⟨-, -, h⟩ | ⟨-, -, h⟩ <;> rw [h]
  · exact hparts
  · exact slashless_concat hlast hempty
  · exact slashless_concat (slashless_front hparts) hempty
  · exact slashless_concat (slashless_front hparts) (slash_not_mem_spelling special s)

theorem appendSegment_ne_nil (hnil : parts ≠ []) (s : String) :
    appendSegment special parts s ≠ [] := by
  rcases appendSegment_cases special parts s with
    ⟨-, h⟩ | ⟨-, -, h⟩ | ⟨-, -, h⟩ | ⟨-, -, h⟩ <;> rw [h]
  · exact hnil
  all_goals exact List.concat_ne_nil _ _

/-! ## Several segments -/

theorem slashless_foldl_appendSegment (hparts : Slashless parts) (l : List String) :
    Slashless (l.foldl (appendSegment special) parts) := by
  induction l generalizing parts with
  | nil => exact hparts
  | cons s rest ih => exact ih (slashless_appendSegment hparts s)

theorem foldl_appendSegment_ne_nil (hnil : parts ≠ []) (l : List String) :
    l.foldl (appendSegment special) parts ≠ [] := by
  induction l generalizing parts with
  | nil => exact hnil
  | cons s rest ih => exact ih (appendSegment_ne_nil hnil s)

theorem length_foldl_appendSegment_le (special : Bool) (parts l : List String) :
    (l.foldl (appendSegment special) parts).length ≤ parts.length + l.length := by
  induction l generalizing parts with
  | nil => exact Nat.le_refl _
  | cons s rest ih =>
    have hstep := length_appendSegment_le special parts s
    have hrest := ih (appendSegment special parts s)
    rw [List.foldl_cons, List.length_cons]
    omega

/-- Texts appended one after another each become a segment, which spells the text if any can; or
there are fewer segments than texts, one of which no segment can spell. -/
theorem foldl_appendSegment_spells_or (special : Bool) (hnil : parts ≠ []) (hempty : parts ≠ [""])
    (l : List String) :
    (∃ xs, l.foldl (appendSegment special) parts = parts ++ xs ∧
      List.Forall₂ (fun s x => bytesOf x = Utf8.encode s ↔ Spellable s) l xs) ∨
    ((¬∀ s ∈ l, Spellable s) ∧
      (l.foldl (appendSegment special) parts).length < parts.length + l.length) := by
  induction l generalizing parts with
  | nil => exact .inl ⟨[], (List.append_nil parts).symm, .nil⟩
  | cons s rest ih =>
    rw [List.foldl_cons]
    rcases appendSegment_spells_or special hnil hempty s with ⟨x, happend, hx⟩ | ⟨hs, hlength⟩
    · rw [happend]
      rcases ih (by simp) (append_ne_singleton hnil) with ⟨xs, hfold, hxs⟩ | ⟨hrest, hlength⟩
      · exact .inl ⟨x :: xs, by rw [hfold, List.append_assoc]; rfl, .cons hx hxs⟩
      · refine .inr ⟨fun h => hrest fun t ht => h t (List.mem_cons_of_mem _ ht), ?_⟩
        rw [List.length_append, List.length_singleton] at hlength
        rw [List.length_cons]
        omega
    · -- One segment is missing, and the texts that follow cannot make up for it.
      refine .inr ⟨fun h => hs (h s List.mem_cons_self), ?_⟩
      have hrest := length_foldl_appendSegment_le special (appendSegment special parts s) rest
      rw [List.length_cons]
      omega

/-- **Texts are spelled by the segments they become** exactly if segments can spell them all. -/
theorem bytesOf_foldl_appendSegment_iff (special : Bool) (hnil : parts ≠ [])
    (hempty : parts ≠ [""]) (l : List String) :
    (l.foldl (appendSegment special) parts).map bytesOf =
      parts.map bytesOf ++ l.map Utf8.encode ↔ ∀ s ∈ l, Spellable s := by
  rcases foldl_appendSegment_spells_or special hnil hempty l with ⟨xs, hfold, hxs⟩ | ⟨hl, hlength⟩
  · rw [hfold, List.map_append, List.append_cancel_left_eq]
    clear hfold
    induction hxs with
    | nil => simp
    | cons hx _ ih =>
      rw [List.map_cons, List.map_cons, List.cons.injEq, List.forall_mem_cons]
      exact and_congr hx ih
  · refine iff_of_false (fun h => ?_) hl
    have hsame := congrArg List.length h
    rw [List.length_append, List.length_map, List.length_map, List.length_map] at hsame
    omega

end Append

/-! ## The text of a path -/

/-- What the text of a path has between its slashes, after the first one. -/
def pathParts (u : Url) : List (List Char) :=
  (u.pathText.toList.drop 1).splitOn '/'

/-- The text of a path is its segments, with slashes between them. -/
theorem drop_flatMap_slash {parts : List String} (hnil : parts ≠ []) :
    (parts.flatMap fun s => '/' :: s.toList).drop 1 =
      ['/'].intercalate (parts.map String.toList) := by
  obtain ⟨s, rest, rfl⟩ := List.exists_cons_of_ne_nil hnil
  clear hnil
  induction rest generalizing s with
  | nil => simp [List.intercalate]
  | cons t rest ih =>
    have hrest := ih t
    rw [List.flatMap_cons, List.cons_append, List.drop_one, List.tail_cons] at hrest
    simp only [List.flatMap_cons, List.cons_append, List.drop_one, List.tail_cons, List.map_cons,
      List.intercalate_cons_cons, hrest, List.append_assoc, List.nil_append]

/-- **The text of a path tells its segments apart**, if it has any. -/
theorem pathParts_of_segments {u : Url} {parts : List String} (hu : u.path = .segments parts)
    (hparts : Slashless parts) (hnil : parts ≠ []) : u.pathParts = parts.map String.toList := by
  have htext : u.pathText.toList = parts.flatMap fun s => '/' :: s.toList := by
    simp only [pathText, hu, String.toList_join, List.flatMap_map, String.toList_append]
    rfl
  rw [pathParts, htext, drop_flatMap_slash hnil]
  refine List.splitOn_intercalate '/' ?_ (by simpa using hnil)
  intro l hl
  obtain ⟨s, hs, rfl⟩ := List.mem_map.1 hl
  exact hparts s hs

/-! ## Below a base -/

section Base

variable {u : Url} {parts : List String}

/-- **The segments below which others are added**: those of a path, without an empty one at its
end. -/
def baseParts (u : Url) : List (List Char) :=
  if u.pathParts.getLast? = some [] then u.pathParts.dropLast else u.pathParts

/-- The segments without an empty one at the end, unless that is the only one. -/
def popEmpty (parts : List String) : List String :=
  if 1 < parts.length && parts.getLast? = some "" then parts.dropLast else parts

theorem path_popIfEmpty (hu : u.path = .segments parts) :
    u.popIfEmpty.path = .segments (popEmpty parts) ∧ u.popIfEmpty.scheme = u.scheme := by
  unfold popIfEmpty popEmpty
  rw [hu]
  simp only
  split
  · exact ⟨rfl, rfl⟩
  · exact ⟨hu, rfl⟩

theorem path_foldl_pushSegment (hu : u.path = .segments parts) (l : List String) :
    (l.foldl pushSegment u).path =
      .segments (l.foldl (appendSegment (isSpecial u.scheme)) parts) := by
  induction l generalizing u parts with
  | nil => exact hu
  | cons s rest ih =>
    have hpush : u.pushSegment s =
        { u with path := .segments (appendSegment (isSpecial u.scheme) parts s) } := by
      rw [pushSegment, hu]
    rw [List.foldl_cons, List.foldl_cons, ih (u := u.pushSegment s) (by rw [hpush]), hpush]

theorem slashless_popEmpty (hparts : Slashless parts) : Slashless (popEmpty parts) := by
  unfold popEmpty
  split
  · exact fun s hs => hparts s (parts.dropLast_subset hs)
  · exact hparts

theorem popEmpty_concat_empty {init : List String} (hinit : init ≠ []) :
    popEmpty (init ++ [""]) = init := by
  have hpos := List.length_pos_iff.2 hinit
  rw [popEmpty, List.getLast?_concat, if_pos (by simp [hpos]), List.dropLast_concat]

theorem popEmpty_concat (init : List String) {last : String} (hlast : last ≠ "") :
    popEmpty (init ++ [last]) = init ++ [last] := by
  rw [popEmpty, List.getLast?_concat, if_neg (by simp [hlast])]

theorem concat_ne_lone_empty (init : List String) {last : String} (hlast : last ≠ "") :
    init ++ [last] ≠ [""] :=
  fun h => hlast (by simpa using congrArg List.getLast? h)

/-- The segments below which others are added are those after which they are appended, unless there
are just two empty ones: of those, none is kept. -/
theorem baseParts_eq (hu : u.path = .segments parts) (hparts : Slashless parts)
    (htwo : parts ≠ ["", ""]) : u.baseParts = (front (popEmpty parts)).map String.toList := by
  rcases List.eq_nil_or_concat' parts with rfl | ⟨init, last, rfl⟩
  · have hnone : u.pathParts = [[]] := by simp [pathParts, pathText, hu, String.join]
    rw [baseParts, hnone]
    rfl
  have hpath : u.pathParts = init.map String.toList ++ [last.toList] := by
    rw [pathParts_of_segments hu hparts (by simp), List.map_append]
    rfl
  by_cases hlast : last = ""
  · subst hlast
    have hbase : u.baseParts = init.map String.toList := by
      rw [baseParts, hpath, List.getLast?_concat, String.toList_empty, if_pos rfl,
        List.dropLast_concat]
    by_cases hinit : init = []
    · rw [hbase, hinit]
      rfl
    · have hfront : init ≠ [""] := by
        rintro rfl
        exact htwo rfl
      rw [hbase, popEmpty_concat_empty hinit, front, if_neg hfront]
  · have hchars : ¬some last.toList = some [] := fun h =>
      hlast (String.toList_inj.1 (Option.some.inj h))
    rw [baseParts, hpath, List.getLast?_concat, if_neg hchars, popEmpty_concat init hlast, front,
      if_neg (concat_ne_lone_empty init hlast), List.map_append]
    rfl

/-- A path of just two slashes has just two empty segments. -/
theorem pathText_eq_two_iff (hu : u.path = .segments parts) (hparts : Slashless parts) :
    u.pathText = "//" ↔ parts = ["", ""] := by
  constructor
  · intro h
    have hnil : parts ≠ [] := by
      rintro rfl
      rw [pathText, hu] at h
      exact absurd h (by decide)
    have hsplit : parts.map String.toList = ["", ""].map String.toList := by
      rw [← pathParts_of_segments hu hparts hnil, pathParts, h]
      rfl
    exact List.map_injective_iff.2 (fun _ _ => String.toList_inj.1) hsplit
  · rintro rfl
    rw [pathText, hu]
    rfl

end Base

/-! ## Segments that were read -/

theorem splitSlashes_ne_nil (special : Bool) (cs : List Char) : splitSlashes special cs ≠ [] := by
  cases cs with
  | nil => exact List.cons_ne_nil _ _
  | cons c rest =>
    simp only [splitSlashes]
    split
    · split_ifs <;> exact List.cons_ne_nil _ _
    · exact List.cons_ne_nil _ _

theorem slash_not_mem_splitSlashes {special : Bool} {cs part : List Char}
    (h : part ∈ splitSlashes special cs) : '/' ∉ part := by
  induction cs generalizing part with
  | nil =>
    obtain rfl := List.mem_singleton.1 h
    exact List.not_mem_nil
  | cons c rest ih =>
    -- A backslash may end a part too, but a slash always does.
    have hslash : ¬isSlash special c = true → '/' ≠ c := by
      rintro hc rfl
      exact hc (by simp [isSlash])
    simp only [splitSlashes] at h
    split at h
    · next first more heq =>
      have hparts : ∀ p ∈ first :: more, '/' ∉ p := fun p hp => ih (heq ▸ hp)
      split at h
      · rcases List.mem_cons.1 h with rfl | h
        · exact List.not_mem_nil
        · exact hparts part h
      · next hc =>
        rcases List.mem_cons.1 h with rfl | h
        · exact fun hmem => (List.mem_cons.1 hmem).elim (hslash hc)
            (hparts first List.mem_cons_self)
        · exact hparts part (List.mem_cons_of_mem _ h)
    · next heq => exact absurd heq (splitSlashes_ne_nil special rest)

/-- A resolved segment is empty or one of those that were resolved. -/
theorem mem_resolve {done parts : List String} {s : String} (h : s ∈ resolve done parts) :
    s = "" ∨ s ∈ done ∨ s ∈ parts := by
  have hdrop {l : List String} (hl : s ∈ l.dropLast) : s ∈ l := l.dropLast_subset hl
  fun_induction resolve done parts with
  | case1 done => exact .inr (.inl h)
  | case2 done t hparent =>
    rcases List.mem_append.1 h with h | h
    · exact .inr (.inl (hdrop h))
    · exact .inl (List.mem_singleton.1 h)
  | case3 done t hparent hhere =>
    rcases List.mem_append.1 h with h | h
    · exact .inr (.inl h)
    · exact .inl (List.mem_singleton.1 h)
  | case4 done t hparent hhere => exact .inr (List.mem_append.1 h)
  | case5 done t t' rest hparent ih =>
    rcases ih h with h | h | h
    · exact .inl h
    · exact .inr (.inl (hdrop h))
    · exact .inr (.inr (List.mem_cons_of_mem _ h))
  | case6 done t t' rest hparent hhere ih =>
    rcases ih h with h | h | h
    · exact .inl h
    · exact .inr (.inl h)
    · exact .inr (.inr (List.mem_cons_of_mem _ h))
  | case7 done t t' rest hparent hhere ih =>
    rcases ih h with h | h | h
    · exact .inl h
    · rcases List.mem_append.1 h with h | h
      · exact .inr (.inl h)
      · exact .inr (.inr (List.mem_singleton.1 h ▸ List.mem_cons_self))
    · exact .inr (.inr (List.mem_cons_of_mem _ h))

theorem slashless_segmentsOf (special : Bool) (cs : List Char) :
    Slashless (segmentsOf special cs) := by
  have hparts (cs : List Char) : Slashless (resolve [] ((splitSlashes special cs).map fun part =>
      String.ofList (Percent.encode Percent.path part))) := by
    intro s hs
    rcases mem_resolve hs with rfl | hs | hs
    · exact List.not_mem_nil
    · cases hs
    · obtain ⟨part, hpart, rfl⟩ := List.mem_map.1 hs
      rw [String.toList_ofList]
      exact fun h => slash_not_mem_splitSlashes hpart (Percent.slash_mem_encode h).1
  unfold segmentsOf
  split
  · split_ifs
    · simp [Slashless]
    · simp [Slashless]
  · split_ifs
    · exact hparts _
    · exact hparts _

theorem path_readAuthority {scheme : String} {cs : List Char} {u : Url}
    (h : readAuthority scheme cs = .ok u) :
    ∃ special cs, u.path = .segments (segmentsOf special cs) := by
  unfold readAuthority at h
  simp only [bind, Except.bind, pure, Except.pure] at h
  repeat' split at h
  all_goals first
    | (obtain rfl := Except.ok.inj h; exact ⟨_, _, rfl⟩)
    | cases h

theorem path_readFile {cs : List Char} {u : Url} (h : readFile cs = .ok u) :
    ∃ special cs, u.path = .segments (segmentsOf special cs) := by
  unfold readFile at h
  simp only [bind, Except.bind, pure, Except.pure] at h
  repeat' split at h
  all_goals first
    | (obtain rfl := Except.ok.inj h; exact ⟨_, _, rfl⟩)
    | cases h

/-- **The segments of an address that was read have no slashes.** -/
theorem slashless_parse {s : String} {u : Url} {parts : List String} (h : parse s = .ok u)
    (hu : u.path = .segments parts) : Slashless parts := by
  have hpath : (∃ text, u.path = .opaqueText text) ∨
      ∃ special cs, u.path = .segments (segmentsOf special cs) := by
    unfold parse at h
    split at h
    · cases h
    · split_ifs at h with hfile hspecial
      · exact .inr (path_readFile h)
      · exact .inr (path_readAuthority h)
      · split at h
        · exact .inr (path_readAuthority h)
        · obtain rfl := Except.ok.inj h
          exact .inr ⟨_, _, rfl⟩
        · obtain rfl := Except.ok.inj h
          exact .inl ⟨_, rfl⟩
  rcases hpath with ⟨text, htext⟩ | ⟨special, cs, hsegments⟩
  · rw [htext] at hu
    cases hu
  · rw [hsegments] at hu
    exact UrlPath.segments.inj hu ▸ slashless_segmentsOf special cs

end Url

end LoggingProvider
