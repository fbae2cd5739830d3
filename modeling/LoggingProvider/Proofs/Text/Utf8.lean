import LoggingProvider.Text.Utf8
import Mathlib.Data.List.Basic

/-!
# Texts survive their bytes

The bytes of a text are read back as its characters, without a stray byte among them; so two texts
with the same bytes are the same.

## Main results

* `Utf8.pieces_encode`: the pieces of a text's bytes are its characters
* `Utf8.encode_injective`: texts with the same bytes are equal
-/

namespace LoggingProvider

namespace Utf8

theorem first?_utf8EncodeChar (c : Char) (rest : Bytes) :
    first? (String.utf8EncodeChar c ++ rest) = some c := by
  have htake : (String.utf8EncodeChar c ++ rest).take 4 =
      String.utf8EncodeChar c ++ rest.take (4 - c.utf8Size) := by
    have hfour : (String.utf8EncodeChar c).length ≤ 4 := by
      rw [String.length_utf8EncodeChar]
      exact c.utf8Size_le_four
    rw [List.take_append, List.take_of_length_le hfour, String.length_utf8EncodeChar]
  rw [first?, htake, List.toByteArray_append]
  exact ByteArray.utf8DecodeChar?_utf8EncodeChar_append

/-- The bytes that belong to the character read last are passed over. -/
theorem piecesFrom_append (skipped rest : Bytes) :
    piecesFrom (skipped ++ rest) skipped.length = piecesFrom rest 0 := by
  induction skipped with
  | nil => rfl
  | cons b more ih => exact ih

/-- The bytes of a character are read as the character. -/
theorem piecesFrom_utf8EncodeChar (c : Char) (rest : Bytes) :
    piecesFrom (String.utf8EncodeChar c ++ rest) 0 = .scalar c :: piecesFrom rest 0 := by
  obtain ⟨b, tail, hbytes⟩ := List.exists_cons_of_ne_nil (String.utf8EncodeChar_ne_nil (c := c))
  have hfirst : first? (b :: (tail ++ rest)) = some c := by
    rw [← List.cons_append, ← hbytes]
    exact first?_utf8EncodeChar c rest
  have hlength : c.utf8Size - 1 = tail.length := by
    rw [← String.length_utf8EncodeChar, hbytes]
    rfl
  rw [hbytes, List.cons_append, piecesFrom, hfirst]
  simp only
  rw [hlength, piecesFrom_append]

/-- **The pieces of a text's bytes are its characters.** -/
theorem pieces_encode (s : String) : pieces (encode s) = ofText s := by
  unfold pieces encode ofText
  induction s.toList with
  | nil => rfl
  | cons c rest ih => rw [List.flatMap_cons, piecesFrom_utf8EncodeChar, ih, List.map_cons]

/-- **Texts with the same bytes are equal.** -/
theorem encode_injective : Function.Injective encode := by
  intro s t h
  have hpieces : ofText s = ofText t := by rw [← pieces_encode, h, pieces_encode]
  have hchars : s.toList = t.toList :=
    List.map_injective_iff.2 (fun _ _ => Piece.scalar.inj) hpieces
  exact String.toList_inj.1 hchars

end Utf8

end LoggingProvider
