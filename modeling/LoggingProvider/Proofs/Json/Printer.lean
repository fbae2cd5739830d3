import LoggingProvider.Json.Printer

/-!
# Compact texts are not empty

Every document has a compact text of at least one character, so the bytes of a document are never
mistaken for no bytes at all.

## Main results

* `Number.toList_text_ne_nil`: the text of a number is not empty
* `Json.encode_ne_nil`: the bytes of a document are not empty
-/

namespace LoggingProvider

namespace Binary64

/-- The text of digits has a point. -/
theorem positional_ne_nil (digits : List Char) (exponent : Int) :
    positional digits exponent ≠ [] := by
  unfold positional
  split
  · exact List.cons_ne_nil _ _
  · split <;> simp

/-- The text of digits with an exponent has the mark of the exponent. -/
theorem exponential_ne_nil (digits : List Char) (exponent : Int) :
    exponential digits exponent ≠ [] := by
  simp [exponential]

theorem toList_text_ne_nil (x : Binary64) : x.text.toList ≠ [] := by
  unfold text
  simp only [String.toList_ofList]
  split
  · exact List.cons_ne_nil _ _
  · split
    · exact positional_ne_nil _ _
    · exact exponential_ne_nil _ _

end Binary64

theorem Number.toList_text_ne_nil (n : Number) : n.text.toList ≠ [] := by
  cases n with
  | natural n => simp [text]
  | negSucc k => simp [text]
  | real x => exact x.toList_text_ne_nil

namespace Json

theorem chars_ne_nil (v : Json) : v.chars ≠ [] := by
  rcases v with _ | (_ | _) | n | _ | _ | _
  case number => simpa [chars] using n.toList_text_ne_nil
  all_goals simp [chars, quotedChars]

/-- **The bytes of a document are not empty.** -/
theorem encode_ne_nil (v : Json) : v.encode ≠ [] := by
  obtain ⟨c, rest, hchars⟩ := List.exists_cons_of_ne_nil v.chars_ne_nil
  simp [encode, compact, Utf8.encode, hchars]

end Json

end LoggingProvider
