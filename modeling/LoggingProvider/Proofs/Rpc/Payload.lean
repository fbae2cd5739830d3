import LoggingProvider.Proofs.Json.RoundTrip
import LoggingProvider.Rpc.Service

/-!
# Payloads survive the wire

A document is decoded from its payload as it was, and a change is the same after it was sent as a
message: a side that is absent is sent as no bytes, and a side that is null is not.

## Main results

* `Rpc.decode_encode`: a document is decoded from its payload
* `Rpc.ChangeMessage.valueOf_bytesOf`: a side of a change is read back
* `Rpc.payloads_carried`: documents and changes survive the wire
-/

namespace LoggingProvider

namespace Rpc

/-- **A document is decoded from its payload.** -/
theorem decode_encode {v : Json} (hv : v.Portable) : decode v.encode = .ok v := by
  have hbytes : v.encode.isEmpty = false := List.isEmpty_eq_false_iff.2 v.encode_ne_nil
  rw [decode, hbytes, Json.parseBytes_encode hv]
  rfl

namespace ChangeMessage

/-- Only an absent side is sent as no bytes. -/
theorem bytesOf_eq_nil_iff {v : Option Json} : bytesOf v = [] ↔ v = none := by
  cases v with
  | none => simp [bytesOf]
  | some v => simpa [bytesOf] using v.encode_ne_nil

/-- **A side of a change is read back**, whether it is there or not. -/
theorem valueOf_bytesOf {v : Option Json} (hv : ∀ w, v = some w → w.Portable) :
    valueOf (bytesOf v) = v := by
  cases v with
  | none => rfl
  | some v =>
    have hbytes : (bytesOf (some v)).isEmpty = false :=
      List.isEmpty_eq_false_iff.2 (mt bytesOf_eq_nil_iff.1 (Option.some_ne_none v))
    have hparse : Json.parseBytes (bytesOf (some v)) = .ok v := Json.parseBytes_encode (hv v rfl)
    rw [valueOf, hbytes, hparse]
    rfl

/-- A change is the same after it was sent. -/
theorem toChange_ofChange {c : Change} (hbefore : ∀ v, c.before = some v → v.Portable)
    (hafter : ∀ v, c.after = some v → v.Portable) : (ofChange c).toChange = c := by
  simp only [ofChange, toChange, valueOf_bytesOf hbefore, valueOf_bytesOf hafter]

end ChangeMessage

/-- **Payloads survive the wire.** A document is sent as some bytes, which are decoded as the
document; and a change is the same after it was sent, where a side is sent as no bytes exactly when
it is absent. -/
theorem payloads_carried :
    (∀ v : Json, v.Portable → v.encode ≠ [] ∧ decode v.encode = .ok v) ∧
      ∀ c : Change, (∀ v, c.before = some v → v.Portable) → (∀ v, c.after = some v → v.Portable) →
        (ChangeMessage.ofChange c).toChange = c ∧
          ((ChangeMessage.ofChange c).before = [] ↔ c.before = none) ∧
          ((ChangeMessage.ofChange c).after = [] ↔ c.after = none) :=
  ⟨fun v hv => ⟨v.encode_ne_nil, decode_encode hv⟩, fun _ hbefore hafter =>
    ⟨ChangeMessage.toChange_ofChange hbefore hafter, ChangeMessage.bytesOf_eq_nil_iff,
      ChangeMessage.bytesOf_eq_nil_iff⟩⟩

/-- A document with the extreme integers, nested lists, and a text of a control character, a quote,
a backslash and a character outside the basic plane. -/
def extremes : Json :=
  .object [
    ("integers", .array [.ofUInt64 18446744073709551615,
      .number (.negSucc ⟨9223372036854775807, by decide⟩), .array [.array []]]),
    ("text", .string (String.ofList [Char.ofNat 1, '"', '\\', Char.ofNat 0x1f600]))]

theorem payloads_carried_extremes :
    decode extremes.encode = .ok extremes ∧
      (ChangeMessage.ofChange ⟨"path", some .null, some extremes⟩).toChange =
        ⟨"path", some .null, some extremes⟩ ∧
      (ChangeMessage.ofChange ⟨"path", some .null, none⟩).toChange =
        ⟨"path", some .null, none⟩ := by
  have hnull : Json.Portable .null := ⟨trivial, trivial, Nat.zero_le _⟩
  have hextremes : extremes.Portable := by
    refine ⟨⟨Dict.ordered_of_names ["integers", "text"] rfl (by decide), ?_⟩, ?_, by decide⟩
    · simp [Json.CanonicalMembers, Json.Canonical, Json.CanonicalItems, Json.ofUInt64]
    · simp [extremes, Json.FloatFree, Json.FloatFreeMembers, Json.FloatFreeItems, Json.ofUInt64]
  have hsides : ∀ v, some extremes = some v → v.Portable := fun v h => Option.some.inj h ▸ hextremes
  have hnulls : ∀ v, some Json.null = some v → v.Portable := fun v h => Option.some.inj h ▸ hnull
  have hnone : ∀ v : Json, none = some v → v.Portable :=
    fun v h => absurd h.symm (Option.some_ne_none v)
  exact ⟨(payloads_carried.1 extremes hextremes).2,
    (payloads_carried.2 ⟨"path", some .null, some extremes⟩ hnulls hsides).1,
    (payloads_carried.2 ⟨"path", some .null, none⟩ hnulls hnone).1⟩

end Rpc

end LoggingProvider
