import LoggingProvider.Json.Basic

/-!
# Equality of documents

Documents are compared up to the sign of a floating-point zero, so `Json.same` is coarser than
equality. Every document is the same as itself, and a document in which no floating-point number
occurs is the same as no other.

## Main definitions

* `Json.FloatFree`: no floating-point number occurs in a document

## Main results

* `Json.same_refl`: a document is the same as itself
* `Json.same_iff_eq`: a document without floating-point numbers is the same as itself only
-/

namespace LoggingProvider

namespace Json

mutual

/-- No floating-point number occurs in the document. -/
def FloatFree : Json → Prop
  | .number (.real _) => False
  | .array items => FloatFreeItems items
  | .object members => FloatFreeMembers members
  | _ => True

/-- No floating-point number occurs in the items of an array. -/
def FloatFreeItems : List Json → Prop
  | [] => True
  | v :: rest => v.FloatFree ∧ FloatFreeItems rest

/-- No floating-point number occurs in the members of an object. -/
def FloatFreeMembers : List (String × Json) → Prop
  | [] => True
  | (_, v) :: rest => v.FloatFree ∧ FloatFreeMembers rest

end

mutual

theorem same_refl : (v : Json) → v.same v
  | .null => rfl
  | .bool b => by simp [same]
  | .number n => by simpa [same] using n.same_refl
  | .string s => by simp [same]
  | .array items => by simpa [same] using sameItems_refl items
  | .object members => by simpa [same] using sameMembers_refl members

theorem sameItems_refl : (items : List Json) → sameItems items items
  | [] => rfl
  | v :: rest => by simp [sameItems, same_refl v, sameItems_refl rest]

theorem sameMembers_refl : (members : List (String × Json)) → sameMembers members members
  | [] => rfl
  | (_, v) :: rest => by simp [sameMembers, same_refl v, sameMembers_refl rest]

end

mutual

theorem eq_of_same : {v w : Json} → v.FloatFree → v.same w → v = w
  | .null, w, _, h => by cases w <;> simp_all [same]
  | .bool b, w, _, h => by cases w <;> simp_all [same]
  | .number n, w, hv, h => by
    cases w <;> try (simp [same] at h)
    next m =>
      cases n with
      | real x => exact absurd hv (by simp [FloatFree])
      | natural k => rw [show Number.natural k = m by simpa [same, Number.same] using h]
      | negSucc k => rw [show Number.negSucc k = m by simpa [same, Number.same] using h]
  | .string s, w, _, h => by cases w <;> simp_all [same]
  | .array items, w, hv, h => by
    cases w <;> try (simp [same] at h)
    next others => rw [eq_of_sameItems (by simpa [FloatFree] using hv) h]
  | .object members, w, hv, h => by
    cases w <;> try (simp [same] at h)
    next others => rw [eq_of_sameMembers (by simpa [FloatFree] using hv) h]

theorem eq_of_sameItems :
    {vs ws : List Json} → FloatFreeItems vs → sameItems vs ws → vs = ws
  | [], [], _, _ => rfl
  | [], _ :: _, _, h => by simp [sameItems] at h
  | _ :: _, [], _, h => by simp [sameItems] at h
  | v :: vs, w :: ws, hv, h => by
    simp only [sameItems, Bool.and_eq_true] at h
    rw [eq_of_same hv.1 h.1, eq_of_sameItems hv.2 h.2]

theorem eq_of_sameMembers :
    {vs ws : List (String × Json)} → FloatFreeMembers vs → sameMembers vs ws → vs = ws
  | [], [], _, _ => rfl
  | [], _ :: _, _, h => by simp [sameMembers] at h
  | _ :: _, [], _, h => by simp [sameMembers] at h
  | (m, v) :: vs, (n, w) :: ws, hv, h => by
    simp only [sameMembers, Bool.and_eq_true, beq_iff_eq] at h
    rw [h.1.1, eq_of_same hv.1 h.1.2, eq_of_sameMembers hv.2 h.2]

end

/-- **A document without floating-point numbers is the same as itself only.** -/
theorem same_iff_eq {v w : Json} (hv : v.FloatFree) : v.same w ↔ v = w :=
  ⟨eq_of_same hv, fun h => h ▸ same_refl v⟩

theorem beq_eq_true_iff {v w : Json} (hv : v.FloatFree) : (v == w) = true ↔ v = w :=
  same_iff_eq hv

theorem beq_refl (v : Json) : (v == v) = true := same_refl v

/-- An object is the same as one with its names and the same values. -/
theorem sameMembers_map {o : List (String × Json)} {value : String → Json}
    (h : ∀ e ∈ o, e.2 == value e.1) : Json.sameMembers o (o.map fun e => (e.1, value e.1)) := by
  induction o with
  | nil => rfl
  | cons e rest ih =>
    obtain ⟨he, hrest⟩ := List.forall_mem_cons.1 h
    have hsame : e.2.same (value e.1) = true := he
    rw [List.map_cons, Json.sameMembers, beq_self_eq_true, hsame, ih hrest]
    rfl

/-- Objects that are the same hold the same values under every name. -/
theorem value?_beq_of_sameMembers {o d : List (String × Json)} (h : sameMembers o d) (n : String) :
    (Dict.value? o n == Dict.value? d n) = true := by
  induction o generalizing d with
  | nil =>
    cases d with
    | nil => rfl
    | cons e rest => cases h
  | cons e rest ih =>
    cases d with
    | nil => cases h
    | cons f others =>
      obtain ⟨m, v⟩ := e
      obtain ⟨m', w⟩ := f
      simp only [sameMembers, Bool.and_eq_true, beq_iff_eq] at h
      obtain ⟨⟨rfl, hvw⟩, hrest⟩ := h
      rw [Dict.value?_cons, Dict.value?_cons]
      by_cases hm : m = n
      · rw [if_pos hm, if_pos hm]
        exact hvw
      · rw [if_neg hm, if_neg hm]
        exact ih hrest

/-- **Documents that are the same** have the same members. -/
theorem member?_beq {v w : Json} (h : (v == w) = true) (n : String) :
    (v.member? n == w.member? n) = true := by
  change v.same w = true at h
  cases v with
  | object o =>
    cases w with
    | object d => exact value?_beq_of_sameMembers (by simpa [same] using h) n
    | _ => simp [same] at h
  | _ =>
    cases w with
    | object d => simp [same] at h
    | _ => rfl

theorem floatFreeItems_iff {items : List Json} :
    FloatFreeItems items ↔ ∀ v ∈ items, v.FloatFree := by
  induction items with
  | nil => simp [FloatFreeItems]
  | cons v rest ih =>
    rw [List.forall_mem_cons, ← ih]
    rfl

theorem floatFreeMembers_iff {members : List (String × Json)} :
    FloatFreeMembers members ↔ ∀ e ∈ members, e.2.FloatFree := by
  induction members with
  | nil => simp [FloatFreeMembers]
  | cons e rest ih =>
    obtain ⟨n, v⟩ := e
    rw [List.forall_mem_cons, ← ih]
    rfl

end Json

end LoggingProvider
