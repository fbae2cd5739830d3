import LoggingProvider.Dict
import LoggingProvider.Json.Number

/-!
# Documents

A document is null, a truth value, a number, a text, an array of documents or an object, which maps
names to documents. Objects are kept in name order, so a document has one representation.

## Main definitions

* `Json`: documents
* `Json.canonical`: a document with the members of every object in name order
* `Json.Canonical`: the members of every object are in name order
* `Json.same`: equality of documents, up to the sign of zero
* `Json.member?`, `Json.items?`, `Json.text?`: parts of a document
* `Json.kindName`: the name of a document's kind
-/

namespace LoggingProvider

/-- **A document.** -/
inductive Json where
  | null
  | bool (b : Bool)
  | number (n : Number)
  | string (s : String)
  | array (items : List Json)
  | object (members : List (String × Json))
deriving Inhabited

namespace Json

/-- An unsigned integer as a document. -/
def ofUInt64 (n : UInt64) : Json := .number (.natural n)

/-- A small natural number as a document. -/
def ofNat (n : Nat) : Json := .number (.natural (UInt64.ofNat n))

/-! ## One representation -/

mutual

/-- The document with the members of every object in name order; of two members with one name the
later counts. -/
def canonical : Json → Json
  | .array items => .array (canonicalItems items)
  | .object members => .object (Dict.ofEntries (canonicalMembers members))
  | v => v

/-- The items of an array, each in its one representation. -/
def canonicalItems : List Json → List Json
  | [] => []
  | v :: rest => v.canonical :: canonicalItems rest

/-- The members of an object, each in its one representation. -/
def canonicalMembers : List (String × Json) → List (String × Json)
  | [] => []
  | (name, v) :: rest => (name, v.canonical) :: canonicalMembers rest

end

mutual

/-- The members of every object are in name order. -/
def Canonical : Json → Prop
  | .array items => CanonicalItems items
  | .object members => Dict.Ordered members ∧ CanonicalMembers members
  | _ => True

/-- Every item of an array is canonical. -/
def CanonicalItems : List Json → Prop
  | [] => True
  | v :: rest => v.Canonical ∧ CanonicalItems rest

/-- Every member of an object is canonical. -/
def CanonicalMembers : List (String × Json) → Prop
  | [] => True
  | (_, v) :: rest => v.Canonical ∧ CanonicalMembers rest

end

theorem CanonicalItems.canonical {items : List Json} (h : CanonicalItems items) {v : Json}
    (hv : v ∈ items) : v.Canonical := by
  induction items with
  | nil => cases hv
  | cons w rest ih =>
    rcases List.mem_cons.1 hv with rfl | hv
    · exact h.1
    · exact ih h.2 hv

theorem CanonicalMembers.canonical {members : List (String × Json)} (h : CanonicalMembers members)
    {e : String × Json} (he : e ∈ members) : e.2.Canonical := by
  induction members with
  | nil => cases he
  | cons f rest ih =>
    rcases List.mem_cons.1 he with rfl | he
    · exact h.1
    · exact ih h.2 he

/-! ## Equality -/

mutual

/-- **Equality of documents**, up to the sign of a floating-point zero. -/
def same : Json → Json → Bool
  | .null, .null => true
  | .bool a, .bool b => a == b
  | .number a, .number b => a.same b
  | .string a, .string b => a == b
  | .array a, .array b => sameItems a b
  | .object a, .object b => sameMembers a b
  | _, _ => false

/-- Equality of arrays. -/
def sameItems : List Json → List Json → Bool
  | [], [] => true
  | v :: vs, w :: ws => v.same w && sameItems vs ws
  | _, _ => false

/-- Equality of objects in name order. -/
def sameMembers : List (String × Json) → List (String × Json) → Bool
  | [], [] => true
  | (m, v) :: vs, (n, w) :: ws => m == n && v.same w && sameMembers vs ws
  | _, _ => false

end

instance : BEq Json := ⟨same⟩

/-! ## Parts -/

/-- The member of an object with a name. -/
def member? : Json → String → Option Json
  | .object members, name => Dict.value? members name
  | _, _ => none

/-- The member of an object with a name, null when there is none. -/
def memberD (v : Json) (name : String) : Json :=
  (v.member? name).getD .null

/-- The items of an array. -/
def items? : Json → Option (List Json)
  | .array items => some items
  | _ => none

/-- The members of an object. -/
def members? : Json → Option (Dict Json)
  | .object members => some members
  | _ => none

/-- The text of a text document. -/
def text? : Json → Option String
  | .string s => some s
  | _ => none

/-- Whether the document is null. -/
def isNull : Json → Bool
  | .null => true
  | _ => false

/-- The name of a document's kind. -/
def kindName : Json → String
  | .null => "null"
  | .bool _ => "bool"
  | .number _ => "number"
  | .string _ => "string"
  | .array _ => "array"
  | .object _ => "object"

end Json

end LoggingProvider
