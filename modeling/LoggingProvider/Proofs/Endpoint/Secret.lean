import LoggingProvider.Proofs.Endpoint.Request
import LoggingProvider.Proofs.Schema.Conformance

/-!
# Records that differ in secrets

Some fields of an endpoint are secrets: their values are hidden from users. Two records are alike if
they are the same but for the values of secrets, where both have texts that are not blank. Such
records have the same faults against the block, and normal forms that are alike. They fail for the
same fault when a request is built: what is said of a member names its value only if it is no text,
and so no secret. The exception is an object without a name, which is told with all its members, so
the faults about two of them differ as their secrets do. Whether there are such records is kept as a
proposition beside the faults.

## Main definitions

* `Endpoint.Field.secret`: the fields whose values are hidden
* `Endpoint.Veiled`, `Endpoint.Alike`: values and records that differ in secrets at most
* `Endpoint.Nameless`: objects without a name
* `Endpoint.Masked`: records that differ in secrets at most, with a proposition that holds if they
  have no name
* `Endpoint.Blurred`: what changed in a member, which may be nothing if it is a secret
* `DiffFault.SameUnless`, `Fault.SameUnless`: the same fault, unless a proposition holds and both are
  about objects without a name
* `EndSameUnless`: outcomes that are both successes or both such faults
* `Call.Alike`: requests that name the same endpoint

## Main results

* `Endpoint.Alike.normalize`, `Endpoint.Alike.diagnose_eq`: normal forms and faults of records
* `Endpoint.Masked.nameOf`: the names of records
* `Endpoint.Blurred.read`, `Endpoint.settingsFor_endSame`: what is sent for records
* `Endpoint.Masked.deleteCall`, `Endpoint.Masked.createCall`: the requests for records
-/

namespace LoggingProvider

open Dict Outcome

namespace Endpoint

/-! ## Secrets -/

/-- **Whether the values of a field are secrets.** -/
def Field.secret (f : Field) : Bool :=
  f.attr.flags.sensitive

namespace Field

variable {f : Field}

theorem secret_iff : f.secret ↔
    f = .password ∨ f = .tlsCaCert ∨ f = .tlsClientCert ∨ f = .tlsClientKey := by
  cases f <;> decide

/-- Services of every kind have the secrets. -/
theorem registered_of_secret (hf : f.secret) (kind : ServiceKind) : f.registered kind := by
  rcases secret_iff.1 hf with rfl | rfl | rfl | rfl <;> cases kind <;> rfl

/-- A secret is a text. -/
theorem kind_of_secret (hf : f.secret) : f.kind = .text := by
  rcases secret_iff.1 hf with rfl | rfl | rfl | rfl <;> rfl

/-- Every text is a value of a secret. -/
theorem diagnose_secret (hf : f.secret) (s path : String) :
    f.attr.diagnose (some (.string s)) path = [] := by
  rcases secret_iff.1 hf with rfl | rfl | rfl | rfl <;> rfl

/-- A secret that is not blank settles as a text that is not blank. -/
theorem settle_secret (hf : f.secret) {s : String} (hs : Text.trim s ≠ "") :
    ∃ u, f.attr.settle (some (.string s)) = some (.string u) ∧ Text.trim u ≠ "" := by
  have hne : s ≠ "" := by
    rintro rfl
    exact hs rfl
  have htrim : Text.trim (Text.trim s) ≠ "" := by rwa [Text.trim_trim]
  rcases secret_iff.1 hf with rfl | rfl | rfl | rfl
  · refine ⟨s, Attribute.settle_of_set rfl ?_, hs⟩
    simpa [Json.isUnset] using hne
  all_goals
    refine ⟨Text.trim s, Attribute.settle_of_normalized ?_, htrim⟩
    change (Text.trim s).isEmpty = false
    simpa using hs

end Field

/-! ## Members and records -/

/-- **Two values of a member that differ in a secret at most.** -/
inductive Veiled (n : String) : Json → Json → Prop
  | same (v : Json) : Veiled n v v
  | secret {f : Field} (hf : f.secret) (hn : f.name = n) {s s' : String} (hs : Text.trim s ≠ "")
    (hs' : Text.trim s' ≠ "") : Veiled n (.string s) (.string s')

/-- **Two records that differ in secrets at most**: they have members of the same names. -/
inductive Alike : Json → Json → Prop
  | plain {r : Json} (h : ∀ d, r ≠ .object d) : Alike r r
  | object {d d' : Dict Json} (hd : Ordered d) (hd' : Ordered d')
    (h : ∀ n, Option.Rel (Veiled n) (value? d n) (value? d' n)) : Alike (.object d) (.object d')

/-- **An object without a name.** -/
def Nameless (r : Json) : Prop :=
  ∃ d, r = .object d ∧ value? d "name" = none

/-- **Two records that differ in secrets at most**, where a proposition holds if they have no
name. -/
structure Masked (p : Prop) (r r' : Json) : Prop where
  alike : Alike r r'
  nameless : Nameless r → p

/-- An object has a name if the member is there. -/
theorem not_nameless {r : Json} (h : (r.member? "name").isSome) : ¬Nameless r := by
  rintro ⟨d, rfl, hname⟩
  change (value? d "name").isSome at h
  rw [hname] at h
  cases h

/-- Lists of records that are alike, with the proposition that one of them has no name. -/
theorem forall₂_masked {rs rs' all : List Json} (h : List.Forall₂ Alike rs rs') (hall : rs ⊆ all) :
    List.Forall₂ (Masked (∃ r ∈ all, Nameless r)) rs rs' := by
  induction h with
  | nil => exact .nil
  | cons hr _ ih =>
    obtain ⟨hmem, hrest⟩ := List.cons_subset.1 hall
    exact .cons ⟨hr, fun hnameless => ⟨_, hmem, hnameless⟩⟩ (ih hrest)

variable {kind : ServiceKind} {n : String} {v v' : Option Json} {r r' : Json}

theorem rel_veiled_refl (n : String) (v : Option Json) : Option.Rel (Veiled n) v v := by
  cases v with
  | none => exact .none
  | some v => exact .some (.same v)

/-- Members in step make records alike. -/
theorem rel_value?_of_forall₂ {d d' : Dict Json}
    (h : List.Forall₂ (fun e e' => e.1 = e'.1 ∧ Veiled e.1 e.2 e'.2) d d') (n : String) :
    Option.Rel (Veiled n) (value? d n) (value? d' n) := by
  induction h with
  | nil => exact .none
  | @cons e e' _ _ he _ ih =>
    obtain ⟨m, v⟩ := e
    obtain ⟨m', v'⟩ := e'
    obtain ⟨rfl, hv⟩ := he
    rw [value?_cons, value?_cons]
    by_cases hm : m = n
    · subst hm
      rw [if_pos rfl, if_pos rfl]
      exact .some hv
    · rw [if_neg hm, if_neg hm]
      exact ih

/-- A member that is no secret is the same. -/
theorem eq_of_rel_veiled (h : Option.Rel (Veiled n) v v')
    (hn : ∀ f : Field, f.secret → f.name ≠ n) : v = v' := by
  cases h with
  | none => rfl
  | some h =>
    cases h with
    | same => rfl
    | secret hf hfn => exact absurd hfn (hn _ hf)

/-- A text is fine for a secret, and any other member is the same on both sides. -/
theorem diagnose_eq_of_rel_veiled {f : Field} (h : Option.Rel (Veiled f.name) v v')
    (path : String) : f.attr.diagnose v path = f.attr.diagnose v' path := by
  cases h with
  | none => rfl
  | some h =>
    cases h with
    | same => rfl
    | @secret g hg hgf =>
      obtain rfl : f = g := (Field.name_injective hgf).symm
      rw [Field.diagnose_secret hg, Field.diagnose_secret hg]

theorem rel_veiled_settle (h : Option.Rel (Veiled n) v v') :
    Option.Rel (Veiled n) ((block kind).settle n v) ((block kind).settle n v') := by
  cases h with
  | none => exact rel_veiled_refl n _
  | some h =>
    cases h with
    | same => exact rel_veiled_refl n _
    | secret hf hn hs hs' =>
      subst hn
      have hregistered := Field.registered_of_secret hf kind
      obtain ⟨u, hu, hne⟩ := Field.settle_secret hf hs
      obtain ⟨u', hu', hne'⟩ := Field.settle_secret hf hs'
      rw [settle_block_field hregistered, settle_block_field hregistered, hu, hu']
      exact .some (.secret hf rfl hne hne')

namespace Alike

theorem member? (h : Alike r r') (n : String) :
    Option.Rel (Veiled n) (r.member? n) (r'.member? n) := by
  cases h with
  | plain => exact rel_veiled_refl n _
  | object _ _ h => exact h n

/-- The members of records that are alike, none if these are no objects. -/
theorem members (h : Alike r r') :
    Ordered (r.members?.getD []) ∧ Ordered (r'.members?.getD []) ∧ ∀ n,
      Option.Rel (Veiled n) (value? (r.members?.getD []) n) (value? (r'.members?.getD []) n) := by
  cases h with
  | plain hr =>
    have hnone : r.members? = none := by
      cases r with
      | object d => exact absurd rfl (hr d)
      | _ => rfl
    rw [hnone]
    exact ⟨ordered_nil, ordered_nil, fun n => .none⟩
  | object hd hd' h => exact ⟨hd, hd', h⟩

theorem member?_name (h : Alike r r') : r.member? "name" = r'.member? "name" :=
  eq_of_rel_veiled (h.member? "name") fun f _ => f.name_ne_name

/-- **Records that are alike have normal forms that are alike.** -/
theorem normalize (h : Alike r r') :
    Alike ((block kind).normalize r) ((block kind).normalize r') := by
  cases h with
  | plain hr =>
    rw [Block.normalize_of_ne_object _ hr]
    exact .plain hr
  | object hd hd' h =>
    rw [Block.normalize_object, Block.normalize_object]
    refine .object (Block.ordered_settled _ hd) (Block.ordered_settled _ hd') fun n => ?_
    rw [Block.value?_settled (ordered_block kind) hd, Block.value?_settled (ordered_block kind) hd']
    exact rel_veiled_settle (h n)

/-- **Records that are alike have the same faults.** -/
theorem diagnose_eq (h : Alike r r') (path : String) :
    (block kind).diagnose r path = (block kind).diagnose r' path := by
  cases h with
  | plain => rfl
  | @object d d' _ _ h =>
    rw [Block.diagnose_object, Block.diagnose_object, blocks_block]
    refine congrArg (· ++ _) (List.flatMap_congr fun e he => ?_)
    rcases mem_attributes_block_iff.1 he with rfl | ⟨f, -, rfl⟩
    · rw [eq_of_rel_veiled (h "name") fun f _ => f.name_ne_name]
    · rw [diagnose_eq_of_rel_veiled (h f.name)]

end Alike

end Endpoint

/-! ## Faults -/

open Endpoint

/-- **The same fault of a comparison**, unless a proposition holds: then two faults may also be those
of objects without a name that differ in secrets, each of which tells the object. -/
inductive Reconcile.DiffFault.SameUnless (p : Prop) :
    Reconcile.DiffFault → Reconcile.DiffFault → Prop
  | same (cause : Reconcile.DiffFault) : SameUnless p cause cause
  | nameless (hp : p) {r r' : Json} (h : Endpoint.Alike r r') (hr : Nameless r)
    (hr' : Nameless r') : SameUnless p (.noKey ("record has no name: " ++ r.compact))
      (.noKey ("record has no name: " ++ r'.compact))

/-- **The same fault**, unless a proposition holds: then two faults may also be those of comparisons
that met an object without a name. -/
inductive Fault.SameUnless (p : Prop) : Fault → Fault → Prop
  | same (fault : Fault) : SameUnless p fault fault
  | diff {cause cause' : Reconcile.DiffFault} (h : cause.SameUnless p cause') :
    SameUnless p (.diff cause) (.diff cause')

/-- **Outcomes that end in the same way**: both computations succeed, or both fail, for the same
fault unless the proposition holds. -/
abbrev EndSameUnless (p : Prop) {α β : Type} (x : Except Fault α) (y : Except Fault β) : Prop :=
  InStep (Fault.SameUnless p) (fun _ _ => True) x y

/-- **Where the proposition fails**, both computations succeed or both fail for the same fault. -/
theorem EndSameUnless.ok_or_error {p : Prop} {α β : Type} {x : Except Fault α} {y : Except Fault β}
    (h : EndSameUnless p x y) (hp : ¬p) :
    (∃ a b, x = .ok a ∧ y = .ok b) ∨ ∃ fault, x = .error fault ∧ y = .error fault := by
  cases h with
  | ok => exact .inl ⟨_, _, rfl, rfl⟩
  | error h =>
    cases h with
    | same => exact .inr ⟨_, rfl, rfl⟩
    | diff h =>
      cases h with
      | same => exact .inr ⟨_, rfl, rfl⟩
      | nameless h => exact absurd h hp

/-- **Requests that name the same endpoint** for the same purpose. -/
inductive Call.Alike : Call → Call → Prop
  | create (t : Target) (n : String) (settings settings' : Settings) :
    Alike (.create t n settings) (.create t n settings')
  | update (t : Target) (n : String) (settings settings' : Settings) :
    Alike (.update t n settings) (.update t n settings')
  | delete (t : Target) (n : String) : Alike (.delete t n) (.delete t n)

namespace Endpoint

variable {p : Prop} {kind : ServiceKind} {target : Target} {purpose : Purpose} {f : Field}
  {r r' : Json}

/-- **Records that are alike have the same name**, or none. -/
theorem Masked.nameOf (h : Masked p r r') :
    InStep (Reconcile.DiffFault.SameUnless p) (· = ·) (Reconcile.nameOf r)
      (Reconcile.nameOf r') := by
  obtain ⟨halike, hp⟩ := h
  have hname := halike.member?_name
  cases halike with
  | plain =>
    cases Reconcile.nameOf r with
    | error cause => exact .error (.same cause)
    | ok n => exact .ok rfl
  | @object d d' hd hd' hmembers =>
    unfold Reconcile.nameOf
    cases hr' : (Json.object d').member? "name" with
    | none =>
      rw [hr'] at hname
      rw [hname]
      have hr : Nameless (.object d) := ⟨d, rfl, hname⟩
      exact .error (.nameless (hp hr) (.object hd hd' hmembers) hr ⟨d', rfl, hr'⟩)
    | some v =>
      rw [hname, hr']
      cases v with
      | string s => exact .ok rfl
      | _ => exact .error (.same _)

theorem Masked.recordName (h : Masked p r r') :
    InStep (Fault.SameUnless p) (· = ·) (recordName r) (recordName r') :=
  h.nameOf.mapError fun _ _ => .diff

/-! ## What is sent -/

/-- **What two changes of a member have in common**: they are the same, or each of them is a text or
nothing, for a secret. -/
inductive Blurred (n : String) : Option Json → Option Json → Prop
  | same (v : Option Json) : Blurred n v v
  | secret {f : Field} (hf : f.secret) (hn : f.name = n) {v v' : Option Json}
    (hv : ∀ w, v = some w → ∃ s, w = .string s) (hv' : ∀ w, v' = some w → ∃ s, w = .string s) :
    Blurred n v v'

theorem Blurred.of_rel {n : String} {v v' : Option Json} (h : Option.Rel (Veiled n) v v') :
    Blurred n v v' := by
  cases h with
  | none => exact .same _
  | some h =>
    cases h with
    | same => exact .same _
    | @secret f hf hn s s' =>
      refine .secret hf hn (fun w hw => ⟨s, ?_⟩) fun w hw => ⟨s', ?_⟩
      · exact (Option.some.inj hw).symm
      · exact (Option.some.inj hw).symm

/-- A text or nothing can be read where a text is wanted. -/
theorem Kind.exists_read_text {name : String} {v : Option Json}
    (hv : ∀ w, v = some w → ∃ s, w = .string s) : ∃ u, Kind.text.read name purpose v = .ok u := by
  cases v with
  | none => cases purpose <;> exact ⟨none, rfl⟩
  | some w =>
    obtain ⟨s, rfl⟩ := hv w rfl
    cases purpose with
    | update => exact ⟨some s, rfl⟩
    | create =>
      by_cases hs : s = ""
      · exact ⟨none, if_pos ⟨rfl, hs⟩⟩
      · exact ⟨some s, if_neg fun h => hs h.2⟩

/-- **What is read of a member** ends in the same way. -/
theorem Blurred.read {v v' : Option Json} (h : Blurred f.name v v') :
    EndSameUnless p (f.kind.read f.name purpose v) (f.kind.read f.name purpose v') := by
  cases h with
  | same v =>
    cases f.kind.read f.name purpose v with
    | error fault => exact .error (.same fault)
    | ok u => exact .ok trivial
  | @secret g hg hgf _ _ hv hv' =>
    obtain rfl : f = g := (Field.name_injective hgf).symm
    obtain ⟨u, hu⟩ : ∃ u, f.kind.read f.name purpose v = .ok u := by
      rw [Field.kind_of_secret hg]
      exact Kind.exists_read_text hv
    obtain ⟨u', hu'⟩ : ∃ u, f.kind.read f.name purpose v' = .ok u := by
      rw [Field.kind_of_secret hg]
      exact Kind.exists_read_text hv'
    rw [hu, hu']
    exact .ok trivial

/-- **What is sent for members** ends in the same way. -/
theorem settingsFor_endSame {d d' : Dict Json}
    (h : ∀ f : Field, Blurred f.name (value? d f.name) (value? d' f.name)) :
    EndSameUnless p (settingsFor kind purpose d) (settingsFor kind purpose d') := by
  unfold settingsFor
  refine InStep.bind (InStep.forM fun f _ => ?_) fun _ _ _ => .ok trivial
  have hread : EndSameUnless p (f.read purpose d) (f.read purpose d') := (h f).read
  exact hread.map fun _ _ _ => trivial

/-! ## Requests -/

theorem Masked.deleteCall (h : Masked p r r') :
    InStep (Fault.SameUnless p) Call.Alike (deleteCall target r) (deleteCall target r') := by
  apply h.recordName.bind
  rintro n _ rfl
  exact .ok (.delete target n)

theorem Alike.recordObject (h : Alike r r') : InStep (Fault.SameUnless p)
    (fun d d' => ∀ n, Option.Rel (Veiled n) (value? d n) (value? d' n)) (recordObject r)
      (recordObject r') := by
  cases h with
  | plain hr =>
    cases r with
    | object d => exact absurd rfl (hr d)
    | _ => exact .error (.same _)
  | object _ _ h => exact .ok h

/-- **Records that are alike are created by requests that are alike**, or fail for the same
fault. -/
theorem Masked.createCall (h : Masked p r r') : InStep (Fault.SameUnless p) Call.Alike
    (createCall kind target r) (createCall kind target r') := by
  apply h.alike.recordObject.bind
  intro d d' hd
  apply h.recordName.bind
  rintro n _ rfl
  have hsettings : EndSameUnless p (settingsFor kind .create d) (settingsFor kind .create d') :=
    settingsFor_endSame fun f => .of_rel (hd f.name)
  exact hsettings.bind fun settings settings' _ => .ok (.create target n settings settings')

end Endpoint

end LoggingProvider
