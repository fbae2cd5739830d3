import LoggingProvider.Proofs.Reconcile.Lockstep
import LoggingProvider.Proofs.Reconcile.Named
import LoggingProvider.Proofs.Remote.Unseen

/-!
# Reconciliations that differ in secrets

Two reconciliations between sets of records that are alike take their steps together: the same
endpoints are deleted and created, or the same fault is met. Which endpoints are updated
depends on the secrets, for a record is modified if one of its secrets is. Where the same records
are modified, the steps are requests that are alike, and an interface that does not look at settings
answers them alike.

## Main definitions

* `Reconcile.changeOf`: what changed in a member
* `Reconcile.modifiedNames`: the names of the records that are modified

## Main results

* `Reconcile.patch_inStep`, `Reconcile.updateFor_inStep`: what changed in records that are alike
* `Reconcile.endpoints_endSame`: reconciliations that differ in secrets fail together
-/

namespace LoggingProvider

namespace Reconcile

open Dict Endpoint Outcome

variable {p : Prop} {kind : ServiceKind} {target : Target} {old old' new new' : List Json}
  {r r' : Json}

/-- The name of a record is no secret. -/
theorem byName_ignores (p : Prop) : byName.Ignores (DiffFault.SameUnless p) (Masked p) where
  key h := h.nameOf
  duplicate _ _ := .same _

/-! ## What changed -/

theorem findNamed_inStep (h : List.Forall₂ (Masked p) old old') (n : String) :
    InStep (DiffFault.SameUnless p) (Masked p) (findNamed n old) (findNamed n old') := by
  induction h with
  | nil => exact .error (.same _)
  | @cons a b rest rest' hab _ ih =>
    have hname := hab.nameOf
    unfold findNamed
    generalize nameOf a = x, nameOf b = y at hname
    cases hname with
    | error h => exact .error h
    | @ok m _ h =>
      subst h
      simp only
      split
      · exact .ok hab
      · exact ih

/-- **What changed in a member**: nothing if it is the same, and null if it is gone. -/
def changeOf (o : Option Json) : Option Json → Option Json
  | some v => if o.any (· == v) then none else some v
  | none => o.map fun _ => .null

/-- What changed in a member that is a text now is that text. -/
theorem eq_string_of_changeOf {o : Option Json} {s : String} {w : Json}
    (h : changeOf o (some (.string s)) = some w) : ∃ t, w = .string t := by
  simp only [changeOf] at h
  split at h
  · cases h
  · exact ⟨s, (Option.some.inj h).symm⟩

/-- **What changed in members that differ in a secret** is the same, or a text or nothing of the
secret. -/
theorem blurred_changeOf {n : String} {o o' d d' : Option Json} (ho : Option.Rel (Veiled n) o o')
    (hd : Option.Rel (Veiled n) d d') : Blurred n (changeOf o d) (changeOf o' d') := by
  cases hd with
  | none =>
    cases ho <;> exact .same _
  | @some v _ hv =>
    cases hv with
    | secret hf hn =>
      exact .secret hf hn (fun _ h => eq_string_of_changeOf h) fun _ h => eq_string_of_changeOf h
    | same =>
      cases ho with
      | none => exact .same _
      | some hw =>
        cases hw with
        | same => exact .same _
        | secret hf hn =>
          -- No secret is the same as a value that is no text.
          cases v with
          | string t =>
            exact .secret hf hn (fun _ h => eq_string_of_changeOf h) fun _ h =>
              eq_string_of_changeOf h
          | _ => exact .same _

/-- **What changed in records that are alike**, against sets that are alike. -/
theorem patch_inStep (hr : Masked p r r') (h : List.Forall₂ (Masked p) old old') :
    InStep (DiffFault.SameUnless p) (fun d d' => ∀ n, Blurred n (value? d n) (value? d' n))
      (patch r old) (patch r' old') := by
  have hname := hr.nameOf
  unfold patch
  generalize nameOf r = x, nameOf r' = y at hname
  cases hname with
  | error h => exact .error h
  | @ok n _ hn =>
    subst hn
    have hfound := findNamed_inStep h n
    simp only
    generalize findNamed n old = x, findNamed n old' = y at hfound
    cases hfound with
    | error h => exact .error h
    | ok hprevious =>
      obtain ⟨ho, ho', hold⟩ := hprevious.alike.members
      obtain ⟨hd, hd', hnew⟩ := hr.alike.members
      apply InStep.ok
      intro n
      have hleft := value?_changedMembers ho hd n
      have hright := value?_changedMembers ho' hd' n
      rw [hleft, hright]
      exact blurred_changeOf (hold n) (hnew n)

/-! ## Steps -/

/-- **Modified records that are alike** are updated by requests that are alike. -/
theorem updateFor_inStep (h : List.Forall₂ (Masked p) old old') (hr : Masked p r r') :
    InStep (Fault.SameUnless p) Call.Alike (updateFor kind target old r)
      (updateFor kind target old' r') := by
  unfold updateFor updateCall
  have hpatch : InStep (Fault.SameUnless p) (fun d d' => ∀ n, Blurred n (value? d n) (value? d' n))
      ((patch r old).mapError .diff) ((patch r' old').mapError .diff) :=
    (patch_inStep hr h).mapError fun _ _ => .diff
  apply hpatch.bind
  intro d d' hd
  apply hr.recordName.bind
  rintro n _ rfl
  have hsettings : EndSameUnless p (settingsFor kind .update d) (settingsFor kind .update d') :=
    settingsFor_endSame fun f => hd f.name
  exact hsettings.bind fun settings settings' _ => .ok (.update target n settings settings')

/-- **The steps of differences in step**, if the same records are modified. -/
theorem steps_inStep (hold : List.Forall₂ (Masked p) old old') {parts parts' : Partition Json}
    (hparts : byName.InStep (Masked p) parts parts')
    (hmodified : parts.modified.map nameOf = parts'.modified.map nameOf) :
    List.Forall₂ (InStep (Fault.SameUnless p) Call.Alike) (steps kind target old parts)
      (steps kind target old' parts') := by
  unfold steps
  apply List.rel_append
  · apply List.rel_append
    · exact List.rel_map (fun _ _ h => h.deleteCall) hparts.deleted
    · exact List.rel_map (fun _ _ h => h.createCall) hparts.added
  · exact List.rel_map (fun _ _ h => updateFor_inStep hold h) (hparts.modified hmodified)

/-! ## Reconciliations -/

/-- **The names of the records that are modified** between two sets, none if these cannot be
compared. -/
def modifiedNames (old new : List Json) : List (Except DiffFault String) :=
  match byName.diff old new with
  | .ok p => p.modified.map nameOf
  | .error _ => []

theorem modifiedNames_of_diff {p : Partition Json} (h : byName.diff old new = .ok p) :
    modifiedNames old new = p.modified.map nameOf := by
  unfold modifiedNames
  rw [h]

/-- Where there were no records, none is modified. -/
theorem modifiedNames_nil_left (new : List Json) : modifiedNames [] new = [] := by
  unfold modifiedNames
  split
  · next p hp =>
    have hkeyed := (Keying.exists_diff_iff.1 ⟨p, hp⟩).2
    obtain rfl := Except.ok.inj (hp.symm.trans (Keying.diff_nil hkeyed))
    rfl
  · rfl

/-- Where no records are wanted, none is modified. -/
theorem modifiedNames_nil_right (old : List Json) : modifiedNames old [] = [] := by
  unfold modifiedNames
  split
  · next p hp =>
    have hkeyed := (Keying.exists_diff_iff.1 ⟨p, hp⟩).1
    obtain rfl := Except.ok.inj (hp.symm.trans (Keying.diff_nil_right hkeyed))
    rfl
  · rfl

variable {σ : Type} {remote : Remote σ} {R : σ → σ → Prop} {s s' : σ}

/-- **Reconciliations that differ in secrets** fail together if they modify the same records. -/
theorem endpoints_endSame (hR : remote.Unseeing R) (hs : R s s')
    (hold : List.Forall₂ (Masked p) old old') (hnew : List.Forall₂ (Masked p) new new')
    (hmodified : modifiedNames old new = modifiedNames old' new') :
    EndSameUnless p (endpoints remote kind target old new s).1
      (endpoints remote kind target old' new' s').1 := by
  have hdiff := Keying.diff_inStep (byName_ignores p) hold hnew
  generalize hparts : byName.diff old new = parts, hparts' : byName.diff old' new' = parts' at hdiff
  cases hdiff with
  | error h =>
    rw [endpoints_of_diff_error hparts, endpoints_of_diff_error hparts']
    exact .error (.diff h)
  | ok h =>
    rw [modifiedNames_of_diff hparts, modifiedNames_of_diff hparts'] at hmodified
    rw [endpoints_of_diff hparts, endpoints_of_diff hparts']
    exact Remote.attemptSteps_endSame hR (steps_inStep hold h hmodified) hs

end Reconcile

end LoggingProvider
