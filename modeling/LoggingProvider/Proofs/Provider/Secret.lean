import LoggingProvider.Proofs.Provider.Operations
import LoggingProvider.Proofs.Reconcile.Secret

/-!
# Secrets and what is said of them

Two states are alike if they differ in the secrets of their records at most. They have the same
findings. They are planned, created and deleted, or not for the same fault, and so are they updated
where the same records are modified. The one fault that differs is that of an object without a name,
which is told with its secrets.

Which records are modified is a matter of their secrets. The fault of an update names the record at
which it ends, and so it can tell whether a secret was changed.

## Main definitions

* `State.Alike`: states that differ in secrets at most

## Main results

* `State.plan_endSame`: plans from and to states that are alike
* `Provider.resourceFindings_eq_of_alike`: the findings about states that are alike
* `Provider.create_endSame`, `Provider.update_endSame`, `Provider.delete_endSame`: the operations on
  states that are alike
* `Provider.secrets_hidden`: how far what the provider says does not depend on secrets
* `Provider.secrets_told`: where it does
-/

namespace LoggingProvider

open Dict Endpoint Outcome Reconcile

namespace State

/-! ## States -/

/-- **Lists of records that are alike**, or values that are no lists and the same. -/
inductive RowsAlike : Json → Json → Prop
  | plain {v : Json} (h : ∀ items, v ≠ .array items) : RowsAlike v v
  | array {rows rows' : List Json} (h : List.Forall₂ Endpoint.Alike rows rows') :
    RowsAlike (.array rows) (.array rows')

/-- **Two states that differ in secrets at most**: they have the same attributes, and records that
are alike. -/
inductive Alike : Json → Json → Prop
  | plain {c : Json} (h : ∀ d, c ≠ .object d) : Alike c c
  | object {d d' : Dict Json} (hd : Ordered d) (hd' : Ordered d')
    (hattributes : ∀ n ≠ blockName, value? d n = value? d' n)
    (hrecords : Option.Rel RowsAlike (value? d blockName) (value? d' blockName)) :
    Alike (.object d) (.object d')

variable {kind : ServiceKind} {c c' prior prior' : Json} {v v' : Option Json}

theorem forall₂_items (h : Option.Rel RowsAlike v v') :
    List.Forall₂ Endpoint.Alike ((v.bind Json.items?).getD []) ((v'.bind Json.items?).getD []) := by
  cases h with
  | none => exact .nil
  | @some w _ h =>
    cases h with
    | array h => exact h
    | plain h =>
      cases w with
      | array items => exact absurd rfl (h items)
      | _ => exact .nil

/-- Where a state addresses no service version, two of its members say why. -/
theorem target_congr (hservice : c.member? "service_id" = c'.member? "service_id")
    (hversion : c.member? "version" = c'.member? "version") : target c = target c' := by
  unfold target serviceId? version? Json.memberD
  rw [hservice, hversion]

namespace Alike

theorem ordered_left (h : Alike c c') : ∀ d, c = .object d → Ordered d := by
  intro d hd
  cases h with
  | plain h => exact absurd hd (h d)
  | object hordered => exact Json.object.inj hd ▸ hordered

theorem ordered_right (h : Alike c c') : ∀ d, c' = .object d → Ordered d := by
  intro d hd
  cases h with
  | plain h => exact absurd hd (h d)
  | object _ hordered => exact Json.object.inj hd ▸ hordered

theorem forall₂_records (h : Alike c c') :
    List.Forall₂ Endpoint.Alike (records c blockName) (records c' blockName) := by
  cases h with
  | object _ _ _ hrecords => exact forall₂_items hrecords
  | plain h =>
    cases c with
    | object d => exact absurd rfl (h d)
    | _ => exact .nil

/-- **The records that are asked for** by states that are alike. -/
theorem forall₂_desired (kind : ServiceKind) (h : Alike c c') :
    List.Forall₂ Endpoint.Alike (desired kind c) (desired kind c') :=
  List.rel_map (fun _ _ hr => hr.normalize) h.forall₂_records

theorem target_eq (h : Alike c c') : target c = target c' := by
  cases h with
  | plain => rfl
  | object _ _ hattributes =>
    exact target_congr (hattributes _ (by decide)) (hattributes _ (by decide))

/-- The normal forms of states that are alike address the same service version, or none for the same
reason. -/
theorem target_normalize_eq (h : Alike c c') :
    target (normalize (schemaOf kind) c) = target (normalize (schemaOf kind) c') := by
  cases h with
  | plain => rfl
  | @object d d' hd hd' hattributes =>
    have hmember : ∀ n, n ≠ "id" → n ≠ blockName →
        (normalize (schemaOf kind) (.object d)).member? n =
          (normalize (schemaOf kind) (.object d')).member? n := by
      intro n hid hblock
      rw [member?_normalize_attribute hd hid hblock, member?_normalize_attribute hd' hid hblock,
        hattributes n hblock]
    exact target_congr (hmember "service_id" (by decide) (by decide))
      (hmember "version" (by decide) (by decide))

end Alike

/-! ## Plans -/

/-- There is a plan if the records can be compared. -/
theorem exists_plan_of_diff (hc : ∀ d, c = .object d → Ordered d) {p : Partition Json}
    (h : byName.diff (records prior blockName) (desired kind c) = .ok p) :
    ∃ q, plan (schemaOf kind) prior c = .ok q := by
  rw [← records_normalize_of_ordered hc, ← planned_eq] at h
  obtain ⟨hold, hnew⟩ := Keying.exists_diff_iff.1 ⟨p, h⟩
  obtain ⟨l, hl⟩ : ∃ l, changes (schemaOf kind) prior (planned (schemaOf kind) c) = .ok l :=
    exists_changes hold hnew
  obtain ⟨q, hq, -⟩ := exists_plan hl
  exact ⟨q, hq⟩

/-- Without a comparison of the records there is no plan. -/
theorem plan_of_diff_error (hc : ∀ d, c = .object d → Ordered d) {cause : DiffFault}
    (h : byName.diff (records prior blockName) (desired kind c) = .error cause) :
    plan (schemaOf kind) prior c = .error (.diff cause) := by
  rw [← records_normalize_of_ordered hc, ← planned_eq] at h
  unfold plan changes blockChanges
  rw [blocks_schemaOf]
  simp only [Dict.names, List.map_cons, List.map_nil, List.mapM_cons, h]
  rfl

/-- **Plans from and to states that are alike** are made, or not for the same fault. -/
theorem plan_endSame (kind : ServiceKind) (hprior : Alike prior prior') (hc : Alike c c') :
    EndSameUnless (∃ r ∈ records prior blockName ++ desired kind c, Nameless r)
      (plan (schemaOf kind) prior c) (plan (schemaOf kind) prior' c') := by
  have hdiff := Keying.diff_inStep (byName_ignores _)
    (forall₂_masked hprior.forall₂_records (List.subset_append_left _ (desired kind c)))
    (forall₂_masked (hc.forall₂_desired kind) (List.subset_append_right _ _))
  generalize hp : byName.diff (records prior blockName) (desired kind c) = p,
    hp' : byName.diff (records prior' blockName) (desired kind c') = p' at hdiff
  cases hdiff with
  | error h =>
    rw [plan_of_diff_error hc.ordered_left hp, plan_of_diff_error hc.ordered_right hp']
    exact .error (.diff h)
  | ok =>
    obtain ⟨q, hq⟩ := exists_plan_of_diff hc.ordered_left hp
    obtain ⟨q', hq'⟩ := exists_plan_of_diff hc.ordered_right hp'
    rw [hq, hq']
    exact .ok trivial

end State

namespace Provider

open State

variable {kind : ServiceKind} {c c' prior prior' : Json}

/-! ## Findings -/

/-- Lists of records that are alike have the same faults. -/
theorem diagnose_rows {v v' : Option Json} (h : Option.Rel RowsAlike v v') (path : String) :
    (Nested.set (block kind)).diagnose v path = (Nested.set (block kind)).diagnose v' path := by
  cases h with
  | none => rfl
  | some h =>
    cases h with
    | plain => rfl
    | array h =>
      have hitem : ∀ r r', Endpoint.Alike r r' → ∀ i : Nat,
          (block kind).diagnose r (Schema.itemPath path i) =
            (block kind).diagnose r' (Schema.itemPath path i) := fun _ _ hr i => hr.diagnose_eq _
      exact congrArg₂ (· ++ ·) (Nested.diagnoseCount_congr _ h.length_eq path)
        (flatMap_zipIdx_congr h hitem 0)

theorem duplicateFindings_eq_of_alike (h : State.Alike c c') :
    duplicateFindings c = duplicateFindings c' := by
  have hdiff := Keying.diff_inStep (byName_ignores _) .nil
    (forall₂_masked h.forall₂_records (List.Subset.refl _))
  unfold duplicateFindings
  generalize byName.diff [] (records c blockName) = p, byName.diff [] (records c' blockName) = p'
    at hdiff
  cases hdiff with
  | ok => rfl
  | error h =>
    cases h with
    | same | nameless => rfl

/-- **The findings about states that are alike** are the same. -/
theorem resourceFindings_eq_of_alike (h : State.Alike c c') :
    resourceFindings kind c = resourceFindings kind c' := by
  unfold resourceFindings
  rw [duplicateFindings_eq_of_alike h]
  refine congrArg (· ++ _) ?_
  unfold Schema.validate
  cases h with
  | plain => rfl
  | object _ _ hattributes hrecords =>
    rw [Block.diagnose_object, Block.diagnose_object, blocks_schemaOf]
    refine congrArg₂ _ (List.flatMap_congr fun e he => ?_) (List.flatMap_congr fun e he => ?_)
    · -- The attributes are the same, for none of them has the name of the block.
      have hname : e.1 ∈ names (schemaOf kind).block.attributes := List.mem_map_of_mem he
      rw [names_attributes_schemaOf] at hname
      have hne : e.1 ≠ blockName := by
        rintro heq
        rw [heq] at hname
        exact absurd hname (by decide)
      rw [hattributes e.1 hne]
    · obtain rfl := List.mem_singleton.1 he
      exact diagnose_rows hrecords _

/-! ## Operations -/

section Operations

variable {σ : Type} {remote : Remote σ} {R : σ → σ → Prop} {s s' : σ}

/-- **Updates between states that are alike** fail together if they modify the same records. -/
theorem update_endSame (hR : remote.Unseeing R) (hs : R s s') (hprior : State.Alike prior prior')
    (hc : State.Alike c c') (hmodified :
      modifiedNames (records prior blockName) (desired kind c) =
        modifiedNames (records prior' blockName) (desired kind c')) :
    EndSameUnless (∃ r ∈ records prior blockName ++ desired kind c, Nameless r)
      (update remote kind prior c s).1 (update remote kind prior' c' s').1 := by
  unfold update
  rw [← hc.target_normalize_eq, records_normalize_of_ordered hc.ordered_left,
    records_normalize_of_ordered hc.ordered_right]
  apply Action.bind_inStep (R := (· = ·))
  · exact Fault.SameUnless.inStep_self _ _
  rintro t _ rfl
  -- The state that is returned is not looked at, so the reconciliation decides.
  refine Action.bind_inStep (R := fun _ _ => True) ?_ fun _ _ _ => .ok trivial
  have hold := forall₂_masked hprior.forall₂_records
    (List.subset_append_left (records prior blockName) (desired kind c))
  have hnew := forall₂_masked (hc.forall₂_desired kind)
    (List.subset_append_right (records prior blockName) (desired kind c))
  exact endpoints_endSame hR hs hold hnew hmodified

/-- A creation is an update from a state without records. -/
theorem create_eq_update : create remote kind c = update remote kind .null c := rfl

/-- **Creations from states that are alike** fail together. -/
theorem create_endSame (hR : remote.Unseeing R) (hs : R s s') (hc : State.Alike c c') :
    EndSameUnless (∃ r ∈ desired kind c, Nameless r) (create remote kind c s).1
      (create remote kind c' s').1 := by
  have hnull : State.Alike .null .null := .plain nofun
  rw [create_eq_update, create_eq_update]
  apply update_endSame hR hs hnull hc
  show modifiedNames [] _ = modifiedNames [] _
  rw [modifiedNames_nil_left, modifiedNames_nil_left]

/-- **Deletions of states that are alike** fail together. -/
theorem delete_endSame (hR : remote.Unseeing R) (hs : R s s') (hc : State.Alike c c') :
    EndSameUnless (∃ r ∈ records c blockName, Nameless r) (delete remote kind c s).1
      (delete remote kind c' s').1 := by
  unfold delete
  rw [← hc.target_eq]
  apply Action.bind_inStep (R := (· = ·))
  · exact Fault.SameUnless.inStep_self _ _
  rintro t _ rfl
  exact endpoints_endSame hR hs (forall₂_masked hc.forall₂_records (List.Subset.refl _)) .nil
    (by rw [modifiedNames_nil_right, modifiedNames_nil_right])

end Operations

/-! ## The provider -/

/-- **How far what the provider says does not depend on secrets.** States that differ in secrets at
most have the same findings. With and without a prior state they are planned, created and deleted,
or not for the same fault, unless one of the records that are compared is an object without a name:
then both may also fail for such an object, which is told. The same holds of updates if the same
records are modified. -/
theorem secrets_hidden (around : Surroundings Store) (kind : ServiceKind)
    (hprior : State.Alike prior prior') (hc : State.Alike c c') (s : Store) :
    ((plugin around).validateResourceConfig kind.resourceType c ⟨some Store.remote, s⟩).1 =
        ((plugin around).validateResourceConfig kind.resourceType c' ⟨some Store.remote, s⟩).1 ∧
      (∀ config config',
        EndSameUnless (∃ r ∈ desired kind c, Nameless r)
          ((plugin around).plan kind.resourceType none c config ⟨some Store.remote, s⟩).1
          ((plugin around).plan kind.resourceType none c' config' ⟨some Store.remote, s⟩).1 ∧
        EndSameUnless (∃ r ∈ records prior blockName ++ desired kind c, Nameless r)
          ((plugin around).plan kind.resourceType (some prior) c config
            ⟨some Store.remote, s⟩).1
          ((plugin around).plan kind.resourceType (some prior') c' config'
            ⟨some Store.remote, s⟩).1) ∧
      EndSameUnless (∃ r ∈ desired kind c, Nameless r)
        ((plugin around).create kind.resourceType c ⟨some Store.remote, s⟩).1
        ((plugin around).create kind.resourceType c' ⟨some Store.remote, s⟩).1 ∧
      EndSameUnless (∃ r ∈ records c blockName, Nameless r)
        ((plugin around).delete kind.resourceType c ⟨some Store.remote, s⟩).1
        ((plugin around).delete kind.resourceType c' ⟨some Store.remote, s⟩).1 ∧
      (modifiedNames (records prior blockName) (desired kind c) =
          modifiedNames (records prior' blockName) (desired kind c') →
        EndSameUnless (∃ r ∈ records prior blockName ++ desired kind c, Nameless r)
          ((plugin around).update kind.resourceType prior c ⟨some Store.remote, s⟩).1
          ((plugin around).update kind.resourceType prior' c' ⟨some Store.remote, s⟩).1) := by
  have hs : Store.SameNames s s := .refl s
  have hnull : State.Alike .null .null := .plain nofun
  refine ⟨?_, fun config config' => ⟨?_, ?_⟩, ?_, ?_, fun hmodified => ?_⟩
  · change ((Action.ofExcept _ >>= _) _).1 = ((Action.ofExcept _ >>= _) _).1
    rw [ofKind_bind, ofKind_bind, resourceFindings_eq_of_alike hc]
  all_goals
    change EndSameUnless _ ((Action.ofExcept _ >>= _) _).1 ((Action.ofExcept _ >>= _) _).1
    rw [ofKind_bind, ofKind_bind]
  · exact plan_endSame kind hnull hc
  · exact plan_endSame kind hprior hc
  · exact create_endSame Store.unseeing hs hc
  · exact delete_endSame Store.unseeing hs hc
  · exact update_endSame Store.unseeing hs hprior hc hmodified

/-- A record with a password, in normal form. -/
def guarded (name password topic : String) : Json := .object
  [("name", .string name), ("parse_log_keyvals", .bool false), ("password", .string password),
    ("request_max_bytes", .ofNat 0), ("topic", .string topic), ("use_tls", .bool false)]

/-- A state with two endpoints, in which the first one has a password and the second one a topic. -/
def keeping (password topic : String) : Json := .object
  [("id", .string "svc"),
    ("logging_kafka", .array [guarded "a" password "logs", guarded "b" "tiger" topic]),
    ("service_id", .string "svc"), ("version", .ofNat 1)]

theorem alike_guarded {password password' : String} (hp : Text.trim password ≠ "")
    (hp' : Text.trim password' ≠ "") (name topic : String) :
    Endpoint.Alike (guarded name password topic) (guarded name password' topic) := by
  have hnames : ["name", "parse_log_keyvals", "password", "request_max_bytes", "topic",
      "use_tls"].Pairwise (· < ·) := by decide
  refine .object (ordered_of_names _ rfl hnames) (ordered_of_names _ rfl hnames)
    (rel_value?_of_forall₂ ?_)
  refine .cons ⟨rfl, .same _⟩ (.cons ⟨rfl, .same _⟩ (.cons ⟨rfl, ?_⟩ (.cons ⟨rfl, .same _⟩
    (.cons ⟨rfl, .same _⟩ (.cons ⟨rfl, .same _⟩ .nil)))))
  exact .secret (f := .password) rfl rfl hp hp'

theorem alike_keeping {password password' : String} (hp : Text.trim password ≠ "")
    (hp' : Text.trim password' ≠ "") (topic : String) :
    State.Alike (keeping password topic) (keeping password' topic) := by
  have hnames : ["id", "logging_kafka", "service_id", "version"].Pairwise (· < ·) := by decide
  have htiger : Text.trim "tiger" ≠ "" := by decide
  have hrows : List.Forall₂ Endpoint.Alike [guarded "a" password "logs", guarded "b" "tiger" topic]
      [guarded "a" password' "logs", guarded "b" "tiger" topic] :=
    .cons (alike_guarded hp hp' _ _) (.cons (alike_guarded htiger htiger _ _) .nil)
  refine .object (ordered_of_names _ rfl hnames) (ordered_of_names _ rfl hnames) (fun n hn => ?_)
    (.some (.array hrows))
  have hne : "logging_kafka" ≠ n := Ne.symm hn
  simp only [value?_cons, if_neg hne]

/-- A password is changed to one or to another, in states that differ in it before: the findings are
the same, and so is the fault of the updates in a store without endpoints. -/
theorem secrets_hidden_of_passwords :
    State.Alike (keeping "old" "logs") (keeping "lost" "logs") ∧
    State.Alike (keeping "new" "logs") (keeping "fresh" "logs") ∧
    ((plugin (.silent Store)).validateResourceConfig ServiceKind.compute.resourceType
        (keeping "new" "logs") ⟨some Store.remote, .empty⟩).1 =
      ((plugin (.silent Store)).validateResourceConfig ServiceKind.compute.resourceType
        (keeping "fresh" "logs") ⟨some Store.remote, .empty⟩).1 ∧
    ∃ fault,
      ((plugin (.silent Store)).update ServiceKind.compute.resourceType (keeping "old" "logs")
        (keeping "new" "logs") ⟨some Store.remote, .empty⟩).1 = .error fault ∧
      ((plugin (.silent Store)).update ServiceKind.compute.resourceType (keeping "lost" "logs")
        (keeping "fresh" "logs") ⟨some Store.remote, .empty⟩).1 = .error fault := by
  have hprior : State.Alike (keeping "old" "logs") (keeping "lost" "logs") :=
    alike_keeping (by decide) (by decide) _
  have hc : State.Alike (keeping "new" "logs") (keeping "fresh" "logs") :=
    alike_keeping (by decide) (by decide) _
  obtain ⟨hfindings, -, -, -, hupdate⟩ :=
    secrets_hidden (.silent Store) .compute hprior hc .empty
  refine ⟨hprior, hc, hfindings, ?_⟩
  have hnamed : ¬∃ r ∈ records (keeping "old" "logs") blockName ++
      desired .compute (keeping "new" "logs"), Nameless r := by
    rintro ⟨r, hr, hnameless⟩
    have hnames : ∀ r ∈ records (keeping "old" "logs") blockName ++
        desired .compute (keeping "new" "logs"), (r.member? "name").isSome := by decide +kernel
    exact not_nameless (hnames r hr) hnameless
  rcases (hupdate rfl).ok_or_error hnamed with ⟨_, _, hok, -⟩ | hfault
  · cases hok
  · exact hfault

/-- A state with a record that has a password and no name. -/
def unnamed (password : String) : Json := .object
  [("logging_kafka", .array [.object [("password", .string password)]]),
    ("service_id", .string "svc"), ("version", .ofNat 1)]

theorem alike_unnamed {password password' : String} (hp : Text.trim password ≠ "")
    (hp' : Text.trim password' ≠ "") : State.Alike (unnamed password) (unnamed password') := by
  have hrow : Endpoint.Alike (.object [("password", .string password)])
      (.object [("password", .string password')]) := by
    refine .object (List.pairwise_singleton _ _) (List.pairwise_singleton _ _)
      (rel_value?_of_forall₂ (.cons ⟨rfl, ?_⟩ .nil))
    exact .secret (f := .password) rfl rfl hp hp'
  have hnames : ["logging_kafka", "service_id", "version"].Pairwise (· < ·) := by decide
  refine .object (ordered_of_names _ rfl hnames) (ordered_of_names _ rfl hnames) (fun n hn => ?_)
    (.some (.array (.cons hrow .nil)))
  have hne : "logging_kafka" ≠ n := Ne.symm hn
  simp only [value?_cons, if_neg hne]

/-- **Where secrets are told.** An object without a name is told with its password when it is
planned. And an update ends at the first record that is modified, so it tells whether a password was
changed. -/
theorem secrets_told :
    State.Alike (unnamed "old") (unnamed "new") ∧ (∃ fault fault',
      ((plugin (.silent Store)).plan ServiceKind.compute.resourceType none (unnamed "old")
        (unnamed "old") ⟨some Store.remote, .empty⟩).1 = .error fault ∧
      ((plugin (.silent Store)).plan ServiceKind.compute.resourceType none (unnamed "new")
        (unnamed "new") ⟨some Store.remote, .empty⟩).1 = .error fault' ∧
      fault.text ≠ fault'.text) ∧
    State.Alike (keeping "old" "logs") (keeping "old" "logs") ∧
    State.Alike (keeping "new" "audit") (keeping "old" "audit") ∧
    ((plugin (.silent Store)).update ServiceKind.compute.resourceType (keeping "old" "logs")
      (keeping "new" "audit") ⟨some Store.remote, .empty⟩).1 = .error (Store.absent "a") ∧
    ((plugin (.silent Store)).update ServiceKind.compute.resourceType (keeping "old" "logs")
      (keeping "old" "audit") ⟨some Store.remote, .empty⟩).1 = .error (Store.absent "b") := by
  have hold : Text.trim "old" ≠ "" := by decide
  have hnew : Text.trim "new" ≠ "" := by decide
  refine ⟨alike_unnamed hold hnew, ⟨_, _, rfl, rfl, ?_⟩, alike_keeping hold hold _,
    alike_keeping hnew hold _, rfl, rfl⟩
  decide +kernel

end Provider

end LoggingProvider
