import LoggingProvider.Proofs.Provider.Operations

/-!
# What a plan announces

A plan announces the records that go, the records that come and the members of the others that
change. Carrying the plan out compares the records of the prior and of the planned state once more,
and it makes one request for each announcement, in the same order. A record that is kept is updated
with exactly the members that the plan lists for it, and there is at least one.

## Main definitions

* `Provider.Removes`, `Provider.Adds`, `Provider.Edits`: announcements and the requests for them

## Main results

* `Provider.exists_announced`: the changes of records and the requests of a reconciliation
* `Provider.update_carries_plan_out`: an update makes the requests that its plan announced
-/

namespace LoggingProvider

namespace Provider

open Endpoint Reconcile State

variable {σ : Type} {remote : Remote σ} {kind : ServiceKind} {t : Target} {s : σ}
  {prior planned : Json} {cs : List Call}

/-! ## Announcements -/

/-- **The announcement that a record goes**, and the request that deletes its endpoint. -/
def Removes (t : Target) (prior planned : Json) (change : Change) (c : Call) : Prop :=
  ∃ r n, r ∈ records prior blockName ∧ nameOf r = .ok n ∧
    (∀ q ∈ records planned blockName, nameOf q ≠ .ok n) ∧
    change = .removed (recordPath blockName n) r ∧ c = .delete t n

/-- **The announcement that a record comes**, and the request that creates its endpoint. -/
def Adds (kind : ServiceKind) (t : Target) (prior planned : Json) (change : Change) (c : Call) :
    Prop :=
  ∃ r n, r ∈ records planned blockName ∧ nameOf r = .ok n ∧
    (∀ q ∈ records prior blockName, nameOf q ≠ .ok n) ∧
    change = .added (recordPath blockName n) r ∧ createCall kind t r = .ok c

/-- **The announcements that members of a record change**, and the request that updates its
endpoint: it is built from these members. -/
def Edits (kind : ServiceKind) (t : Target) (prior planned : Json) (changes : List Change)
    (c : Call) : Prop :=
  ∃ o r n changed, o ∈ records prior blockName ∧ nameOf o = .ok n ∧
    r ∈ records planned blockName ∧ nameOf r = .ok n ∧ changed ≠ [] ∧
    changes = memberChanges blockName n o changed ∧ updateCall kind t r changed = .ok c

theorem nameD_eq {r : Json} {n : String} (hn : nameOf r = .ok n) : nameD r = n := by
  unfold nameD
  rw [hn]

/-- A modified record has members that changed. -/
theorem changed_ne_nil (hold : ∀ d, .object d ∈ records prior blockName → Dict.Ordered d)
    (hnew : ∀ d, .object d ∈ records planned blockName → Dict.Ordered d) {o r : Json}
    (ho : o ∈ records prior blockName) (hr : r ∈ records planned blockName) {n : String}
    (hon : nameOf o = .ok n) (hrn : nameOf r = .ok n) (hne : (o == r) = false) :
    changedMembers (o.members?.getD []) (r.members?.getD []) ≠ [] := by
  obtain ⟨d, rfl⟩ := exists_object_of_nameOf hon
  obtain ⟨d', rfl⟩ := exists_object_of_nameOf hrn
  intro hnil
  rw [beq_of_changedMembers_eq_nil (hold d ho) (hnew d' hr) hnil] at hne
  cases hne

/-- **The changes of records and the requests of a reconciliation**: the former announce the
latter, one for one. -/
theorem exists_announced (hold : ∀ d, .object d ∈ records prior blockName → Dict.Ordered d)
    (hnew : ∀ d, .object d ∈ records planned blockName → Dict.Ordered d) {blocks : List Change}
    (hblocks : blockChanges prior planned blockName = .ok blocks)
    (hscript : script kind t (records prior blockName) (records planned blockName) = .ok cs) :
    ∃ removals additions edits deletes creates updates,
      blocks = removals ++ additions ++ edits.flatten ∧ cs = deletes ++ creates ++ updates ∧
      List.Forall₂ (Removes t prior planned) removals deletes ∧
      List.Forall₂ (Adds kind t prior planned) additions creates ∧
      List.Forall₂ (Edits kind t prior planned) edits updates := by
  obtain ⟨p, edits, hp, hedits, rfl⟩ := blockChanges_eq_ok_iff.1 hblocks
  obtain ⟨p', deletes, creates, updates, hp', hdeletes, hcreates, hupdates, rfl⟩ :=
    script_eq_ok_iff.1 hscript
  obtain rfl := Except.ok.inj (hp.symm.trans hp')
  obtain ⟨hkeyed, hkeyed'⟩ := Keying.exists_diff_iff.1 ⟨p, hp⟩
  refine ⟨_, _, edits, deletes, creates, updates, rfl, rfl, ?_, ?_, ?_⟩
  · refine Outcome.forall₂_map_of_mapM hdeletes ?_
    intro r hr c hc
    obtain ⟨hr, hgone⟩ := (Keying.mem_deleted_iff hp).1 hr
    obtain ⟨n, hn, rfl⟩ := deleteCall_eq_ok_iff.1 hc
    exact ⟨r, n, hr, hn, fun q hq hqn => hgone q hq (hqn.trans hn.symm), by rw [nameD_eq hn], rfl⟩
  · refine Outcome.forall₂_map_of_mapM hcreates ?_
    intro r hr c hc
    obtain ⟨hr, hfresh⟩ := (Keying.mem_added_iff hp).1 hr
    obtain ⟨n, hn⟩ := hkeyed'.key r hr
    exact ⟨r, n, hr, hn, fun q hq hqn => hfresh q hq (hqn.trans hn.symm), by rw [nameD_eq hn], hc⟩
  · refine Outcome.forall₂_of_mapM hedits hupdates ?_
    intro r hr changes c hchanges hc
    obtain ⟨hr, o, ho, hor, hne⟩ := (Keying.mem_modified_iff hp).1 hr
    obtain ⟨n, hn⟩ := hkeyed'.key r hr
    have hon : nameOf o = .ok n := hor.trans hn
    -- What changed in the record is found in the same way for the plan and for the request.
    have hpatch := patch_eq hkeyed ho hon hn
    obtain ⟨n', previous, changed, hn', hprevious, hchanged, rfl⟩ :=
      recordChanges_eq_ok_iff.1 hchanges
    obtain ⟨changed', hchanged', hcall⟩ := updateFor_eq_ok_iff.1 hc
    obtain rfl := Except.ok.inj (hn.symm.trans hn')
    obtain rfl := Except.ok.inj ((findNamed_eq hkeyed ho hon).symm.trans hprevious)
    obtain rfl := Except.ok.inj (hpatch.symm.trans hchanged)
    obtain rfl := Except.ok.inj (hpatch.symm.trans hchanged')
    exact ⟨o, r, n, _, ho, hon, hr, hn, changed_ne_nil hold hnew ho hr hon hn hne, rfl, hcall⟩

/-! ## Updates -/

/-- Announcements that are at no path of the records are none, and so are their requests. -/
theorem eq_nil_of_announced {removals additions : List Change} {edits : List (List Change)}
    {deletes creates updates : List Call}
    (hremovals : List.Forall₂ (Removes t prior planned) removals deletes)
    (hadditions : List.Forall₂ (Adds kind t prior planned) additions creates)
    (hedits : List.Forall₂ (Edits kind t prior planned) edits updates)
    (hnone : ∀ change ∈ removals ++ additions ++ edits.flatten,
      ∀ rest, change.path ≠ recordPath blockName rest) : deletes ++ creates ++ updates = [] := by
  have hdeletes : deletes = [] := by
    cases hremovals with
    | nil => rfl
    | cons hfirst _ =>
      obtain ⟨r, n, -, -, -, rfl, -⟩ := hfirst
      exact absurd rfl (hnone (.removed (recordPath blockName n) r) (by simp) n)
  have hcreates : creates = [] := by
    cases hadditions with
    | nil => rfl
    | cons hfirst _ =>
      obtain ⟨r, n, -, -, -, rfl, -⟩ := hfirst
      exact absurd rfl (hnone (.added (recordPath blockName n) r) (by simp) n)
  have hupdates : updates = [] := by
    cases hedits with
    | nil => rfl
    | cons hfirst _ =>
      obtain ⟨o, r, n, changed, -, -, -, -, hne, rfl, -⟩ := hfirst
      obtain ⟨e, rest, rfl⟩ := List.exists_cons_of_ne_nil hne
      refine absurd (recordPath_append n e.1)
        (hnone ⟨recordPath blockName n ++ "." ++ e.1, present (o.member? e.1),
          present (some e.2)⟩ ?_ _)
      simp [memberChanges]
  rw [hdeletes, hcreates, hupdates]
  rfl

/-- **An update carries its plan out.** It returns the planned state, and its requests are, in this
order, one deletion for each record that the plan removes, one creation for each one that it adds,
and one update for each one that it edits. It makes none when the plan has no change at a path of
the records. -/
theorem update_carries_plan_out {around : Surroundings (σ × List Call)}
    {y y' z : Session (σ × List Call)} {proposed config state : Json} {p : Plan}
    (hprior : prior.Canonical) (hproposed : proposed.Canonical)
    (hplan : (plugin around).plan kind.resourceType (some prior) proposed config y = (.ok p, y'))
    (hupdate : (plugin around).update kind.resourceType prior p.state
      ⟨some remote.traced, (s, [])⟩ = (.ok state, z)) :
    state = p.state ∧ ∃ t removals additions edits deletes creates updates,
      State.target p.state = .ok t ∧
      p.changes = ["id", "service_id", "version"].filterMap (attributeChange? prior p.state) ++
        (removals ++ additions ++ edits.flatten) ∧
      z.outside.2 = deletes ++ creates ++ updates ∧
      List.Forall₂ (Removes t prior p.state) removals deletes ∧
      List.Forall₂ (Adds kind t prior p.state) additions creates ∧
      List.Forall₂ (Edits kind t prior p.state) edits updates ∧
      ((∀ change ∈ p.changes, ∀ rest, change.path ≠ recordPath blockName rest) →
        z.outside.2 = []) := by
  obtain ⟨hplanned, -⟩ := plugin_plan_eq_ok_iff.1 hplan
  obtain ⟨hstate, hchanges⟩ := plan_spec hplanned
  rw [planned_eq] at hstate hchanges
  obtain ⟨⟨s', made⟩, hrun, rfl⟩ := plugin_update_eq_ok_iff.1 hupdate
  obtain ⟨rfl, t, ht, hendpoints⟩ := update_eq_ok_iff.1 hrun
  rw [hstate] at ht hendpoints ⊢
  rw [normalize_planned hproposed] at ht hendpoints ⊢
  obtain ⟨blocks, hblocks, hall⟩ := changes_eq_ok_iff.1 hchanges
  obtain ⟨cs, hscript, hattempt⟩ := endpoints_eq_ok_iff.1 hendpoints
  obtain rfl := Remote.eq_append_of_attemptAll_traced hattempt
  obtain ⟨removals, additions, edits, deletes, creates, updates, rfl, rfl, hremovals, hadditions,
    hedits⟩ := exists_announced (fun d hd => (canonical_of_mem_records hprior hd).1)
      (fun d hd => ordered_of_mem_planned hproposed hd) hblocks hscript
  refine ⟨rfl, t, removals, additions, edits, deletes, creates, updates, ht, hall, rfl, hremovals,
    hadditions, hedits, ?_⟩
  intro hnone
  rw [hall] at hnone
  exact eq_nil_of_announced hremovals hadditions hedits fun change hchange =>
    hnone change (List.mem_append_right _ hchange)

/-! ## A removal, an addition and an edit -/

/-- An interface that lets every request pass. -/
def willing : Remote Unit where
  answer
    | .list _, _ => (.ok [], ())
    | .create _ name settings, _ => (.ok ⟨name, settings⟩, ())
    | .update _ name settings, _ => (.ok ⟨name, settings⟩, ())
    | .delete _ _, _ => (.ok (), ())

/-- A record in normal form. -/
def topical (name topic : String) : Json :=
  .object [("name", .string name), ("parse_log_keyvals", .bool false),
    ("request_max_bytes", .ofNat 0), ("topic", .string topic), ("use_tls", .bool false)]

/-- A state with two records. -/
def pair (first second : Json) : Json :=
  .object [("id", .string "svc"), ("logging_kafka", .array [first, second]),
    ("service_id", .string "svc"), ("version", .ofNat 1)]

theorem canonical_topical (name topic : String) : (topical name topic).Canonical :=
  ⟨Dict.ordered_of_names
    ["name", "parse_log_keyvals", "request_max_bytes", "topic", "use_tls"] rfl (by decide),
    trivial, trivial, trivial, trivial, trivial, trivial⟩

theorem canonical_pair {first second : Json} (hfirst : first.Canonical)
    (hsecond : second.Canonical) : (pair first second).Canonical :=
  ⟨Dict.ordered_of_names ["id", "logging_kafka", "service_id", "version"] rfl (by decide),
    trivial, ⟨hfirst, hsecond, trivial⟩, trivial, trivial, trivial⟩

/-- A state whose first record will go and whose second one will be edited. -/
def olds : Json := pair (topical "a" "logs") (topical "k" "old")

/-- The state with the edited record and another one that comes. -/
def news : Json := pair (topical "k" "new") (topical "b" "logs")

theorem exists_plan_news : ∃ p, State.plan (schemaOf .compute) olds news = .ok p ∧
    p.state = news := by
  have hnormal : normalize (schemaOf .compute) news = news := by rfl
  obtain ⟨l, hl⟩ : ∃ l, changes (schemaOf .compute) olds news = .ok l := ⟨_, by rfl⟩
  rw [← hnormal, ← planned_eq] at hl
  obtain ⟨p, hp, hstate, -⟩ := exists_plan hl
  exact ⟨p, hp, hstate.trans (planned_eq.trans hnormal)⟩

/-- One record goes, one is edited and one comes. -/
theorem update_carries_plan_out_of_three : ∃ p state z,
    (plugin (.silent (Unit × List Call))).plan ServiceKind.compute.resourceType (some olds) news
      news ⟨some willing.traced, ((), [])⟩ = (.ok p, ⟨some willing.traced, ((), [])⟩) ∧
    (plugin (.silent (Unit × List Call))).update ServiceKind.compute.resourceType olds p.state
      ⟨some willing.traced, ((), [])⟩ = (.ok state, z) ∧
    state = p.state ∧ z.outside.2.map Call.name? = [some "a", some "b", some "k"] ∧
    ∃ removals additions edits deletes creates updates,
      p.changes = removals ++ additions ++ List.flatten edits ∧
      z.outside.2 = deletes ++ creates ++ updates ∧
      List.Forall₂ (Removes ⟨"svc", 1⟩ olds p.state) removals deletes ∧
      List.Forall₂ (Adds .compute ⟨"svc", 1⟩ olds p.state) additions creates ∧
      List.Forall₂ (Edits .compute ⟨"svc", 1⟩ olds p.state) edits updates := by
  have hprior : olds.Canonical := canonical_pair (canonical_topical _ _) (canonical_topical _ _)
  have hproposed : news.Canonical := canonical_pair (canonical_topical _ _) (canonical_topical _ _)
  obtain ⟨p, hp, hstate⟩ := exists_plan_news
  obtain ⟨s', hrun, hnames⟩ : ∃ s',
      update willing.traced .compute olds news ((), []) = (.ok news, s') ∧
        s'.2.map Call.name? = [some "a", some "b", some "k"] := ⟨_, by rfl, by rfl⟩
  have hplan : (plugin (.silent (Unit × List Call))).plan ServiceKind.compute.resourceType
      (some olds) news news ⟨some willing.traced, ((), [])⟩ =
        (.ok p, ⟨some willing.traced, ((), [])⟩) := plugin_plan_eq_ok_iff.2 ⟨hp, rfl⟩
  have hupdate : (plugin (.silent (Unit × List Call))).update ServiceKind.compute.resourceType olds
      p.state ⟨some willing.traced, ((), [])⟩ = (.ok news, ⟨some willing.traced, s'⟩) := by
    rw [hstate]
    exact plugin_update_eq_ok_iff.2 ⟨s', hrun, rfl⟩
  obtain ⟨hnews, t, removals, additions, edits, deletes, creates, updates, ht, hchanges, hcalls,
    hremovals, hadditions, hedits, -⟩ := update_carries_plan_out hprior hproposed hplan hupdate
  have htarget : State.target news = .ok ⟨"svc", 1⟩ := by rfl
  have hattributes :
      ["id", "service_id", "version"].filterMap (attributeChange? olds news) = [] := by rfl
  rw [hstate] at ht hchanges
  obtain rfl := Except.ok.inj (ht.symm.trans htarget)
  rw [hattributes, List.nil_append] at hchanges
  exact ⟨p, news, _, hplan, hupdate, hnews, hnames, removals, additions, edits, deletes, creates,
    updates, hchanges, hcalls, hremovals, hadditions, hedits⟩

end Provider

end LoggingProvider
