import LoggingProvider.Proofs.Remote.Script
import LoggingProvider.Remote.Store

/-!
# Reconciliations that break off

Against an interface that may refuse any request, a reconciliation makes the requests of a prefix of
its script. It breaks off at the first request that is refused, with the fault that it is refused
with. A request is built when its turn comes, so a record that none can be built for breaks the
reconciliation off as well, after the requests of the records before it.

## Main definitions

* `Reconcile.requests`: the requests that a reconciliation makes

## Main results

* `Reconcile.requests_isPrefix_script`: the requests against any interface when all can be built
* `Reconcile.requests_eq_nil_iff_of_input_fault`: when a fault of the records comes before any
  request
* `Reconcile.deletion_before_input_fault`: a fault of the records after a request
-/

namespace LoggingProvider

namespace Reconcile

open Endpoint

variable {σ : Type} {remote : Remote σ} {kind : ServiceKind} {target : Target}
  {old new : List Json} {s s' : σ} {outcome : Except Fault Unit} {p : Partition Json}
  {made : List Call} {fault : Fault}

/-- **The requests that a reconciliation makes**, the refused one included. -/
def requests (remote : Remote σ) (kind : ServiceKind) (target : Target) (old new : List Json)
    (s : σ) : List Call :=
  remote.callsOf (fun api => endpoints api kind target old new) s

/-! ## What a reconciliation does -/

theorem requests_of_diff_error {cause : DiffFault} (h : byName.diff old new = .error cause) :
    requests remote kind target old new s = [] := by
  simp only [requests, Remote.callsOf, endpoints_of_diff_error h]

/-- **What a reconciliation does between sets that can be compared**: how its steps end tells its
outcome, the state that it leaves and its requests. -/
theorem endpoints_requests_iff (hp : byName.diff old new = .ok p) :
    (endpoints remote kind target old new s = (outcome, s') ∧
        requests remote kind target old new s = made) ↔
      remote.Ends s (steps kind target old p) outcome made ∧ s' = remote.after s made := by
  have hrequests : ∀ cs, remote.Ends s (steps kind target old p) outcome cs →
      requests remote kind target old new s = cs := by
    intro cs hends
    have htraced : remote.traced.attemptSteps (steps kind target old p) (s, []) =
        (outcome, remote.after s cs, [] ++ cs) :=
      Remote.attemptSteps_traced_eq_iff.2 ⟨cs, hends, rfl, rfl⟩
    simp only [requests, Remote.callsOf, endpoints_of_diff hp, htraced, List.nil_append]
  rw [endpoints_of_diff hp, Remote.attemptSteps_eq_iff]
  constructor
  · rintro ⟨⟨cs, hends, rfl⟩, rfl⟩
    rw [hrequests cs hends]
    exact ⟨hends, rfl⟩
  · rintro ⟨hends, rfl⟩
    exact ⟨⟨made, hends, rfl⟩, hrequests made hends⟩

/-! ## Interfaces that refuse requests -/

/-- A request of a script names no endpoint of a record that does not change. -/
theorem name?_ne_of_unchanged {cs : List Call} (h : script kind target old new = .ok cs)
    (hp : byName.diff old new = .ok p) {r : Json} (hr : r ∈ p.unchanged) {n : String}
    (hn : nameOf r = .ok n) {c : Call} (hc : c ∈ cs) : c.name? ≠ some n := by
  intro hname
  obtain ⟨q, hq, m, hm, hcm⟩ : ∃ q ∈ p.deleted ++ p.added ++ p.modified,
      ∃ m, nameOf q = .ok m ∧ c.name? = some m := by
    rcases (mem_script_iff h hp).1 hc with ⟨q, hq, hqc⟩ | ⟨q, hq, hqc⟩ | ⟨q, hq, hqc⟩
    · exact ⟨q, by simp [hq], (names_deleteCall hqc).2⟩
    · exact ⟨q, by simp [hq], (names_createCall hqc).2⟩
    · exact ⟨q, by simp [hq], (names_updateFor hqc).2⟩
  obtain rfl := Option.some.inj (hcm.symm.trans hname)
  have hnodup := Keying.nodup_keys hp
  rw [← List.append_assoc, ← List.append_assoc, List.map_append] at hnodup
  refine List.disjoint_of_nodup_append hnodup (List.mem_map_of_mem hq) ?_
  rw [show byName.key q = byName.key r from hm.trans hn.symm]
  exact List.mem_map_of_mem hr

/-- The deletions of a reconciliation can be built, for the old records have names. -/
theorem exists_deleteCall (target : Target) (hp : byName.diff old new = .ok p) {r : Json}
    (hr : r ∈ p.deleted) : ∃ c, deleteCall target r = .ok c := by
  obtain ⟨hold, -⟩ := Keying.exists_diff_iff.1 ⟨p, hp⟩
  obtain ⟨n, hn⟩ := hold.key r ((Keying.mem_deleted_iff hp).1 hr).1
  exact ⟨_, deleteCall_eq_ok_iff.2 ⟨n, hn, rfl⟩⟩

/-- **A reconciliation makes the requests of a prefix of its script**, whatever they are answered
with. It fails exactly when its last request is the first one that is refused, and with the fault
that this request is refused with; it succeeds exactly when all requests are made and none is
refused. No two requests name the same endpoint, and none names that of an unchanged record. -/
theorem requests_isPrefix_script (hp : byName.diff old new = .ok p)
    (hadded : ∀ r ∈ p.added, ∃ c, createCall kind target r = .ok c)
    (hmodified : ∀ r ∈ p.modified, ∃ c, updateFor kind target old r = .ok c)
    (h : endpoints remote kind target old new s = (outcome, s')) :
    ∃ deletes creates updates made,
      p.deleted.mapM (deleteCall target) = .ok deletes ∧
      p.added.mapM (createCall kind target) = .ok creates ∧
      p.modified.mapM (updateFor kind target old) = .ok updates ∧
      requests remote kind target old new s = made ∧ s' = remote.after s made ∧
      made <+: deletes ++ creates ++ updates ∧
      (∀ fault, outcome = .error fault ↔ ∃ done c, made = done ++ [c] ∧ remote.Admits s done ∧
        remote.Refuses (remote.after s done) c fault) ∧
      (outcome = .ok () ↔ made = deletes ++ creates ++ updates ∧
        remote.Admits s (deletes ++ creates ++ updates)) ∧
      (made.map Call.name?).Nodup ∧
      ∀ r ∈ p.unchanged, ∀ n, nameOf r = .ok n → ∀ c ∈ made, c.name? ≠ some n := by
  obtain ⟨deletes, hdeletes⟩ := Outcome.exists_mapM fun r hr =>
    exists_deleteCall target hp hr
  obtain ⟨creates, hcreates⟩ := Outcome.exists_mapM hadded
  obtain ⟨updates, hupdates⟩ := Outcome.exists_mapM hmodified
  have hscript : script kind target old new = .ok (deletes ++ creates ++ updates) :=
    script_eq_ok_iff.2 ⟨p, deletes, creates, updates, hp, hdeletes, hcreates, hupdates, rfl⟩
  obtain ⟨hends, hafter⟩ := (endpoints_requests_iff hp).1 ⟨h, rfl⟩
  obtain ⟨p', hp', hsteps⟩ := script_eq_ok_iff_steps.1 hscript
  obtain rfl := Except.ok.inj (hp.symm.trans hp')
  rw [hsteps] at hends
  have hfront := hends.isPrefix
  refine ⟨deletes, creates, updates, _, hdeletes, hcreates, hupdates, rfl, hafter, hfront,
    fun fault => hends.eq_error_iff, hends.eq_ok_iff, ?_, ?_⟩
  · exact (nodup_names_script hscript).sublist (hfront.sublist.map _)
  · intro r hr n hn c hc
    exact name?_ne_of_unchanged hscript hp hr hn (hfront.subset hc)

/-- An interface that knows no endpoints. -/
def vacant : Remote Unit := ⟨fun _ _ => (.error (.remote 404 "Record not found"), ())⟩

/-- An interface that knows no endpoints lets the deletion pass and refuses the first creation. -/
theorem requests_isPrefix_script_of_vacant :
    let t : Target := ⟨"svc", 1⟩
    let a : Json := .object [("name", .string "a")]
    let b : Json := .object [("name", .string "b")]
    let c : Json := .object [("name", .string "c")]
    ∃ done refused,
      requests vacant .compute t [a] [b, c] () = done ++ [refused] ∧ vacant.Admits () done ∧
        vacant.Refuses (vacant.after () done) refused (.remote 404 "Record not found") ∧
        ((done ++ [refused]).map Call.name?).Nodup := by
  intro t a b c
  have hp : byName.diff [a] [b, c] = .ok ⟨[b, c], [a], [], []⟩ := by rfl
  have hadded : ∀ r ∈ [b, c], ∃ call, createCall .compute t r = .ok call := by
    intro r hr
    rcases List.mem_pair.1 hr with rfl | rfl
    · exact ⟨_, rfl⟩
    · exact ⟨_, rfl⟩
  have hrun : endpoints vacant .compute t [a] [b, c] () =
      (.error (.remote 404 "Record not found"), ()) := by rfl
  obtain ⟨_, _, _, made, -, -, -, hmade, -, -, herror, -, hnodup, -⟩ :=
    requests_isPrefix_script hp hadded (by simp) hrun
  obtain ⟨done, refused, rfl, hdone, hrefused⟩ := (herror _).1 rfl
  exact ⟨done, refused, hmade, hdone, hrefused, hnodup⟩

/-! ## Records that no request can be built for -/

/-- The first step of a reconciliation that is no request. -/
theorem exists_steps_eq_cons_iff (hp : byName.diff old new = .ok p) :
    (∃ rest, steps kind target old p = .error fault :: rest) ↔ p.deleted = [] ∧
      ((∃ r rest, p.added = r :: rest ∧ createCall kind target r = .error fault) ∨
        p.added = [] ∧
          ∃ r rest, p.modified = r :: rest ∧ updateFor kind target old r = .error fault) := by
  unfold steps
  cases hdeleted : p.deleted with
  | cons r rest =>
    obtain ⟨c, hc⟩ := exists_deleteCall target hp (hdeleted ▸ List.mem_cons_self : r ∈ p.deleted)
    simp [hc]
  | nil =>
    cases p.added with
    | cons r rest => simp
    | nil => cases p.modified <;> simp

/-- **Why a step is no request**: what is to be sent for its record is not valid. -/
theorem exists_validation_of_mem_steps (hp : byName.diff old new = .ok p)
    (h : .error fault ∈ steps kind target old p) : ∃ m, fault = .validation m := by
  obtain ⟨hold, hnew⟩ := Keying.exists_diff_iff.1 ⟨p, hp⟩
  unfold steps at h
  rw [List.mem_append, List.mem_append, List.mem_map, List.mem_map, List.mem_map] at h
  rcases h with (⟨r, hr, h⟩ | ⟨r, hr, h⟩) | ⟨r, hr, h⟩
  · obtain ⟨c, hc⟩ := exists_deleteCall target hp hr
    rw [hc] at h
    cases h
  · obtain ⟨n, hn⟩ := hnew.key r ((Keying.mem_added_iff hp).1 hr).1
    exact exists_validation_of_createCall hn h
  · obtain ⟨hr, o, ho, hor, -⟩ := (Keying.mem_modified_iff hp).1 hr
    obtain ⟨n, hn⟩ := hnew.key r hr
    unfold updateFor at h
    rw [patch_eq hold ho (hor.trans hn) hn] at h
    exact exists_validation_of_updateCall hn h

/-- A fault that the interface does not report is that of the first step that is no request. -/
theorem exists_steps_eq_of_input_fault (hp : byName.diff old new = .ok p)
    (hremote : ∀ cs c, (remote.answer c (remote.after s cs)).1 ≠ .error fault)
    (h : endpoints remote kind target old new s = (.error fault, s')) :
    s' = remote.after s (requests remote kind target old new s) ∧
      ∃ rest, steps kind target old p =
        (requests remote kind target old new s).map .ok ++ .error fault :: rest := by
  obtain ⟨hends, hafter⟩ := (endpoints_requests_iff hp).1 ⟨h, rfl⟩
  refine ⟨hafter, ?_⟩
  generalize requests remote kind target old new s = made at hends
  generalize steps kind target old p = all at hends
  cases hends with
  | refused cs _ hc => exact absurd hc.1 (hremote cs _)
  | @unbuilt cs rest _ _ => exact ⟨rest, rfl⟩

/-- **A reconciliation that fails for the records that it is given** made the requests of the steps
before the first one that is no request. So it made none exactly when the sets cannot be compared,
or nothing is to be deleted and the first record to be created, or without one the first to be
updated, has no request. -/
theorem requests_eq_nil_iff_of_input_fault
    (hremote : ∀ cs c, (remote.answer c (remote.after s cs)).1 ≠ .error fault)
    (h : endpoints remote kind target old new s = (.error fault, s')) :
    ((∃ cause, fault = .diff cause) ∨ ∃ m, fault = .validation m) ∧
      ((∃ cause, fault = .diff cause) ↔ ∃ cause, byName.diff old new = .error cause) ∧
      s' = remote.after s (requests remote kind target old new s) ∧
      (∀ p, byName.diff old new = .ok p → ∃ rest, steps kind target old p =
        (requests remote kind target old new s).map .ok ++ .error fault :: rest) ∧
      (requests remote kind target old new s = [] ∧ s' = s ↔ (∃ cause, fault = .diff cause) ∨
        ∃ p, byName.diff old new = .ok p ∧ p.deleted = [] ∧
          ((∃ r rest, p.added = r :: rest ∧ createCall kind target r = .error fault) ∨
            p.added = [] ∧
              ∃ r rest, p.modified = r :: rest ∧ updateFor kind target old r = .error fault)) := by
  cases hdiff : byName.diff old new with
  | error cause =>
    rw [endpoints_of_diff_error hdiff] at h
    obtain ⟨hfault, rfl⟩ := Prod.mk.inj h
    obtain rfl := Except.error.inj hfault
    rw [requests_of_diff_error hdiff]
    exact ⟨.inl ⟨cause, rfl⟩, ⟨fun _ => ⟨cause, rfl⟩, fun _ => ⟨cause, rfl⟩⟩, rfl, nofun,
      fun _ => .inl ⟨cause, rfl⟩, fun _ => ⟨rfl, rfl⟩⟩
  | ok p =>
    obtain ⟨hafter, rest, hsteps⟩ := exists_steps_eq_of_input_fault hdiff hremote h
    generalize requests remote kind target old new s = made at hafter hsteps
    have hfault : .error fault ∈ steps kind target old p := by
      rw [hsteps]
      exact List.mem_append_right _ List.mem_cons_self
    obtain ⟨m, rfl⟩ := exists_validation_of_mem_steps hdiff hfault
    have hnil : made = [] ↔ ∃ rest, steps kind target old p = .error (.validation m) :: rest := by
      rw [hsteps]
      cases made with
      | nil => simp
      | cons c cs => simp
    have hunchanged : made = [] → s' = s := by
      rintro rfl
      exact hafter
    rw [and_iff_left_of_imp hunchanged, hnil, exists_steps_eq_cons_iff hdiff]
    refine ⟨.inr ⟨m, rfl⟩, by simp, hafter, ?_, ?_⟩
    · rintro p' hp'
      obtain rfl := Except.ok.inj hp'
      exact ⟨rest, hsteps⟩
    · constructor
      · exact fun hfirst => .inr ⟨p, rfl, hfirst⟩
      · rintro (⟨cause, hcause⟩ | ⟨p', hp', hfirst⟩)
        · cases hcause
        · obtain rfl := Except.ok.inj hp'
          exact hfirst

/-- A record with a negative count cannot be created. -/
theorem exists_createCall_eq_error_of_negSucc {d : Dict Json} {n : String}
    (hn : nameOf (.object d) = .ok n) {k : Fin 9223372036854775808}
    (hcount : Dict.value? d Field.requestMaxBytes.name = some (.number (.negSucc k))) :
    ∃ m, createCall kind target (.object d) = .error (.validation m) := by
  cases hcall : createCall kind target (.object d) with
  | error fault =>
    obtain ⟨m, rfl⟩ := exists_validation_of_createCall hn hcall
    exact ⟨m, rfl⟩
  | ok c =>
    obtain ⟨d', _, settings, hd, -, hsettings, -⟩ := createCall_eq_ok_iff.1 hcall
    obtain rfl := Json.object.inj hd
    have hread := (settingsFor_eq_ok_iff.1 hsettings).1 .requestMaxBytes (by cases kind <;> rfl)
    unfold Field.read at hread
    rw [hcount] at hread
    change Kind.count.read _ _ _ = _ at hread
    rw [Kind.read_number, countOf_negSucc] at hread
    cases hread

/-- A record with a negative count. -/
def spoiled : Json := .object [("name", .string "b"), ("request_max_bytes", .number (.negSucc 0))]

theorem exists_createCall_spoiled (target : Target) :
    ∃ m, createCall .vcl target spoiled = .error (.validation m) :=
  exists_createCall_eq_error_of_negSucc rfl rfl

/-- A record that cannot be created, and nothing else to do. -/
theorem requests_eq_nil_of_spoiled : ∃ m,
    endpoints vacant .vcl ⟨"svc", 1⟩ [] [spoiled] () = (.error (.validation m), ()) ∧
      requests vacant .vcl ⟨"svc", 1⟩ [] [spoiled] () = [] := by
  obtain ⟨m, hm⟩ := exists_createCall_spoiled ⟨"svc", 1⟩
  have hp : byName.diff [] [spoiled] = .ok ⟨[spoiled], [], [], []⟩ := by rfl
  have hrun : endpoints vacant .vcl ⟨"svc", 1⟩ [] [spoiled] () = (.error (.validation m), ()) := by
    have hsteps : steps .vcl ⟨"svc", 1⟩ [] ⟨[spoiled], [], [], []⟩ = [.error (.validation m)] := by
      rw [← hm]
      rfl
    rw [endpoints_of_diff hp, hsteps]
    rfl
  have hremote : ∀ cs c, (vacant.answer c (vacant.after () cs)).1 ≠ .error (.validation m) := by
    intro cs c h
    cases h
  obtain ⟨-, -, -, -, hiff⟩ := requests_eq_nil_iff_of_input_fault hremote hrun
  exact ⟨m, hrun, (hiff.2 (.inr ⟨_, hp, rfl, .inl ⟨_, _, rfl, hm⟩⟩)).1⟩

/-- **A fault of the records after a request**: the endpoint that is to go is deleted before the
record that is to come is looked at. -/
theorem deletion_before_input_fault :
    let t : Target := ⟨"svc", 1⟩
    let s := Store.empty.seed t ⟨"a", Settings.empty⟩
    ∃ m s', endpoints Store.remote .vcl t [.object [("name", .string "a")]] [spoiled] s =
        (.error (.validation m), s') ∧
      requests Store.remote .vcl t [.object [("name", .string "a")]] [spoiled] s =
        [.delete t "a"] ∧
      s.listed t = [⟨"a", Settings.empty⟩] ∧ s'.listed t = [] := by
  intro t s
  obtain ⟨m, hm⟩ := exists_createCall_spoiled t
  have hp : byName.diff [.object [("name", .string "a")]] [spoiled] =
      .ok ⟨[spoiled], [.object [("name", .string "a")]], [], []⟩ := by rfl
  have hsteps : steps .vcl t [.object [("name", .string "a")]]
      ⟨[spoiled], [.object [("name", .string "a")]], [], []⟩ =
        [Call.delete t "a"].map .ok ++ .error (.validation m) :: [] := by
    rw [← hm]
    rfl
  have hadmits : Store.remote.Admits s [.delete t "a"] := by
    refine ⟨fun fault hrefuses => ?_, trivial⟩
    cases hrefuses.1
  have hends : Store.remote.Ends s ([Call.delete t "a"].map .ok ++ .error (.validation m) :: [])
      (.error (.validation m)) [.delete t "a"] := .unbuilt _ hadmits
  rw [← hsteps] at hends
  obtain ⟨hrun, hrequests⟩ := (endpoints_requests_iff hp).2 ⟨hends, rfl⟩
  exact ⟨m, _, hrun, hrequests, rfl, rfl⟩

end Reconcile

end LoggingProvider
