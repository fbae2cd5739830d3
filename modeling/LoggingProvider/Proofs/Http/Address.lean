import LoggingProvider.Http.Client
import LoggingProvider.Proofs.Url.Segments

/-!
# Requests address what they name

The address of a request has, after the segments of the base address, the segments that name a
version of a service, and for an update or a deletion the name of an endpoint. The service and the
name are spelled unless they stand for steps or have tabs and line ends in them; of those, a name
that is a plain step is passed over, and the request is addressed to all endpoints of the version.

## Main definitions

* `Call.pathName?`: the endpoint that the address of a request names
* `Call.Spellable`: the address can spell what the request names

## Main results

* `Http.Client.bytes_url_iff`: when an address spells what the request names
* `Http.Client.eq_of_url_eq`: addresses tell apart what they spell
* `Http.Client.url_eq_list_iff`: when a request is addressed to all endpoints of a version
* `Http.Client.addresses`: which endpoints requests are addressed to
-/

namespace LoggingProvider

namespace Call

/-- **The endpoint that the address of a request names.** A new endpoint is named in the form. -/
def pathName? : Call → Option String
  | .list _ | .create _ _ _ => none
  | .update _ name _ | .delete _ name => some name

/-- **The address can spell what the request names**: the service, and the endpoint if it names
one. -/
def Spellable (call : Call) : Prop :=
  Url.Spellable call.target.service ∧ ∀ name, call.pathName? = some name → Url.Spellable name

end Call

namespace Http

namespace Client

open Url

/-! ## The segments of an address -/

/-- The texts that are appended after the first one. -/
def wanted (target : Target) (name : Option String) : List String :=
  [target.service, "version", toString target.version.toNat, "logging", "kafka"] ++ name.toList

/-- The texts tell apart what they are for. -/
theorem wanted_inj {target target' : Target} {name name' : Option String}
    (h : wanted target name = wanted target' name') : target = target' ∧ name = name' := by
  obtain ⟨service, version⟩ := target
  obtain ⟨service', version'⟩ := target'
  simp only [wanted, List.cons_append, List.nil_append, List.cons.injEq, true_and,
    Nat.toString_eq_repr] at h
  obtain ⟨rfl, hversion, hname⟩ := h
  have hdigits := congrArg (fun s => Nat.ofDigitChars 10 s.toList 0) hversion
  simp only [Nat.toList_repr, Nat.ofDigitChars_ten_toDigits] at hdigits
  obtain rfl := UInt32.toNat_inj.1 hdigits
  refine ⟨rfl, ?_⟩
  cases name <;> cases name' <;> simp_all

/-- The words of an address. -/
def words : List String := ["service", "version", "logging", "kafka"]

theorem spellable_of_mem_words : ∀ s ∈ words, Url.Spellable s := by
  have hwords : ∀ s ∈ words, s ≠ "." ∧ s ≠ ".." ∧ dropBreaks s.toList = s.toList := by decide
  exact fun s hs => ⟨(hwords s hs).1, (hwords s hs).2.1, (hwords s hs).2.2⟩

/-- A word is appended as it is. -/
theorem appendSegment_word (special : Bool) {parts : List String} {s : String} (hs : s ∈ words) :
    appendSegment special parts s = front parts ++ [s] := by
  have hwords : ∀ special, ∀ s ∈ words, spelling special s = s := by decide
  rw [appendSegment_of_spellable special parts (spellable_of_mem_words s hs), hwords special s hs]

/-- A number in decimal has neither dots nor blanks. -/
theorem spellable_toString (n : Nat) : Url.Spellable (toString n) := by
  have hdigit : ∀ d ∈ (toString n).toList, d.isDigit = true := by
    rw [Nat.toString_eq_repr, Nat.toList_repr]
    exact fun d hd => Nat.isDigit_of_mem_toDigits (by omega) (by omega) hd
  refine ⟨fun h => ?_, fun h => ?_, List.filter_eq_self.2 fun d hd => ?_⟩
  · exact absurd (hdigit '.' (by rw [h]; decide)) (by decide)
  · exact absurd (hdigit '.' (by rw [h]; decide)) (by decide)
  · have hd := hdigit d hd
    by_contra hbreak
    simp only [Bool.and_eq_true, decide_eq_true_eq, not_and_or, not_not, ne_eq] at hbreak
    rcases hbreak with (rfl | rfl) | rfl <;> cases hd

theorem forall_mem_wanted_iff {target : Target} {name : Option String} :
    (∀ s ∈ wanted target name, Url.Spellable s) ↔
      Url.Spellable target.service ∧ ∀ n, name = some n → Url.Spellable n := by
  have hversion := spellable_of_mem_words "version" (by decide)
  have hlogging := spellable_of_mem_words "logging" (by decide)
  have hkafka := spellable_of_mem_words "kafka" (by decide)
  have hnumber := spellable_toString target.version.toNat
  simp only [wanted, List.forall_mem_append, List.forall_mem_cons, hversion, hlogging, hkafka,
    hnumber, true_and, Option.mem_toList]
  simp

/-- The address of a client's configuration has segments, none of them with a slash. -/
theorem exists_segments {cfg : Config} {c : Client} (h : ofConfig cfg = .ok c) :
    ∃ parts, c.baseUrl.path = .segments parts ∧ Slashless parts := by
  unfold ofConfig at h
  split at h
  · cases h
  · next url hurl =>
    split at h
    · next hbase =>
      obtain rfl := Except.ok.inj h
      cases hpath : url.path with
      | opaqueText text =>
        rw [canBeBase, hpath] at hbase
        cases hbase
      | segments parts => exact ⟨parts, rfl, slashless_parse hurl hpath⟩
    · cases h

/-- The segments of a base and the first one that is appended. -/
def start (parts : List String) : List String :=
  front (popEmpty parts) ++ ["service"]

theorem start_ne (parts : List String) : start parts ≠ [] ∧ start parts ≠ [""] :=
  ⟨List.concat_ne_nil _ _, concat_ne_lone_empty _ (by decide)⟩

theorem slashless_start {parts : List String} (hparts : Slashless parts) :
    Slashless (start parts) :=
  slashless_concat (slashless_front (slashless_popEmpty hparts)) (by decide)

section Address

variable {c : Client} {parts : List String} (hu : c.baseUrl.path = .segments parts)

include hu

/-- An address has the segments that appending one text after another leaves. -/
theorem path_endpointUrl (target : Target) (name : Option String) :
    (c.endpointUrl target name).path = .segments
      ((wanted target name).foldl (appendSegment (isSpecial c.baseUrl.scheme)) (start parts)) := by
  obtain ⟨hpop, hscheme⟩ := path_popIfEmpty hu
  have hfirst : appendSegment (isSpecial c.baseUrl.scheme) (popEmpty parts) "service" =
      start parts := by
    rw [appendSegment_word _ (by decide), start]
  rw [endpointUrl, path_foldl_pushSegment hpop, hscheme, ← hfirst]
  rfl

/-- The address of all endpoints of a version ends in a segment that is not empty, and not alone. -/
theorem exists_path_endpointUrl (target : Target) : ∃ rest, rest ≠ [] ∧
    (c.endpointUrl target none).path = .segments (rest ++ ["kafka"]) := by
  have hfold : (wanted target none).foldl (appendSegment (isSpecial c.baseUrl.scheme))
      (start parts) = front (front ([target.service, "version",
        toString target.version.toNat].foldl (appendSegment (isSpecial c.baseUrl.scheme))
          (start parts)) ++ ["logging"]) ++ ["kafka"] := by
    rw [← appendSegment_word (s := "logging") (isSpecial c.baseUrl.scheme) (by decide),
      ← appendSegment_word (s := "kafka") (isSpecial c.baseUrl.scheme) (by decide)]
    rfl
  refine ⟨_, ?_, by rw [path_endpointUrl hu, hfold]⟩
  rw [front, if_neg (concat_ne_lone_empty _ (by decide))]
  exact List.concat_ne_nil _ _

variable (hparts : Slashless parts)

include hparts

/-- The segments of an address, decoded. -/
theorem bytes_endpointUrl (target : Target) (name : Option String) :
    (c.endpointUrl target name).pathParts.map Percent.decode =
      ((wanted target name).foldl (appendSegment (isSpecial c.baseUrl.scheme))
        (start parts)).map bytesOf := by
  rw [pathParts_of_segments (path_endpointUrl hu target name)
    (slashless_foldl_appendSegment (slashless_start hparts) _)
    (foldl_appendSegment_ne_nil (start_ne parts).1 _), List.map_map]
  rfl

/-- **The address spells what it is for** exactly if segments can spell the service and the name. -/
theorem bytes_endpointUrl_iff (target : Target) (name : Option String) :
    (c.endpointUrl target name).pathParts.map Percent.decode =
        (start parts).map bytesOf ++ (wanted target name).map Utf8.encode ↔
      Url.Spellable target.service ∧ ∀ n, name = some n → Url.Spellable n := by
  obtain ⟨hnil, hempty⟩ := start_ne parts
  rw [bytes_endpointUrl hu hparts, bytesOf_foldl_appendSegment_iff _ hnil hempty,
    forall_mem_wanted_iff]

/-- Below a base of just two slashes an address never has the segments of the base. -/
theorem bytes_endpointUrl_ne (htwo : parts = ["", ""]) (target : Target) (name : Option String) :
    (c.endpointUrl target name).pathParts.map Percent.decode ≠
      c.baseUrl.baseParts.map Percent.decode ++
        ("service" :: wanted target name).map Utf8.encode := by
  intro h
  have hbase : c.baseUrl.baseParts.length = 1 := by
    rw [baseParts, pathParts_of_segments hu hparts (by simp [htwo]), htwo]
    rfl
  -- Nothing of the base is left, and each text adds at most one segment.
  have hlength := length_foldl_appendSegment_le (isSpecial c.baseUrl.scheme) (start parts)
    (wanted target name)
  have hstart : (start parts).length = 1 := by rw [htwo]; rfl
  have hsame := congrArg List.length h
  rw [bytes_endpointUrl hu hparts, List.length_map, List.length_append, List.length_map, hbase,
    List.length_map, List.length_cons] at hsame
  omega

end Address

/-- The address of a request is that of the endpoints of a version, or of one of them. -/
theorem url_request (c : Client) (call : Call) :
    (c.request call).url = c.endpointUrl call.target call.pathName? := by
  cases call <;> rfl

variable {cfg : Config} {c : Client} (hc : ofConfig cfg = .ok c)

include hc

/-- **When an address spells what the request names**: if segments can, and the path of the base
address is not just two slashes. -/
theorem bytes_url_iff (call : Call) :
    (c.request call).url.pathParts.map Percent.decode =
      c.baseUrl.baseParts.map Percent.decode ++
        (["service", call.target.service, "version", toString call.target.version.toNat, "logging",
          "kafka"] ++ call.pathName?.toList).map Utf8.encode ↔
      call.Spellable ∧ c.baseUrl.pathText ≠ "//" := by
  obtain ⟨parts, hu, hparts⟩ := exists_segments hc
  rw [url_request, Ne, pathText_eq_two_iff hu hparts]
  by_cases htwo : parts = ["", ""]
  · exact iff_of_false (bytes_endpointUrl_ne hu hparts htwo _ _) fun h => h.2 htwo
  · -- The segments of the base come first, and the first word is always spelled.
    have hstart : c.baseUrl.baseParts.map Percent.decode ++ [Utf8.encode "service"] =
        (start parts).map bytesOf := by
      rw [baseParts_eq hu hparts htwo, start, List.map_append, List.map_map]
      rfl
    have hsegments := bytes_endpointUrl_iff hu hparts call.target call.pathName?
    rw [← hstart, List.append_assoc] at hsegments
    exact hsegments.trans (and_iff_left htwo).symm

/-- **Addresses tell apart what they spell.** -/
theorem eq_of_url_eq {call call' : Call} (h : call.Spellable) (h' : call'.Spellable)
    (hurl : (c.request call).url = (c.request call').url) :
    call.target = call'.target ∧ call.pathName? = call'.pathName? := by
  obtain ⟨parts, hu, hparts⟩ := exists_segments hc
  rw [url_request, url_request] at hurl
  -- Equal addresses have equal paths, whose segments decode to the texts they spell.
  have hbytes := (bytes_endpointUrl_iff hu hparts call.target call.pathName?).2 h
  rw [hurl, (bytes_endpointUrl_iff hu hparts call'.target call'.pathName?).2 h',
    List.append_cancel_left_eq] at hbytes
  obtain ⟨htarget, hname⟩ := wanted_inj (List.map_injective_iff.2 Utf8.encode_injective hbytes)
  exact ⟨htarget.symm, hname.symm⟩

/-- **When a request is addressed to all endpoints of a version**: if the endpoint that it names is
a step. -/
theorem url_eq_list_iff {call : Call} {name : String} (hname : call.pathName? = some name) :
    (c.request call).url = (c.request (.list call.target)).url ↔ name = "." ∨ name = ".." := by
  obtain ⟨parts, hu, -⟩ := exists_segments hc
  have hpush : c.endpointUrl call.target (some name) =
      (c.endpointUrl call.target none).pushSegment name := by
    simp only [endpointUrl, segmentsFor, Option.toList_some, List.foldl_append, Option.toList_none,
      List.append_nil]
    rfl
  obtain ⟨rest, hrest, hpath⟩ := exists_path_endpointUrl hu call.target
  rw [url_request, url_request, hname]
  change c.endpointUrl call.target (some name) = c.endpointUrl call.target none ↔ _
  rw [hpush, ← appendSegment_eq_self_iff (isSpecial (c.endpointUrl call.target none).scheme) hrest
    (by decide : "kafka" ≠ "") name]
  generalize c.endpointUrl call.target none = url at hpath
  constructor
  · intro hurl
    have hpaths := congrArg Url.path hurl
    rw [pushSegment, hpath] at hpaths
    exact UrlPath.segments.inj hpaths
  · intro happend
    rw [pushSegment, hpath]
    simp only [happend, ← hpath]

/-- **Which endpoints requests are addressed to.** The path of an address is that of the base, with
the segments that name what the request names, exactly if segments can spell those, unless the base
has a path of just two slashes; addresses that can be spelled are equal only for the same version
and name; and an update or a deletion is addressed to all endpoints of a version exactly if it names
a step. -/
theorem addresses :
    (∀ call : Call, (c.request call).url.pathParts.map Percent.decode =
      c.baseUrl.baseParts.map Percent.decode ++
        (["service", call.target.service, "version", toString call.target.version.toNat, "logging",
          "kafka"] ++ call.pathName?.toList).map Utf8.encode ↔
      call.Spellable ∧ c.baseUrl.pathText ≠ "//") ∧
    (∀ call call' : Call, call.Spellable → call'.Spellable →
      (c.request call).url = (c.request call').url →
        call.target = call'.target ∧ call.pathName? = call'.pathName?) ∧
    ∀ (call : Call) (name : String), call.pathName? = some name →
      ((c.request call).url = (c.request (.list call.target)).url ↔ name = "." ∨ name = "..") :=
  ⟨bytes_url_iff hc, fun _ _ h h' => eq_of_url_eq hc h h', fun _ _ h => url_eq_list_iff hc h⟩

omit hc

/-- The client of the usual address. -/
def usual : Client :=
  ⟨⟨"https", some (.domain "api.fastly.com"), none, .segments [""], none, none⟩, "k"⟩

theorem ofConfig_usual : ofConfig ⟨"k", Config.defaultUrl, 30⟩ = .ok usual := rfl

/-- A name with a blank and a slash is spelled, and told apart from another; a step is not. -/
theorem addresses_usual :
    (usual.request (.delete ⟨"svc", 3⟩ "my endpoint/1")).url.text =
      "https://api.fastly.com/service/svc/version/3/logging/kafka/my%20endpoint%2F1" ∧
    (usual.request (.delete ⟨"svc", 3⟩ "my endpoint/1")).url.pathParts.map Percent.decode =
      ["service", "svc", "version", "3", "logging", "kafka", "my endpoint/1"].map Utf8.encode ∧
    (usual.request (.delete ⟨"svc", 3⟩ "my endpoint/1")).url ≠
      (usual.request (.update ⟨"svc", 3⟩ "b" .empty)).url ∧
    (usual.request (.delete ⟨"svc", 3⟩ "my endpoint/1")).url ≠
      (usual.request (.list ⟨"svc", 3⟩)).url := by
  obtain ⟨hbytes, happart, hlist⟩ := addresses ofConfig_usual
  have hsvc : Url.Spellable "svc" := ⟨by decide, by decide, by decide⟩
  have hname : Url.Spellable "my endpoint/1" := ⟨by decide, by decide, by decide⟩
  have hother : Url.Spellable "b" := ⟨by decide, by decide, by decide⟩
  have hdelete : (Call.delete ⟨"svc", 3⟩ "my endpoint/1").Spellable :=
    ⟨hsvc, fun n hn => Option.some.inj hn ▸ hname⟩
  have hupdate : (Call.update ⟨"svc", 3⟩ "b" .empty).Spellable :=
    ⟨hsvc, fun n hn => Option.some.inj hn ▸ hother⟩
  refine ⟨by decide +kernel, (hbytes _).2 ⟨hdelete, by decide⟩, fun h => ?_, fun h => ?_⟩
  · have hnames := (happart _ _ hdelete hupdate h).2
    exact absurd hnames (by decide)
  · exact absurd ((hlist _ _ rfl).1 h) (by decide)

/-- **A request that is addressed to more than it names.** The deletion of the endpoint whose name
is a step has the address of all endpoints of the version; and two names that differ in a tab share
an address. -/
theorem delete_of_step :
    ofConfig ⟨"k", Config.defaultUrl, 30⟩ = .ok usual ∧
    (usual.request (.delete ⟨"svc", 2⟩ ".")).url = (usual.request (.list ⟨"svc", 2⟩)).url ∧
    (usual.request (.delete ⟨"svc", 2⟩ ".")).url.text =
      "https://api.fastly.com/service/svc/version/2/logging/kafka" ∧
    (usual.request (.delete ⟨"svc", 2⟩ ".")).url.pathParts.map Percent.decode ≠
      usual.baseUrl.baseParts.map Percent.decode ++
        ["service", "svc", "version", "2", "logging", "kafka", "."].map Utf8.encode ∧
    (usual.request (.delete ⟨"svc", 2⟩ "a\tb")).url =
      (usual.request (.delete ⟨"svc", 2⟩ "ab")).url :=
  ⟨rfl, by decide +kernel, by decide +kernel, by decide +kernel, by decide +kernel⟩

end Client

end Http

end LoggingProvider
