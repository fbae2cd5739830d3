import LoggingProvider.Proofs.Dict
import LoggingProvider.Proofs.Provider.Configuration
import Mathlib.Data.List.DropRight

/-!
# Empty settings

A key or an address of a configuration may be absent, null, empty or a text, and so may its variable
of the environment. An empty key counts as none in both places: the first key that is set is taken.
An empty address of the environment counts as none as well, but an empty one of the configuration
does not: it stands for the default, and the address of the environment is not looked at. So
leaving it out may lead to another address, or to a fault.

## Main definitions

* `Config.configured`: the text that an object gives under a name
* `Config.firstSet`: the first of some texts that is not empty
* `Config.Given.settle`: what is resolved once the settings are read
* `Config.Hides`: an empty address hides the one of the environment

## Main results

* `Config.resolve_object`: what an object resolves to, read off its members
* `Config.resolve_remove_key`: an empty key is left out
* `Config.resolve_empty_url`: an empty address stands for the default
* `Config.resolve_remove_url_iff`: when an empty address can be left out
* `Config.empty_unset_iff`: when empty settings count as absent, and what settings resolve to
-/

namespace LoggingProvider

open Dict

namespace Config

variable {d : Dict Json} {environment : String → Option String} {name : String}

/-! ## Choices -/

/-- **The first of some texts that is not empty.** -/
def firstSet (texts : List (Option String)) : Option String :=
  (texts.filterMap id).find? fun t => t ≠ ""

theorem nonempty_some {t : String} (h : t ≠ "") : nonempty (some t) = some t :=
  Option.filter_some_pos (decide_eq_true h)

theorem firstSet_nil : firstSet [] = none := rfl

theorem firstSet_cons (text : Option String) (rest : List (Option String)) :
    firstSet (text :: rest) = (nonempty text).or (firstSet rest) := by
  cases text with
  | none => rfl
  | some t =>
    change (t :: rest.filterMap id).find? (fun t => t ≠ "") = _
    by_cases ht : t = ""
    · rw [ht, List.find?_cons_of_neg (by decide)]
      rfl
    · rw [nonempty_some ht, Option.some_or]
      exact List.find?_cons_of_pos (decide_eq_true ht)

/-- **The key that counts** is the first one that is set. -/
theorem chooseKey_eq_firstSet (key outer : Option String) :
    chooseKey key outer = firstSet [key, outer] := by
  rw [firstSet_cons, firstSet_cons, firstSet_nil, Option.or_none]
  rfl

/-- An empty address of a configuration stands for the default. -/
theorem chooseUrl_empty (outer : Option String) : chooseUrl (some "") outer = defaultUrl :=
  rfl

/-- Without an address in the configuration, the one of the environment counts if it is set. -/
theorem chooseUrl_none_cases (outer : Option String) :
    (∃ url, outer = some url ∧ url ≠ "" ∧ chooseUrl none outer = url) ∨
      (chooseUrl none outer = defaultUrl ∧ ∀ url, outer = some url → url = "") := by
  cases outer with
  | none => exact .inr ⟨rfl, nofun⟩
  | some url =>
    by_cases hurl : url = ""
    · exact .inr ⟨by rw [hurl]; rfl, fun _ hsome => Option.some.inj hsome ▸ hurl⟩
    · refine .inl ⟨url, rfl, hurl, ?_⟩
      rw [chooseUrl, Option.none_or, nonempty_some hurl, Option.getD_some]

/-- **The address that counts** is the first one that is set, unless the configuration gives an
empty one. -/
theorem firstSet_eq_chooseUrl {url : Option String} (h : url ≠ some "") (outer : Option String) :
    firstSet [url, outer, some defaultUrl] = some (chooseUrl url outer) := by
  have hdefault : firstSet [some defaultUrl] = some defaultUrl := rfl
  rw [firstSet_cons, firstSet_cons, hdefault]
  unfold chooseUrl
  cases url with
  | none =>
    change (nonempty outer).or (some defaultUrl) = _
    rw [Option.or_some]
    rfl
  | some u =>
    rw [Option.some_or, nonempty_some fun hu => h (congrArg some hu), Option.some_or,
      Option.getD_some]

theorem toList_dropSlashes (url : String) :
    (dropSlashes url).toList = url.toList.rdropWhile (· = '/') :=
  String.toList_ofList

/-- An address that is the default apart from slashes at its end is one of the web. -/
theorem isWebUrl_of_dropSlashes {url : String} (h : dropSlashes url = defaultUrl) :
    isWebUrl url := by
  have hsplit : defaultUrl.toList ++ url.toList.rtakeWhile (· = '/') = url.toList := by
    rw [← h, toList_dropSlashes]
    exact List.rdropWhile_append_rtakeWhile
  have hprefix : "https://".toList <+: url.toList := by
    rw [← hsplit]
    exact ⟨"api.fastly.com".toList ++ url.toList.rtakeWhile (· = '/'), rfl⟩
  unfold isWebUrl
  rw [List.isPrefixOf_iff_prefix.2 hprefix, Bool.or_true]

/-! ## What an object gives -/

/-- **The text that an object gives under a name.** -/
def configured (d : Dict Json) (name : String) : Option String :=
  (value? d name).bind Json.text?

/-- The time that an object gives. -/
def configuredTime (d : Dict Json) : Option UInt64 :=
  match value? d "timeout_seconds" with
  | some (.number (.natural n)) => some n
  | _ => none

/-- What an object gives if its members can be read. -/
def Given.ofMembers (d : Dict Json) : Given :=
  ⟨configured d "api_key", configured d "base_url", configuredTime d⟩

theorem optional_asText (hname : name = "api_key" ∨ name = "base_url")
    (h : Json.checkMembers d checkMember = .ok ()) :
    Json.optional d name none (Json.asOptional Json.asText) = .ok (configured d name) := by
  unfold Json.optional configured
  cases hv : value? d name with
  | none => rfl
  | some v =>
    have hcheck : checkMember name v = .ok () := Outcome.forM_eq_ok_iff.1 h _ (mem_of_value? hv)
    rcases hname with rfl | rfl <;> cases v <;> first | rfl | cases hcheck

theorem optional_asUInt64 (h : Json.checkMembers d checkMember = .ok ()) :
    Json.optional d "timeout_seconds" none (Json.asOptional Json.asUInt64) =
      .ok (configuredTime d) := by
  unfold Json.optional configuredTime
  cases hv : value? d "timeout_seconds" with
  | none => rfl
  | some v =>
    have hcheck : checkMember "timeout_seconds" v = .ok () :=
      Outcome.forM_eq_ok_iff.1 h _ (mem_of_value? hv)
    rcases v with _ | _ | (_ | _ | _) | _ | _ | _ <;> first | rfl | cases hcheck

/-- **An object gives its members**, or the fault of the first one that cannot be read. -/
theorem ofJson_object (d : Dict Json) : Given.ofJson (.object d) =
    (Json.checkMembers d checkMember).map fun _ => Given.ofMembers d := by
  unfold Given.ofJson
  cases h : Json.checkMembers d checkMember with
  | error fault =>
    simp only [h]
    rfl
  | ok =>
    simp only [h, optional_asText (.inl rfl) h, optional_asText (.inr rfl) h, optional_asUInt64 h]
    rfl

theorem exists_ofJson_object_iff : (∃ given, Given.ofJson (.object d) = .ok given) ↔
    Json.checkMembers d checkMember = .ok () := by
  rw [ofJson_object]
  cases Json.checkMembers d checkMember <;> simp [Except.map]

/-! ## What the settings resolve to -/

/-- The fault of a configuration without a key. -/
def keyMissing : Fault :=
  .configuration ("no API key configured; set api_key or " ++ keyVariable)

/-- The fault of an address that is none of the web. -/
def notWeb (url : String) : Fault :=
  .configuration ("base_url must be an http(s) URL, got " ++ url)

/-- The fault of a time that is zero. -/
def timeMissing : Fault :=
  .configuration "timeout_seconds must be greater than zero"

theorem notWeb_ne_timeMissing (url : String) : notWeb url ≠ timeMissing := by
  intro h
  have hhead := congrArg (fun text => text.toList.head?) (Fault.configuration.inj h)
  simp only [String.toList_append] at hhead
  exact absurd (Option.some.inj hhead) (by decide)

/-- What is resolved once a key is found: an address of the web is wanted first, then a time. -/
def addressed (key url : String) (time : UInt64) : Except Fault Config :=
  if isWebUrl url then
    if time = 0 then .error timeMissing else .ok ⟨key, dropSlashes url, time⟩
  else .error (notWeb url)

/-- **What is resolved once the settings are read**: a key is wanted before all else. -/
def Given.settle (given : Given) (environment : String → Option String) : Except Fault Config :=
  match chooseKey given.key (environment keyVariable) with
  | none => .error keyMissing
  | some key =>
    addressed key (chooseUrl given.baseUrl (environment urlVariable))
      (given.timeout.getD defaultTimeout)

theorem settle_eq (key url : Option String) (time : Option UInt64) :
    Given.settle ⟨key, url, time⟩ environment =
      match firstSet [key, environment keyVariable] with
      | none => .error keyMissing
      | some key =>
        addressed key (chooseUrl url (environment urlVariable)) (time.getD defaultTimeout) := by
  rw [← chooseKey_eq_firstSet]
  rfl

theorem resolve_eq (v : Json) (environment : String → Option String) : resolve v environment =
    ((Given.ofJson v).mapError fun fault => .configuration fault.message) >>= fun given =>
      given.settle environment := by
  unfold resolve Given.settle addressed
  congr 1
  funext given
  cases chooseKey given.key (environment keyVariable) with
  | none => rfl
  | some key =>
    by_cases hurl : isWebUrl (chooseUrl given.baseUrl (environment urlVariable))
    · by_cases htime : given.timeout.getD defaultTimeout = 0
      · simp [hurl, htime, throw, throwThe, MonadExceptOf.throw, bind, Except.bind, timeMissing]
      · simp [hurl, htime, pure, Except.pure]
    · simp [hurl, throw, throwThe, MonadExceptOf.throw, bind, Except.bind, notWeb]

/-- **What an object resolves to**: what its members do, or the fault of the first one that cannot
be read. -/
theorem resolve_object (d : Dict Json) (environment : String → Option String) :
    resolve (.object d) environment =
      ((Json.checkMembers d checkMember).mapError fun fault => .configuration fault.message) >>=
        fun _ => (Given.ofMembers d).settle environment := by
  rw [resolve_eq, ofJson_object]
  cases Json.checkMembers d checkMember <;> rfl

theorem resolve_of_read (h : Json.checkMembers d checkMember = .ok ())
    (environment : String → Option String) :
    resolve (.object d) environment = (Given.ofMembers d).settle environment := by
  rw [resolve_object, h]
  rfl

/-! ## Empty settings left out -/

theorem configured_remove (other : String) :
    configured (remove name d) other = if name = other then none else configured d other := by
  unfold configured
  rw [value?_remove]
  split <;> rfl

theorem configuredTime_remove (h : name ≠ "timeout_seconds") :
    configuredTime (remove name d) = configuredTime d := by
  unfold configuredTime
  rw [value?_remove, if_neg h]

/-- An empty text is no fault of an object. -/
theorem checkMembers_remove (hd : Ordered d) (hname : name = "api_key" ∨ name = "base_url")
    (hempty : value? d name = some (.string "")) :
    Json.checkMembers (remove name d) checkMember = Json.checkMembers d checkMember := by
  apply Outcome.forM_filter
  rintro ⟨n, v⟩ hmem hn
  obtain rfl : n = name := by simpa using hn
  obtain rfl := Option.some.inj ((hd.mem_iff.1 hmem).symm.trans hempty)
  rcases hname with rfl | rfl <;> rfl

/-- **An empty key is left out.** -/
theorem resolve_remove_key (hd : Ordered d) (h : value? d "api_key" = some (.string "")) :
    resolve (.object (remove "api_key" d)) environment = resolve (.object d) environment := by
  have hgiven : Given.ofMembers (remove "api_key" d) = { Given.ofMembers d with key := none } := by
    simp [Given.ofMembers, configured_remove, configuredTime_remove]
  have hkey : (Given.ofMembers d).key = some "" := by
    simp [Given.ofMembers, configured, h, Json.text?]
  have hsettle : (Given.ofMembers (remove "api_key" d)).settle environment =
      (Given.ofMembers d).settle environment := by
    unfold Given.settle
    rw [hgiven, hkey]
    rfl
  rw [resolve_object, resolve_object, checkMembers_remove hd (.inl rfl) h, hsettle]

theorem ofMembers_remove_url : Given.ofMembers (remove "base_url" d) =
    ⟨configured d "api_key", none, configuredTime d⟩ := by
  simp [Given.ofMembers, configured_remove, configuredTime_remove]

/-- The environment without a variable. -/
def without (name : String) (environment : String → Option String) : String → Option String :=
  fun other => if other = name then none else environment other

/-- **An empty address hides the one of the environment**: this one is set, the settings are read,
there is a key, and the default is not what the address of the environment resolves to. -/
structure Hides (d : Dict Json) (environment : String → Option String) (url : String) : Prop where
  found : environment urlVariable = some url
  set : url ≠ ""
  read : ∃ given, Given.ofJson (.object d) = .ok given
  keyed : firstSet [configured d "api_key", environment keyVariable] ≠ none
  counts : isWebUrl url → configuredTime d ≠ some 0 ∧ dropSlashes url ≠ defaultUrl

/-- An address resolves as the default does if it is the default apart from slashes at its end, or
if both are passed over for want of a time. -/
theorem addressed_eq_default_iff {key url : String} {time : UInt64} :
    addressed key url time = addressed key defaultUrl time ↔
      isWebUrl url ∧ (time = 0 ∨ dropSlashes url = defaultUrl) := by
  have hdefault : addressed key defaultUrl time =
      if time = 0 then .error timeMissing else .ok ⟨key, defaultUrl, time⟩ := rfl
  rw [hdefault]
  unfold addressed
  by_cases hurl : isWebUrl url
  · by_cases htime : time = 0
    · simp [hurl, htime]
    · simp [hurl, htime]
  · by_cases htime : time = 0
    · simp [hurl, htime, notWeb_ne_timeMissing]
    · simp [hurl, htime]

section EmptyAddress

variable (h : value? d "base_url" = some (.string ""))

include h

theorem ofMembers_empty_url :
    Given.ofMembers d = ⟨configured d "api_key", some "", configuredTime d⟩ := by
  simp [Given.ofMembers, configured, h, Json.text?]

/-- **An empty address stands for the default**, whatever the environment gives. -/
theorem resolve_empty_url (hd : Ordered d) (environment : String → Option String) :
    resolve (.object d) environment =
      resolve (.object (remove "base_url" d)) (without urlVariable environment) := by
  have hsettle : (Given.ofMembers (remove "base_url" d)).settle (without urlVariable environment) =
      (Given.ofMembers d).settle environment := by
    rw [ofMembers_remove_url, ofMembers_empty_url h]
    rfl
  rw [resolve_object, resolve_object, checkMembers_remove hd (.inr rfl) h, hsettle]

/-- When the settings resolve to the same without an empty address. -/
theorem settle_remove_url_iff : (Given.ofMembers (remove "base_url" d)).settle environment =
      (Given.ofMembers d).settle environment ↔
    ∀ url, environment urlVariable = some url → url ≠ "" →
      firstSet [configured d "api_key", environment keyVariable] ≠ none →
        isWebUrl url ∧ (configuredTime d = some 0 ∨ dropSlashes url = defaultUrl) := by
  have htime : (configuredTime d).getD defaultTimeout = 0 ↔ configuredTime d = some 0 := by
    cases configuredTime d <;> simp [defaultTimeout]
  rw [ofMembers_remove_url, ofMembers_empty_url h, settle_eq, settle_eq, chooseUrl_empty]
  cases firstSet [configured d "api_key", environment keyVariable] with
  | none => simp
  | some key =>
    change addressed key (chooseUrl none _) _ = addressed key defaultUrl _ ↔ _
    rcases chooseUrl_none_cases (environment urlVariable) with
      ⟨url, hfound, hset, hchoose⟩ | ⟨hchoose, hunset⟩
    · rw [hchoose, hfound, addressed_eq_default_iff, htime]
      constructor
      · rintro hsame _ ⟨⟩ - -
        exact hsame
      · exact fun hall => hall url rfl hset (Option.some_ne_none key)
    · rw [hchoose]
      exact iff_of_true rfl fun url hfound hset => absurd (hunset url hfound) hset

/-- **When an empty address can be left out**: when it hides nothing. -/
theorem resolve_remove_url_iff (hd : Ordered d) :
    resolve (.object (remove "base_url" d)) environment = resolve (.object d) environment ↔
      ¬∃ url, Hides d environment url := by
  have hremove := checkMembers_remove hd (.inr rfl) h
  by_cases hcheck : Json.checkMembers d checkMember = .ok ()
  · have hread := exists_ofJson_object_iff.2 hcheck
    rw [resolve_of_read hcheck, resolve_of_read (hremove.trans hcheck), settle_remove_url_iff h]
    constructor
    · rintro hall ⟨url, hhides⟩
      obtain ⟨hweb, hsame⟩ := hall url hhides.found hhides.set hhides.keyed
      obtain ⟨htime, hother⟩ := hhides.counts hweb
      exact hsame.elim htime hother
    · intro hnone url hfound hset hkeyed
      by_contra hother
      refine hnone ⟨url, hfound, hset, hread, hkeyed, fun hweb => ?_⟩
      exact not_or.1 fun hsame => hother ⟨hweb, hsame⟩
  · cases hfault : Json.checkMembers d checkMember with
    | ok => exact absurd hfault hcheck
    | error fault =>
      rw [resolve_object, resolve_object, hremove, hfault]
      exact iff_of_true rfl fun ⟨_, hhides⟩ => hcheck (exists_ofJson_object_iff.1 hhides.read)

end EmptyAddress

/-! ## What settings resolve to -/

/-- **The key of a configuration** is the first one that is set. -/
theorem firstSet_key {config : Config} (h : resolve (.object d) environment = .ok config) :
    firstSet [configured d "api_key", environment keyVariable] = some config.key := by
  obtain ⟨given, hgiven, key, hkey, -, -, rfl⟩ := resolve_eq_ok_iff.1 h
  rw [ofJson_object] at hgiven
  obtain ⟨_, -, rfl⟩ := Outcome.map_eq_ok_iff.1 hgiven
  rw [← chooseKey_eq_firstSet]
  exact hkey

/-- Without a key there is no configuration. -/
theorem resolve_of_keyless (hread : ∃ given, Given.ofJson (.object d) = .ok given)
    (h : firstSet [configured d "api_key", environment keyVariable] = none) :
    resolve (.object d) environment = .error keyMissing := by
  rw [resolve_of_read (exists_ofJson_object_iff.1 hread), Given.ofMembers, settle_eq, h]

/-- **The address of a configuration** is the first one that is set, unless an empty one hides the
one of the environment. -/
theorem firstSet_url_iff {config : Config} (h : resolve (.object d) environment = .ok config) :
    (firstSet [configured d "base_url", environment urlVariable, some defaultUrl]).map dropSlashes =
        some config.baseUrl ↔
      ¬(configured d "base_url" = some "" ∧ ∃ url, Hides d environment url) := by
  have hkeyed := firstSet_key h
  obtain ⟨given, hgiven, key, -, -, htime, rfl⟩ := resolve_eq_ok_iff.1 h
  have hread : ∃ given, Given.ofJson (.object d) = .ok given := ⟨given, hgiven⟩
  rw [ofJson_object] at hgiven
  obtain ⟨_, -, rfl⟩ := Outcome.map_eq_ok_iff.1 hgiven
  change _ = some (dropSlashes (chooseUrl (configured d "base_url") (environment urlVariable))) ↔ _
  change (configuredTime d).getD defaultTimeout ≠ 0 at htime
  by_cases hurl : configured d "base_url" = some ""
  · have hfirst : firstSet [some "", environment urlVariable, some defaultUrl] =
        some (chooseUrl none (environment urlVariable)) :=
      firstSet_eq_chooseUrl (Option.some_ne_none "").symm _
    rw [hurl, hfirst, chooseUrl_empty, Option.map_some, Option.some.injEq, and_iff_right rfl]
    change dropSlashes (chooseUrl none _) = defaultUrl ↔ _
    rcases chooseUrl_none_cases (environment urlVariable) with
      ⟨url, hfound, hset, hchoose⟩ | ⟨hchoose, hunset⟩
    · rw [hchoose]
      constructor
      · rintro hsame ⟨other, hhides⟩
        obtain rfl := Option.some.inj (hfound.symm.trans hhides.found)
        exact (hhides.counts (isWebUrl_of_dropSlashes hsame)).2 hsame
      · intro hnone
        by_contra hother
        refine hnone ⟨url, hfound, hset, hread, ?_, fun _ => ⟨?_, hother⟩⟩
        · rw [hkeyed]
          exact Option.some_ne_none _
        · intro hzero
          rw [hzero] at htime
          exact htime rfl
    · rw [hchoose]
      refine iff_of_true rfl ?_
      rintro ⟨url, hhides⟩
      exact hhides.set (hunset url hhides.found)
  · rw [firstSet_eq_chooseUrl hurl]
    exact iff_of_true rfl fun hhides => hurl hhides.1

/-- **When empty settings count as absent, and what settings resolve to.** An empty key can always
be left out. An empty address stands for the default, so it can be left out exactly when it hides no
address of the environment. The key of a configuration is the first one that is set, and without
one there is no configuration. Its address is the first one that is set, without the slashes at its
end, exactly unless an empty address hides the one of the environment. -/
theorem empty_unset_iff (hd : Ordered d) (environment : String → Option String) :
    (value? d "api_key" = some (.string "") →
      resolve (.object (remove "api_key" d)) environment = resolve (.object d) environment) ∧
    (value? d "base_url" = some (.string "") →
      resolve (.object d) environment =
          resolve (.object (remove "base_url" d)) (without urlVariable environment) ∧
        (resolve (.object (remove "base_url" d)) environment = resolve (.object d) environment ↔
          ¬∃ url, Hides d environment url)) ∧
    ((∃ given, Given.ofJson (.object d) = .ok given) →
      firstSet [configured d "api_key", environment keyVariable] = none →
        resolve (.object d) environment = .error keyMissing) ∧
    ∀ config, resolve (.object d) environment = .ok config →
      firstSet [configured d "api_key", environment keyVariable] = some config.key ∧
      ((firstSet [configured d "base_url", environment urlVariable, some defaultUrl]).map
          dropSlashes = some config.baseUrl ↔
        ¬(configured d "base_url" = some "" ∧ ∃ url, Hides d environment url)) := by
  refine ⟨resolve_remove_key hd, fun hurl => ?_, resolve_of_keyless, fun config h => ?_⟩
  · exact ⟨resolve_empty_url hurl hd environment, resolve_remove_url_iff hurl hd⟩
  · exact ⟨firstSet_key h, firstSet_url_iff h⟩

/-- An environment that gives a key and an address. -/
def environmentOf (key url : String) : String → Option String := fun name =>
  if name = keyVariable then some key else if name = urlVariable then some url else none

/-- A configuration that gives an empty key and an empty address. -/
def emptyMembers : Dict Json := [("api_key", .string ""), ("base_url", .string "")]

theorem ordered_emptyMembers : Ordered emptyMembers :=
  ordered_of_names ["api_key", "base_url"] rfl (by decide)

theorem resolve_emptyMembers (url : String) :
    resolve (.object emptyMembers) (environmentOf "k" url) =
      .ok ⟨"k", "https://api.fastly.com", 30⟩ := by
  have hgiven : Given.ofMembers emptyMembers = ⟨some "", some "", none⟩ := rfl
  rw [resolve_of_read rfl, hgiven, settle_eq, chooseUrl_empty]
  rfl

/-- Both can be left out where the environment gives the default. -/
theorem empty_unset_iff_of_default :
    resolve (.object [("base_url", .string "")]) (environmentOf "k" "https://api.fastly.com/") =
        .ok ⟨"k", "https://api.fastly.com", 30⟩ ∧
      resolve (.object [("api_key", .string "")]) (environmentOf "k" "https://api.fastly.com/") =
        .ok ⟨"k", "https://api.fastly.com", 30⟩ ∧
      firstSet [some "", some "k"] = some "k" := by
  have hnone : ¬∃ url, Hides emptyMembers (environmentOf "k" "https://api.fastly.com/") url := by
    rintro ⟨url, hhides⟩
    obtain rfl := Option.some.inj hhides.found
    exact (hhides.counts rfl).2 rfl
  obtain ⟨hkey, hurl, -, hfirst⟩ :=
    empty_unset_iff ordered_emptyMembers (environmentOf "k" "https://api.fastly.com/")
  have hresolve := resolve_emptyMembers "https://api.fastly.com/"
  exact ⟨(hkey rfl).trans hresolve, ((hurl rfl).2.2 hnone).trans hresolve, (hfirst _ hresolve).1⟩

/-- **An empty address is not an absent one**: with it the default is taken, and without it the
address of the environment. -/
theorem empty_url_hides_environment :
    value? emptyMembers "base_url" = some (.string "") ∧
      resolve (.object emptyMembers) (environmentOf "k" "http://localhost:8080") =
        .ok ⟨"k", "https://api.fastly.com", 30⟩ ∧
      resolve (.object (remove "base_url" emptyMembers))
        (environmentOf "k" "http://localhost:8080") = .ok ⟨"k", "http://localhost:8080", 30⟩ ∧
      resolve (.object (remove "base_url" emptyMembers))
        (environmentOf "k" "http://localhost:8080") ≠
          resolve (.object emptyMembers) (environmentOf "k" "http://localhost:8080") := by
  have hempty := resolve_emptyMembers "http://localhost:8080"
  have habsent : resolve (.object (remove "base_url" emptyMembers))
      (environmentOf "k" "http://localhost:8080") = .ok ⟨"k", "http://localhost:8080", 30⟩ := by
    rw [resolve_of_read rfl]
    rfl
  refine ⟨rfl, hempty, habsent, ?_⟩
  rw [hempty, habsent]
  intro hsame
  exact absurd (congrArg Config.baseUrl (Except.ok.inj hsame)) (by decide)

end Config

end LoggingProvider
