import LoggingProvider.Proofs.Config.Settings

/-!
# The address of a resolved configuration

An address must start with a scheme of the web and two slashes. After this was looked at, it loses
the slashes at its end. The two slashes are kept if anything else follows, and then something else
still follows. Of an address with nothing but slashes after its scheme, the scheme and the colon are
all that stays.

## Main definitions

* `Config.Addressed`: something follows the scheme and two slashes
* `Config.Bare`: nothing but slashes follows the scheme
* `Config.WellFormed`: a configuration that requests can be made with

## Main results

* `Config.getLast?_dropSlashes`: no slash stays at the end of an address
* `Config.dropSlashes_of_bare`: what stays of an address with nothing but slashes
* `Config.addressed_dropSlashes_iff`: when something stays behind the scheme
* `Config.wellFormed_iff`: when a resolved configuration is well-formed
-/

namespace LoggingProvider

namespace Config

variable {v : Json} {environment : String → Option String} {config : Config} {url : String}

/-- **Something follows the scheme of the web and two slashes.** -/
def Addressed (url : String) : Prop :=
  ∃ start ∈ ["http://", "https://"], ∃ rest ≠ [], url.toList = start.toList ++ rest

/-- **Nothing but slashes follows the scheme of the web.** -/
def Bare (url : String) : Prop :=
  ∃ scheme ∈ ["http", "https"], ∃ slashes, (∀ c ∈ slashes, c = '/') ∧
    url.toList = scheme.toList ++ ':' :: slashes

/-- **A configuration that requests can be made with**: it has a key and a time, and its address has
something after the scheme and no slash at the end. -/
structure WellFormed (config : Config) : Prop where
  keyed : config.key ≠ ""
  timed : 0 < config.timeout
  addressed : Addressed config.baseUrl
  ended : config.baseUrl.toList.getLast? ≠ some '/'

/-! ## Slashes at the end -/

/-- **No slash stays at the end** of an address. -/
theorem getLast?_dropSlashes (url : String) : (dropSlashes url).toList.getLast? ≠ some '/' := by
  rw [toList_dropSlashes]
  by_cases hne : url.toList.rdropWhile (· = '/') = []
  · rw [hne]
    exact nofun
  · rw [List.getLast?_eq_some_getLast hne]
    intro hlast
    exact List.rdropWhile_last_not _ _ hne (decide_eq_true (Option.some.inj hlast))

/-- An address of the web has two slashes after its scheme. -/
theorem isWebUrl_iff : isWebUrl url ↔ ∃ scheme ∈ ["http", "https"], ∃ rest,
    url.toList = scheme.toList ++ ':' :: '/' :: '/' :: rest := by
  unfold isWebUrl
  rw [Bool.or_eq_true_iff, List.isPrefixOf_iff_prefix, List.isPrefixOf_iff_prefix]
  simp only [List.mem_cons, List.not_mem_nil, or_false, exists_eq_or_imp, exists_eq_left]
  constructor
  · rintro (⟨rest, h⟩ | ⟨rest, h⟩)
    · exact .inl ⟨rest, h.symm⟩
    · exact .inr ⟨rest, h.symm⟩
  · rintro (⟨rest, h⟩ | ⟨rest, h⟩)
    · exact .inl ⟨rest, h.symm⟩
    · exact .inr ⟨rest, h.symm⟩

/-- The slashes at the end of an address are behind the colon of its scheme. -/
theorem toList_dropSlashes_of_scheme {scheme back : List Char}
    (h : url.toList = scheme ++ ':' :: back) :
    (dropSlashes url).toList = scheme ++ ':' :: back.rdropWhile (· = '/') := by
  rw [toList_dropSlashes, h]
  exact Url.dropEnd_append rfl scheme back

/-- **Of an address with nothing but slashes after its scheme**, the scheme and the colon stay. -/
theorem dropSlashes_of_bare (h : Bare url) : dropSlashes url ∈ ["http:", "https:"] := by
  obtain ⟨scheme, hscheme, slashes, hslashes, hurl⟩ := h
  have hnone : slashes.rdropWhile (· = '/') = [] :=
    List.rdropWhile_eq_nil_iff.2 fun c hc => decide_eq_true (hslashes c hc)
  have hdrop := toList_dropSlashes_of_scheme hurl
  rw [hnone] at hdrop
  simp only [List.mem_cons, List.not_mem_nil, or_false] at hscheme ⊢
  rcases hscheme with rfl | rfl
  · exact .inl (String.toList_inj.1 hdrop)
  · exact .inr (String.toList_inj.1 hdrop)

/-- What stands in front stays if not all of the rest is dropped. -/
theorem rdropWhile_append_of_ne_nil {p : Char → Bool} {back : List Char} (front : List Char)
    (h : back.rdropWhile p ≠ []) :
    (front ++ back).rdropWhile p = front ++ back.rdropWhile p := by
  unfold List.rdropWhile at h ⊢
  have hdrop : (back.reverse.dropWhile p).isEmpty = false := by
    simpa [List.isEmpty_eq_false_iff] using h
  rw [List.reverse_append, List.dropWhile_append, hdrop, if_neg Bool.false_ne_true,
    List.reverse_append, List.reverse_reverse]

/-- **What stays behind the scheme**: something does exactly if there is more than slashes. -/
theorem addressed_dropSlashes_iff (h : isWebUrl url) :
    Addressed (dropSlashes url) ↔ ¬Bare url := by
  constructor
  · rintro ⟨start, hstart, rest, hrest, hurl⟩ hbare
    have hlong : ∀ s ∈ ["http://", "https://"], 7 ≤ s.toList.length := by decide
    have hshort : ∀ s ∈ ["http:", "https:"], s.toList.length ≤ 6 := by decide
    have hlength := congrArg List.length hurl
    rw [List.length_append] at hlength
    have hleast := hlong start hstart
    have hmost := hshort _ (dropSlashes_of_bare hbare)
    omega
  · intro hbare
    obtain ⟨scheme, hscheme, rest, hurl⟩ := isWebUrl_iff.1 h
    have hne : rest.rdropWhile (· = '/') ≠ [] := by
      intro hnil
      have hslashes : ∀ c ∈ rest, c = '/' := fun c hc =>
        of_decide_eq_true (List.rdropWhile_eq_nil_iff.1 hnil c hc)
      refine hbare ⟨scheme, hscheme, _, ?_, hurl⟩
      exact List.forall_mem_cons.2 ⟨rfl, List.forall_mem_cons.2 ⟨rfl, hslashes⟩⟩
    have hkept : ('/' :: '/' :: rest).rdropWhile (· = '/') =
        '/' :: '/' :: rest.rdropWhile (· = '/') :=
      rdropWhile_append_of_ne_nil ['/', '/'] hne
    have hdrop := toList_dropSlashes_of_scheme hurl
    rw [hkept] at hdrop
    refine ⟨scheme ++ "://", ?_, _, hne, ?_⟩
    · simp only [List.mem_cons, List.not_mem_nil, or_false] at hscheme ⊢
      exact hscheme.imp (congrArg (· ++ "://")) (congrArg (· ++ "://"))
    · rw [hdrop, String.toList_append, List.append_assoc]
      rfl

/-! ## Resolved configurations -/

theorem ne_empty_of_firstSet {texts : List (Option String)} {t : String}
    (h : firstSet texts = some t) : t ≠ "" :=
  of_decide_eq_true (List.find?_some (p := fun t : String => decide (t ≠ "")) h)

/-- **When a resolved configuration is well-formed.** It has a key and a time, and no slash at the
end of its address. Its address has something after the scheme exactly if the one that was chosen
has more than slashes there; of one that has not, the scheme and the colon are left. -/
theorem wellFormed_iff (h : resolve v environment = .ok config) :
    config.key ≠ "" ∧ 0 < config.timeout ∧ config.baseUrl.toList.getLast? ≠ some '/' ∧
      ∃ given, Given.ofJson v = .ok given ∧
        (config.WellFormed ↔ ¬Bare (chooseUrl given.baseUrl (environment urlVariable))) ∧
        (Bare (chooseUrl given.baseUrl (environment urlVariable)) →
          config.baseUrl ∈ ["http:", "https:"]) := by
  obtain ⟨given, hgiven, key, hkey, hurl, htime, rfl⟩ := resolve_eq_ok_iff.1 h
  have hkeyed : key ≠ "" := by
    rw [chooseKey_eq_firstSet] at hkey
    exact ne_empty_of_firstSet hkey
  have htimed : 0 < given.timeout.getD defaultTimeout := UInt64.pos_iff_ne_zero.2 htime
  have hended := getLast?_dropSlashes (chooseUrl given.baseUrl (environment urlVariable))
  refine ⟨hkeyed, htimed, hended, given, hgiven, ?_, dropSlashes_of_bare⟩
  rw [← addressed_dropSlashes_iff hurl]
  exact ⟨WellFormed.addressed, fun haddressed => ⟨hkeyed, htimed, haddressed, hended⟩⟩

/-- An address with a slash too many at its end. -/
theorem wellFormed_iff_of_slashes :
    resolve (Provider.webConfig "https://h//") (fun _ => none) = .ok ⟨"k", "https://h", 30⟩ ∧
      WellFormed ⟨"k", "https://h", 30⟩ := by
  have hresolve : resolve (Provider.webConfig "https://h//") (fun _ => none) =
    .ok ⟨"k", "https://h", 30⟩ := rfl
  obtain ⟨-, -, -, given, hgiven, hiff, -⟩ := wellFormed_iff hresolve
  obtain rfl : ⟨some "k", some "https://h//", none⟩ = given := Except.ok.inj hgiven
  refine ⟨hresolve, hiff.2 ?_⟩
  rintro ⟨scheme, hscheme, slashes, hslashes, hurl⟩
  change "https://h//".toList = _ at hurl
  simp only [List.mem_cons, List.not_mem_nil, or_false] at hscheme
  rcases hscheme with rfl | rfl
  · exact absurd (congrArg (List.take 5) hurl) (by simp)
  · obtain rfl : "//h//".toList = slashes := congrArg (List.drop 6) hurl
    exact absurd (hslashes 'h' (by simp)) (by decide)

/-- **An address with nothing but slashes** resolves to a scheme and a colon. -/
theorem resolved_without_address :
    resolve (Provider.webConfig "http://") (fun _ => none) = .ok ⟨"k", "http:", 30⟩ ∧
      ¬WellFormed ⟨"k", "http:", 30⟩ := by
  refine ⟨rfl, fun hformed => ?_⟩
  have hbare : Bare "http://" := ⟨"http", by simp, ['/', '/'], by simp, rfl⟩
  have hweb : isWebUrl "http://" := rfl
  exact (addressed_dropSlashes_iff hweb).1 hformed.addressed hbare

end Config

end LoggingProvider
