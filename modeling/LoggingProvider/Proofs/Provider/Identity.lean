import LoggingProvider.Proofs.Endpoint.Spelling
import LoggingProvider.Provider.Session
import Mathlib.Data.List.TakeWhile

/-!
# Identities of service versions

An identity names a service version by the service, a slash and the number of the version. The first
slash separates the two, so the service has none. The number is spelled by decimal digits with or
without a plus sign, it is not zero, and it fits into 32 bits.

## Main definitions

* `Provider.Designates`: an identity names a service version

## Main results

* `Provider.parseImportId_eq_ok_iff`: an identity is read as the service version that it names
* `Provider.parseImportId_of_none`: an identity that names none is refused
* `Provider.designates_join`: a service and the digits of a version, joined by a slash
-/

namespace LoggingProvider

namespace Provider

variable {id : String} {t : Target}

/-- **An identity names a service version**: the service, which is not empty and has no slash, then
a slash, and then a text that spells the number of the version, which is not zero. -/
def Designates (id : String) (t : Target) : Prop :=
  t.service ≠ "" ∧ '/' ∉ t.service.toList ∧ 0 < t.version ∧
    ∃ number, id = t.service ++ "/" ++ number ∧ Endpoint.Kind.Spelled number t.version.toNat

/-- The first slash of an identity separates what is before it from what is after it. -/
theorem splits_at_slash_iff {service number : String} :
    id.toList.takeWhile (· ≠ '/') = service.toList ∧
        id.toList.dropWhile (· ≠ '/') = '/' :: number.toList ↔
      id = service ++ "/" ++ number ∧ '/' ∉ service.toList := by
  have hjoined : (service ++ "/" ++ number).toList = service.toList ++ '/' :: number.toList := by
    simp
  rw [← String.toList_inj, hjoined]
  constructor
  · rintro ⟨htake, hdrop⟩
    rw [← htake, ← hdrop, List.takeWhile_append_dropWhile]
    refine ⟨rfl, fun hmem => ?_⟩
    simpa using List.mem_takeWhile_imp hmem
  · rintro ⟨hid, hslash⟩
    have hkept : ∀ c ∈ service.toList, decide (c ≠ '/') := by
      rintro c hc
      exact decide_eq_true fun h => hslash (h ▸ hc)
    rw [hid, List.takeWhile_append_of_pos hkept, List.dropWhile_append_of_pos hkept]
    simp

/-- What is read of an identity, by the parts before and after its first slash. -/
theorem importTarget?_of_split {service number : String}
    (htake : id.toList.takeWhile (· ≠ '/') = service.toList)
    (hdrop : id.toList.dropWhile (· ≠ '/') = '/' :: number.toList) :
    importTarget? id = some t ↔ service ≠ "" ∧ t.service = service ∧ 0 < t.version ∧
      Endpoint.Kind.Spelled number t.version.toNat := by
  have hempty : service.toList = [] ↔ service = "" := String.toList_eq_nil_iff
  unfold importTarget?
  simp only [htake, hdrop, String.ofList_toList, ne_eq, hempty]
  constructor
  · intro h
    split at h
    · next n hread =>
      obtain ⟨⟨hservice, hpositive⟩, heq⟩ := Option.ite_none_right_eq_some.1 h
      obtain ⟨hspelled, hbound⟩ := Endpoint.Kind.spelledBelow?_eq_some_iff.1 hread
      have hnumber : (UInt32.ofNat n).toNat = n := UInt32.toNat_ofNat_of_lt hbound
      rw [← hnumber] at hpositive hspelled
      obtain rfl := Option.some.inj heq
      exact ⟨hservice, rfl, UInt32.lt_iff_toNat_lt.2 hpositive, hspelled⟩
    · cases h
  · rintro ⟨hservice, rfl, hpositive, hspelled⟩
    have hread : Endpoint.Kind.spelledBelow? 4294967296 number = some t.version.toNat :=
      Endpoint.Kind.spelledBelow?_eq_some_iff.2 ⟨hspelled, t.version.toNat_lt⟩
    rw [hread]
    simp only
    rw [if_pos ⟨hservice, UInt32.lt_iff_toNat_lt.1 hpositive⟩, UInt32.ofNat_toNat]

/-- Where there is no slash, no service version is named. -/
theorem importTarget?_of_no_slash (h : id.toList.dropWhile (· ≠ '/') = []) :
    importTarget? id = none := by
  unfold importTarget?
  simp only [h]

/-- **What is read of an identity** is the service version that it names. -/
theorem importTarget?_eq_some_iff : importTarget? id = some t ↔ Designates id t := by
  constructor
  · intro h
    cases hdrop : id.toList.dropWhile (· ≠ '/') with
    | nil =>
      rw [importTarget?_of_no_slash hdrop] at h
      cases h
    | cons c rest =>
      obtain rfl : c = '/' := by
        have hhead := List.head?_dropWhile_not (· ≠ '/') id.toList
        rw [hdrop] at hhead
        simpa using hhead
      have htake := (String.toList_ofList (l := id.toList.takeWhile (· ≠ '/'))).symm
      rw [← String.toList_ofList (l := rest)] at hdrop
      obtain ⟨hservice, hname, hpositive, hspelled⟩ := (importTarget?_of_split htake hdrop).1 h
      obtain ⟨hid, hslash⟩ := splits_at_slash_iff.1 ⟨htake, hdrop⟩
      rw [← hname] at hservice hid hslash
      exact ⟨hservice, hslash, hpositive, _, hid, hspelled⟩
  · rintro ⟨hservice, hslash, hpositive, number, hid, hspelled⟩
    obtain ⟨htake, hdrop⟩ := splits_at_slash_iff.2 ⟨hid, hslash⟩
    exact (importTarget?_of_split htake hdrop).2 ⟨hservice, rfl, hpositive, hspelled⟩

/-- **An identity is read as the service version that it names.** -/
theorem parseImportId_eq_ok_iff : parseImportId id = .ok t ↔ Designates id t := by
  rw [← importTarget?_eq_some_iff]
  unfold parseImportId
  cases importTarget? id <;> simp

/-- An identity that names no service version is refused. -/
theorem parseImportId_of_none (h : ∀ t, ¬Designates id t) :
    parseImportId id = .error (.validation
      ("import id must look like <service_id>/<version>, got " ++ Text.quoted id)) := by
  have hnone : importTarget? id = none := by
    refine Option.eq_none_iff_forall_ne_some.2 fun t ht => h t ?_
    exact importTarget?_eq_some_iff.1 ht
  unfold parseImportId
  rw [hnone]

/-- **A service and the digits of a version**, joined by a slash. -/
theorem designates_join (hservice : t.service ≠ "") (hslash : '/' ∉ t.service.toList)
    (hversion : 0 < t.version) :
    Designates (t.service ++ "/" ++ toString t.version.toNat) t :=
  ⟨hservice, hslash, hversion, _, rfl, Endpoint.Kind.spelled_toString _⟩

end Provider

end LoggingProvider
