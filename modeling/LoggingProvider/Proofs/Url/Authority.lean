import LoggingProvider.Proofs.Url.Segments
import Mathlib.Data.List.TakeWhile

/-!
# The host and the port of an address of the web

After the scheme of an address of the web come slashes, as many as there are, and then the host and
the port up to the next slash, question mark or number sign. They alone decide whether the text is
an address: the user before them, the path and the rest may be anything. So a text is an address of
the web exactly when a host stands there that can be read, and after it nothing or a colon with the
digits of a port, of which there may be none.

## Main definitions

* `Url.OfWeb`: a text that starts with a scheme of the web
* `Url.hostAndPort`: what stands where the host and the port of an address of the web are
* `Url.HostPort`: a text is a host with or without a port
* `Url.Hosted`: an address of the web has a host

## Main results

* `Url.exists_readPort_iff`: which texts are ports
* `Url.exists_parse_iff`: when a text that starts like an address of the web is one
* `Url.canBeBase_of_web`: an address of the web can be a base for others
-/

namespace LoggingProvider

namespace Url

/-- **A text that starts with a scheme of the web.** -/
def OfWeb (s : String) : Prop :=
  ∃ scheme ∈ ["http", "https"], ∃ rest, s.toList = scheme.toList ++ ':' :: rest

/-- What follows the scheme of an address of the web and the slashes after it. -/
def afterSlashes (s : String) : List Char :=
  ((significant s).dropWhile (· ≠ ':')).tail.dropWhile (isSlash true)

/-- **What stands where the host and the port of an address of the web are.** -/
def hostAndPort (s : String) : List Char :=
  (splitUser ((afterSlashes s).takeWhile fun c => !endsAuthority true c)).2

/-- A text is a port: digits of a number that is not too large. -/
def IsPort (digits : List Char) : Prop :=
  (∀ c ∈ digits, c.isDigit) ∧ Nat.ofDigitChars 10 digits 0 ≤ 65535

/-- **A text is a host with or without a port.** -/
def HostPort (cs : List Char) : Prop :=
  ∃ host tail, splitHost false cs = (host, tail) ∧ host ≠ [] ∧
    (∃ h, Host.ofText true host = .ok h) ∧
    (tail = [] ∨ ∃ digits, tail = ':' :: digits ∧ IsPort digits)

/-- **An address of the web has a host**, and a port or none. -/
def Hosted (s : String) : Prop :=
  HostPort (hostAndPort s)

/-! ## Ports -/

theorem isDigit_eq_false_of_endsAuthority {c : Char} (h : endsAuthority true c) :
    c.isDigit = false := by
  simp only [endsAuthority, isSlash, Bool.or_eq_true, Bool.and_eq_true, decide_eq_true_iff,
    true_and] at h
  rcases h with ((rfl | rfl) | rfl) | rfl <;> rfl

/-- **Which texts are ports**, where what follows does not belong to the host and the port. -/
theorem exists_readPort_iff (scheme : String) {digits after : List Char}
    (hdigits : ∀ c ∈ digits, endsAuthority true c = false)
    (hafter : ∀ c, after.head? = some c → endsAuthority true c) :
    (∃ r, readPort scheme (digits ++ after) = .ok r) ↔ IsPort digits := by
  by_cases hall : ∀ c ∈ digits, c.isDigit
  · have htake : after.takeWhile Char.isDigit = [] := by
      cases after with
      | nil => rfl
      | cons c rest =>
        have hc := isDigit_eq_false_of_endsAuthority (hafter c rfl)
        simp [hc]
    have hdrop : after.dropWhile Char.isDigit = after := by
      simpa [htake] using List.takeWhile_append_dropWhile (p := Char.isDigit) (l := after)
    have hrest : (after.head?.any fun c => !endsAuthority true c) = false := by
      cases hhead : after.head? with
      | none => rfl
      | some c => simp [hafter c hhead]
    unfold readPort
    rw [List.takeWhile_append_of_pos hall, List.dropWhile_append_of_pos hall, htake, hdrop]
    simp only [List.append_nil, hrest, Bool.false_eq_true, if_false]
    change (∃ r, (if 65535 < Nat.ofDigitChars 10 digits 0 then _ else _) = _) ↔ _
    by_cases hn : 65535 < Nat.ofDigitChars 10 digits 0
    · rw [if_pos hn]
      refine iff_of_false ?_ fun hport => absurd hport.2 (by omega)
      rintro ⟨r, hr⟩
      cases hr
    · rw [if_neg hn]
      refine iff_of_true ?_ ⟨hall, by omega⟩
      split <;> exact ⟨_, rfl⟩
  · refine iff_of_false ?_ fun hport => hall hport.1
    obtain ⟨c, rest, hc⟩ : ∃ c rest, digits.dropWhile Char.isDigit = c :: rest := by
      cases hd : digits.dropWhile Char.isDigit with
      | nil => exact absurd (List.dropWhile_eq_nil_iff.1 hd) hall
      | cons c rest => exact ⟨c, rest, rfl⟩
    have hmem : c ∈ digits := (List.dropWhile_sublist _).mem (hc ▸ List.mem_cons_self)
    rintro ⟨r, hr⟩
    unfold readPort at hr
    rw [List.dropWhile_append, hc] at hr
    simp [hdigits c hmem] at hr

/-! ## Hosts -/

/-- What follows a host is nothing, or starts with a colon. -/
theorem splitHost_snd (inside : Bool) (cs : List Char) :
    (splitHost inside cs).2 = [] ∨ ∃ rest, (splitHost inside cs).2 = ':' :: rest := by
  induction cs generalizing inside with
  | nil => exact .inl rfl
  | cons c rest ih =>
    unfold splitHost
    split
    · next hc =>
      simp only [Bool.and_eq_true, decide_eq_true_iff] at hc
      exact .inr ⟨rest, by rw [hc.1]⟩
    · exact ih _

theorem mem_of_mem_splitHost_snd (inside : Bool) {cs : List Char} {c : Char}
    (h : c ∈ (splitHost inside cs).2) : c ∈ cs := by
  induction cs generalizing inside with
  | nil => exact h
  | cons d rest ih =>
    unfold splitHost at h
    split at h
    · exact h
    · exact List.mem_cons_of_mem _ (ih _ h)

theorem mem_of_mem_splitUser_snd {cs : List Char} {c : Char} (h : c ∈ (splitUser cs).2) :
    c ∈ cs := by
  unfold splitUser at h
  split at h
  · have hmem := (List.takeWhile_sublist _).mem (List.mem_reverse.1 h)
    exact List.mem_reverse.1 hmem
  · exact h

/-- Nothing in the host and the port ends them. -/
theorem endsAuthority_eq_false_of_mem {cs : List Char} {c : Char}
    (h : c ∈ (splitUser (cs.takeWhile fun c => !endsAuthority true c)).2) :
    endsAuthority true c = false := by
  simpa using List.mem_takeWhile_imp (mem_of_mem_splitUser_snd h)

/-- What follows the host and the port starts with what ends them. -/
theorem endsAuthority_of_head? (cs : List Char) (c : Char)
    (h : (cs.dropWhile fun c => !endsAuthority true c).head? = some c) : endsAuthority true c := by
  have hhead := List.head?_dropWhile_not (fun c => !endsAuthority true c) cs
  rw [h] at hhead
  simpa using hhead

/-- What is read of an address whose host is not empty. -/
theorem readAuthority_of_host {scheme : String} (hscheme : isSpecial scheme) {cs : List Char}
    {user : Option (List Char)} {hostPort host tail : List Char}
    (huser : splitUser (cs.takeWhile fun c => !endsAuthority true c) = (user, hostPort))
    (hsplit : splitHost false hostPort = (host, tail)) (hhost : host ≠ []) :
    readAuthority scheme cs = (do
      let h ← Host.ofText true host
      let (port, rest) ←
        match tail with
        | ':' :: digits => readPort scheme (digits ++ cs.dropWhile fun c => !endsAuthority true c)
        | tail => pure (none, tail ++ cs.dropWhile fun c => !endsAuthority true c)
      return withPath scheme (some h) port rest) := by
  have hempty : host.isEmpty = false := by simpa using hhost
  have hne : hostPort.isEmpty = false := by
    cases hostPort with
    | nil => exact absurd (congrArg Prod.fst hsplit).symm hhost
    | cons c rest => rfl
  have htail := splitHost_snd false hostPort
  rw [hsplit] at htail
  unfold readAuthority
  rcases htail with rfl | ⟨digits, rfl⟩ <;>
    simp [hscheme, huser, hsplit, hempty, hne, bind, Except.bind, pure, Except.pure]

/-- No address is read whose host is empty. -/
theorem readAuthority_of_no_host {scheme : String} (hscheme : isSpecial scheme) {cs : List Char}
    {user : Option (List Char)} {hostPort tail : List Char}
    (huser : splitUser (cs.takeWhile fun c => !endsAuthority true c) = (user, hostPort))
    (hsplit : splitHost false hostPort = ([], tail)) :
    readAuthority scheme cs = .error .emptyHost := by
  unfold readAuthority
  simp only [hscheme, huser, hsplit, List.isEmpty_nil, Bool.and_true, if_true, bind, Except.bind]
  split <;> rfl

/-- **When an address is read** after the slashes that announce its host. -/
theorem exists_readAuthority_iff {scheme : String} (hscheme : isSpecial scheme) (cs : List Char) :
    (∃ u, readAuthority scheme cs = .ok u) ↔
      HostPort (splitUser (cs.takeWhile fun c => !endsAuthority true c)).2 := by
  cases huser : splitUser (cs.takeWhile fun c => !endsAuthority true c) with
  | mk user hostPort =>
  cases hsplit : splitHost false hostPort with
  | mk host tail =>
  unfold HostPort
  simp only [hsplit, Prod.mk.injEq]
  by_cases hhost : host = []
  · subst hhost
    rw [readAuthority_of_no_host hscheme huser hsplit]
    simp
  · rw [readAuthority_of_host hscheme huser hsplit hhost]
    cases hh : Host.ofText true host with
    | error fault => simp [hh, bind, Except.bind]
    | ok h =>
      have htail := splitHost_snd false hostPort
      rw [hsplit] at htail
      rcases htail with rfl | ⟨digits, rfl⟩
      · exact iff_of_true ⟨_, rfl⟩ ⟨host, [], ⟨rfl, rfl⟩, hhost, ⟨h, hh⟩, .inl rfl⟩
      · have hdigits : ∀ c ∈ digits, endsAuthority true c = false := by
          intro c hc
          have hmem : c ∈ (splitUser (cs.takeWhile fun c => !endsAuthority true c)).2 := by
            rw [huser]
            apply mem_of_mem_splitHost_snd false
            rw [hsplit]
            exact List.mem_cons_of_mem _ hc
          exact endsAuthority_eq_false_of_mem hmem
        have hport := exists_readPort_iff scheme hdigits (endsAuthority_of_head? cs)
        simp only [bind, Except.bind, pure, Except.pure]
        constructor
        · rintro ⟨u, hu⟩
          cases hr : readPort scheme (digits ++ cs.dropWhile fun c => !endsAuthority true c) with
          | error fault =>
            rw [hr] at hu
            cases hu
          | ok r =>
            exact ⟨host, ':' :: digits, ⟨rfl, rfl⟩, hhost, ⟨h, hh⟩,
              .inr ⟨digits, rfl, hport.1 ⟨r, hr⟩⟩⟩
        · rintro ⟨-, -, ⟨rfl, rfl⟩, -, -, hnil | ⟨digits', hcons, hisPort⟩⟩
          · cases hnil
          · obtain rfl := (List.cons.inj hcons).2
            obtain ⟨r, hr⟩ := hport.2 hisPort
            rw [hr]
            exact ⟨_, rfl⟩

/-! ## Addresses -/

/-- Taking characters away from the end of a text does not reach one that stays. -/
theorem dropEnd_append {p : Char → Bool} {c : Char} (hc : p c = false) (front back : List Char) :
    ((front ++ c :: back).reverse.dropWhile p).reverse =
      front ++ c :: (back.reverse.dropWhile p).reverse := by
  rw [List.reverse_append, List.reverse_cons, List.append_assoc, List.dropWhile_append]
  split
  · next hnil => simp [List.isEmpty_iff.1 hnil, hc]
  · simp

/-- The characters of an address keep its scheme and its colon. -/
theorem significant_of_web {s : String} {scheme : String} (hscheme : scheme ∈ ["http", "https"])
    {rest : List Char} (hs : s.toList = scheme.toList ++ ':' :: rest) :
    ∃ rest', significant s = scheme.toList ++ ':' :: rest' := by
  simp only [List.mem_cons, List.not_mem_nil, or_false] at hscheme
  have hstart : (scheme.toList ++ ':' :: rest).dropWhile isPadding =
      scheme.toList ++ ':' :: rest := by
    rcases hscheme with rfl | rfl <;> rfl
  unfold significant
  rw [hs, hstart, dropEnd_append rfl]
  refine ⟨dropBreaks (rest.reverse.dropWhile isPadding).reverse, ?_⟩
  rcases hscheme with rfl | rfl <;> rfl

/-- An address of the web is read from what follows its scheme and the slashes after it. -/
theorem parse_of_web {s : String} (h : OfWeb s) :
    ∃ scheme, isSpecial scheme ∧ parse s = readAuthority scheme (afterSlashes s) := by
  obtain ⟨scheme, hscheme, rest, hs⟩ := h
  obtain ⟨rest', hrest⟩ := significant_of_web hscheme hs
  unfold parse afterSlashes
  rw [hrest]
  simp only [List.mem_cons, List.not_mem_nil, or_false] at hscheme
  rcases hscheme with rfl | rfl
  · exact ⟨"http", rfl, rfl⟩
  · exact ⟨"https", rfl, rfl⟩

/-- **When a text that starts like an address of the web is one**: when it has a host. -/
theorem exists_parse_iff {s : String} (h : OfWeb s) : (∃ u, parse s = .ok u) ↔ Hosted s := by
  obtain ⟨scheme, hscheme, hparse⟩ := parse_of_web h
  rw [hparse]
  exact exists_readAuthority_iff hscheme _

/-- An address of the web can be a base for others. -/
theorem canBeBase_of_web {s : String} (h : OfWeb s) {u : Url} (hu : parse s = .ok u) :
    u.canBeBase = true := by
  obtain ⟨scheme, -, hparse⟩ := parse_of_web h
  obtain ⟨special, cs, hpath⟩ := path_readAuthority (hparse ▸ hu)
  unfold canBeBase
  rw [hpath]

end Url

end LoggingProvider
