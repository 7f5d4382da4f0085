import DnsConsole.Proofs.Discovery.Advertised
import DnsConsole.Proofs.Login.Form

/-!
# Proposals and the login form

The server that a discovery proposes comes from the page or from the settings, and the login form takes
it as it stands from both (`proposal_accepted`).  An origin holds no blank at all: its host is a name in
ASCII or an address, or the whole origin is `null`.  An override is trimmed and is not taken if nothing
is left of it.
-/

namespace DnsConsole

namespace Url

theorem not_isBlank_of_mem_name {scheme : Scheme} (h : scheme.hasOrigin = true) {c : Char}
    (hc : c ∈ scheme.name) : Text.isBlank c = false := by
  have hall : (scheme.name.all fun c => !Text.isBlank c) = true := by
    cases scheme with
    | http | https | ws | wss | ftp => decide
    | file => cases h
    | other name => cases h
  simpa using List.all_eq_true.mp hall c hc

theorem not_isBlank_of_isOriginChar {c : Char} (h : isOriginChar c = true) : Text.isBlank c = false :=
  Text.of_forall_ascii (p := fun c => isOriginChar c = true → Text.isBlank c = false) (by decide)
    (toNat_lt_of_isOriginChar h) h

/-- An origin holds no blank. -/
theorem not_isBlank_of_mem_originText {scheme : Scheme} (hscheme : scheme.hasOrigin = true) {host : Host}
    (h : host.Settled) {port : UInt16} {c : Char} (hc : c ∈ originText scheme host port) :
    Text.isBlank c = false := by
  rw [originText_eq hscheme] at hc
  rcases List.mem_append.mp hc with hc | hc
  · exact not_isBlank_of_mem_name hscheme hc
  simp only [List.mem_cons, List.mem_append] at hc
  rcases hc with rfl | rfl | rfl | hc | hc
  · rfl
  · rfl
  · rfl
  · exact not_isBlank_of_isOriginChar (isOriginChar_of_mem_text h hc)
  · exact not_isBlank_of_isOriginChar (isOriginChar_of_mem_portText hc)

end Url

namespace Discovery

open Login (Acceptable)

/-! ### From the page -/

theorem acceptable_null : Acceptable "null" where
  nonempty := by decide
  trimmed := Text.trimChars_eq_self_iff.mp (by decide)

theorem acceptable_standard : Acceptable Settings.standard.defaultServer where
  nonempty := by decide
  trimmed := Text.trimChars_eq_self_iff.mp (by decide +kernel)

theorem acceptable_of_originWithPort {page o : String} {port : UInt16}
    (h : Url.originWithPort page port = .ok o) : Acceptable o := by
  obtain ⟨scheme, host, stated, hpage, -, rfl⟩ := Url.parse_of_originWithPort h
  cases hscheme : scheme.hasOrigin with
  | false =>
    have hnull : String.ofList (Url.originText scheme host port) = "null" :=
      Decidable.byContradiction fun hne =>
        Bool.false_ne_true (hscheme.symm.trans (Url.hasOrigin_of_ne_null hne))
    rw [hnull]
    exact acceptable_null
  | true =>
    have hhost := Url.settled_of_parse hpage (Url.isSpecial_of_hasOrigin hscheme)
    constructor
    · rw [Url.originText_eq hscheme, Ne, String.ofList_eq_empty_iff]
      exact List.append_ne_nil_of_right_ne_nil _ (List.cons_ne_nil _ _)
    · rw [String.toList_ofList]
      exact Text.trimmed_of_not_blank fun c hc => Url.not_isBlank_of_mem_originText hscheme hhost hc

/-! ### From the settings -/

theorem acceptable_of_nonBlank? {override : Option String} {s : String}
    (h : nonBlank? override = some s) : Acceptable s := by
  obtain ⟨hs, hne⟩ := Option.filter_eq_some_iff.mp h
  obtain ⟨given, -, rfl⟩ := Option.map_eq_some_iff.mp hs
  constructor
  · simpa using hne
  · rw [Text.toList_trim]
    exact Text.trimmed_trimChars _

theorem acceptable_defaultServer (discoveryUrl defaultServer : Option String) :
    Acceptable (Settings.ofOverrides discoveryUrl defaultServer).defaultServer := by
  unfold Settings.ofOverrides
  cases h : nonBlank? defaultServer with
  | none => exact acceptable_standard
  | some s => exact acceptable_of_nonBlank? h

/-! ### What is proposed -/

theorem acceptable_proposal {settings : Settings} (h : Acceptable settings.defaultServer)
    (page : String) (outcome : Api.Outcome) :
    Acceptable (proposal settings (lookupResult page outcome)).value := by
  cases hresult : lookupResult page outcome with
  | error e => exact h
  | ok origin =>
    obtain ⟨response, port, -, -, -, horigin⟩ := lookupResult_eq_ok_iff.mp hresult
    exact acceptable_of_originWithPort horigin

/-- **A discovery proposes a server that the login form takes as it stands**, whatever was overridden,
whatever page is open and whatever came of the request: it is not empty and has no blank at either end.
So it lands in a blank server field, and the form holds exactly it as soon as a username and a password
are there. -/
theorem proposal_accepted {τ : Type} [Api.Transport τ] (t : τ) (discoveryUrl defaultServer : Option String)
    (page : String) {server : String}
    (h : ((discover (Settings.ofOverrides discoveryUrl defaultServer) page).run t).value.1 = server) :
    server ≠ "" ∧ Text.Trimmed server.toList ∧
    (∀ current : String, (∀ c ∈ current.toList, Text.isBlank c = true) →
      Login.prefill? current server = some server) ∧
    ∀ username password : String, (∃ c ∈ username.toList, Text.isBlank c = false) → password ≠ "" →
      Login.validate server username password = .ok ⟨server, Text.trim username, password⟩ := by
  have haccepted : Acceptable server := by
    rw [← h, value_discover]
    exact acceptable_proposal (acceptable_defaultServer discoveryUrl defaultServer) page _
  refine ⟨haccepted.nonempty, haccepted.trimmed, fun current hblank => ?_, fun username password => ?_⟩
  · exact Login.prefill?_of_blank hblank server
  · exact Login.validate_of_acceptable haccepted

/-- A page at an address, and an override that is taken when there is no answer. -/
theorem proposal_accepted_from_both :
    (Login.prefill? " \u3000" "https://[1::2]:9443" = some "https://[1::2]:9443" ∧
      Login.validate "https://[1::2]:9443" "admin\t" " " =
        .ok ⟨"https://[1::2]:9443", Text.trim "admin\t", " "⟩) ∧
    Login.validate "http://dns.test/ x" "admin\t" " " =
      .ok ⟨"http://dns.test/ x", Text.trim "admin\t", " "⟩ := by
  have hlooked : ((discover (Settings.ofOverrides none none) "https://user@[1::0:2]:8000/").run
      (⟨[.ok ⟨200, "\x7b\"port\":9443\x7d"⟩]⟩ : Api.Script)).value.1 = "https://[1::2]:9443" := by
    decide +kernel
  have hdefault : ((discover (Settings.ofOverrides none (some "\u00a0http://dns.test/ x\u2003"))
      "https://user@[1::0:2]:8000/").run (⟨[]⟩ : Api.Script)).value.1 = "http://dns.test/ x" := by
    decide +kernel
  have hcurrent : ∀ c ∈ " \u3000".toList, Text.isBlank c = true :=
    List.all_eq_true.mp (by decide)
  have husername : ∃ c ∈ "admin\t".toList, Text.isBlank c = false := ⟨'a', by decide, rfl⟩
  obtain ⟨-, -, hprefill, hvalidate⟩ := proposal_accepted _ none none _ hlooked
  obtain ⟨-, -, -, hvalidate'⟩ := proposal_accepted _ none _ _ hdefault
  exact ⟨⟨hprefill _ hcurrent, hvalidate _ _ husername (by decide)⟩,
    hvalidate' _ _ husername (by decide)⟩

end Discovery

end DnsConsole
