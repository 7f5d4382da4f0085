import DnsConsole.Api.Auth
import DnsConsole.Discovery.Lookup
import DnsConsole.Proofs.Url.Origin

/-!
# Servers that are looked up

A server that is looked up from a page is usable where the scheme of the page has origins: its text
names scheme, host and port (`Url.Denotes`), and the two calls of the authentication go to them.  Under
any other scheme the lookup succeeds with the text `null`, which names nothing
(`usable_iff_hasOrigin`).
-/

namespace DnsConsole

namespace Url

/-- A text that is a scheme and a host, and the port in digits unless it is the scheme's default. -/
def Denotes (o : String) (scheme : Scheme) (host : Host) (port : UInt16) : Prop :=
  (o.toList = scheme.name ++ "://".toList ++ host.text ∧ scheme.defaultPort? = some port) ∨
    ∃ digits, o.toList = scheme.name ++ "://".toList ++ host.text ++ ':' :: digits ∧
      Text.Decimal.read? digits = some port.toNat

theorem denotes_originText {scheme : Scheme} (h : scheme.hasOrigin = true) (host : Host)
    (port : UInt16) : Denotes (String.ofList (originText scheme host port)) scheme host port := by
  unfold Denotes originText
  rw [h, String.toList_ofList]
  by_cases hport : scheme.defaultPort? = some port
  · rw [if_pos hport]
    exact Or.inl ⟨rfl, hport⟩
  · rw [if_neg hport]
    exact Or.inr ⟨Text.Decimal.digits port.toNat, rfl, Text.Decimal.read?_digits _⟩

end Url

namespace Api

theorem dropSlashes_append (a : List Char) {b : List Char} (hne : b ≠ []) (h : '/' ∉ b) :
    dropSlashes (a ++ b) = a ++ b := by
  unfold dropSlashes
  rw [List.reverse_append]
  cases hb : b.reverse with
  | nil => exact absurd (List.reverse_eq_nil_iff.mp hb) hne
  | cons c r =>
    have hc : c ≠ '/' := by
      rintro rfl
      exact h (List.mem_reverse.mp (hb ▸ List.mem_cons_self))
    rw [List.cons_append, List.dropWhile_cons_of_neg (by simpa using hc), ← List.cons_append, ← hb,
      ← List.reverse_append, List.reverse_reverse]

/-- An origin ends in no slash. -/
theorem endpoint_originText {scheme : Url.Scheme} (hscheme : scheme.hasOrigin = true) {host : Url.Host}
    (h : host.Settled) (port : UInt16) (path : String) :
    endpoint (String.ofList (Url.originText scheme host port)) path =
      String.ofList (Url.originText scheme host port) ++ path := by
  have htext : Url.originText scheme host port = (scheme.name ++ [':', '/', '/']) ++
      (host.text ++ Url.portText (Url.statedPort scheme port)) := by
    rw [Url.originText_eq hscheme, List.append_assoc]
    rfl
  have hne : host.text ++ Url.portText (Url.statedPort scheme port) ≠ [] :=
    List.append_ne_nil_of_left_ne_nil (Url.Host.text_ne_nil h) _
  have hslash : '/' ∉ host.text ++ Url.portText (Url.statedPort scheme port) := by
    intro hmem
    rcases List.mem_append.mp hmem with hmem | hmem
    · cases Url.isOriginChar_of_mem_text h hmem
    · cases Url.isOriginChar_of_mem_portText hmem
  unfold endpoint
  rw [String.toList_ofList, htext, dropSlashes_append _ hne hslash]

end Api

namespace Discovery

open Url (Denotes)

/-- A server that calls can be sent to: its text names a scheme, a host and a port, and the URLs of
both calls of the authentication are read as these. -/
structure Usable (o : String) (scheme : Url.Scheme) (host : Url.Host) (port : UInt16) : Prop where
  hostNonempty : host.text ≠ []
  denotes : Denotes o scheme host port
  exchange : host.Stable → ∀ username password,
    Url.parse (Api.exchangeRequest o username password).url =
      .ok ⟨scheme, some host, Url.statedPort scheme port⟩
  liveness : host.Stable → ∀ token,
    Url.parse (Api.livenessRequest o token).url =
      .ok ⟨scheme, some host, Url.statedPort scheme port⟩

/-- An origin with a port is usable. -/
theorem usable_of_originWithPort {page o : String} {scheme : Url.Scheme} {host : Url.Host}
    {stated : Option UInt16} {port : UInt16} (hpage : Url.parse page = .ok ⟨scheme, some host, stated⟩)
    (hscheme : scheme.hasOrigin = true) (h : Url.originWithPort page port = .ok o) :
    Usable o scheme host port := by
  have hhost := Url.settled_of_parse hpage (Url.isSpecial_of_hasOrigin hscheme)
  obtain ⟨scheme', host', stated', hparse, -, rfl⟩ := Url.parse_of_originWithPort h
  cases hpage.symm.trans hparse
  have hcall : host.Stable → ∀ path : String, path.toList.head? = some '/' →
      (path.toList.all fun c => !Url.isOuter c) = true →
      Url.parse (Api.endpoint (String.ofList (Url.originText scheme host port)) path) =
        .ok ⟨scheme, some host, Url.statedPort scheme port⟩ := by
    intro hstable path hslash hpath
    rw [Api.endpoint_originText hscheme hhost]
    refine Url.parse_of_originWithPort_append hpage hscheme hstable h (fun c hc => ?_) fun c hc => ?_
    · simpa using List.all_eq_true.mp hpath c hc
    · exact Option.some.inj (hc.symm.trans hslash)
  exact {
    hostNonempty := Url.Host.text_ne_nil hhost
    denotes := Url.denotes_originText hscheme host port
    exchange := fun hstable _ _ => hcall hstable Api.tokenPath (by decide) (by decide)
    liveness := fun hstable _ => hcall hstable Api.runPath (by decide) (by decide) }

theorem lookupResult_eq_ok_iff {page o : String} {outcome : Api.Outcome} :
    lookupResult page outcome = .ok o ↔
      ∃ response port, outcome = .ok response ∧ response.isOk = true ∧
        Api.decodePort response.body = .ok port ∧ Url.originWithPort page port = .ok o := by
  constructor
  · intro h
    unfold lookupResult at h
    split at h
    · cases h
    next response =>
      split at h
      · cases h
      next hok =>
        split at h
        · cases h
        next port hport =>
          split at h
          · cases h
          next o' ho =>
            cases h
            exact ⟨response, port, rfl, by simpa using hok, hport, ho⟩
  · rintro ⟨response, port, rfl, hok, hport, ho⟩
    simp only [lookupResult, hok, hport, ho, Bool.not_true, Bool.false_eq_true, if_false]

theorem not_denotes_null {scheme : Url.Scheme} {host : Url.Host} {port : UInt16} :
    ¬ Denotes "null" scheme host port := by
  have hcolon : ':' ∉ "null".toList := by decide
  have hmem : ':' ∈ "://".toList := by decide
  rintro (⟨htext, -⟩ | ⟨digits, htext, -⟩)
  · rw [htext] at hcolon
    exact hcolon (List.mem_append_left _ (List.mem_append_right _ hmem))
  · rw [htext] at hcolon
    exact hcolon (List.mem_append_left _ (List.mem_append_left _ (List.mem_append_right _ hmem)))

/-- **What is derived from a page is usable exactly if the scheme of the page has origins**, and under
any other scheme it is `null`.  Every server that is looked up is derived so, with the port of the
answer. -/
theorem usable_iff_hasOrigin (page o : String) :
    (∀ port, Url.originWithPort page port = .ok o →
      ∃ scheme host stated, Url.parse page = .ok ⟨scheme, some host, stated⟩ ∧
        (Usable o scheme host port ↔ scheme.hasOrigin = true) ∧
        (scheme.hasOrigin = false → o = "null")) ∧
    ∀ outcome, lookupResult page outcome = .ok o →
      ∃ response port scheme host stated, outcome = .ok response ∧
        Api.decodePort response.body = .ok port ∧
        Url.parse page = .ok ⟨scheme, some host, stated⟩ ∧
        (Usable o scheme host port ↔ scheme.hasOrigin = true) := by
  have horigin : ∀ port, Url.originWithPort page port = .ok o →
      ∃ scheme host stated, Url.parse page = .ok ⟨scheme, some host, stated⟩ ∧
        (Usable o scheme host port ↔ scheme.hasOrigin = true) ∧
        (scheme.hasOrigin = false → o = "null") := by
    intro port h
    obtain ⟨scheme, host, stated, hpage, -, rfl⟩ := Url.parse_of_originWithPort h
    refine ⟨scheme, host, stated, hpage, ⟨fun husable => ?_, fun hscheme => ?_⟩, fun hnone => ?_⟩
    · have hne : String.ofList (Url.originText scheme host port) ≠ "null" :=
        fun hnull => not_denotes_null (hnull ▸ husable.denotes)
      exact Url.hasOrigin_of_ne_null hne
    · exact usable_of_originWithPort hpage hscheme h
    · exact Decidable.byContradiction fun hne =>
        Bool.false_ne_true (hnone.symm.trans (Url.hasOrigin_of_ne_null hne))
  refine ⟨horigin, fun outcome h => ?_⟩
  obtain ⟨response, port, houtcome, -, hport, ho⟩ := lookupResult_eq_ok_iff.mp h
  obtain ⟨scheme, host, stated, hpage, husable, -⟩ := horigin port ho
  exact ⟨response, port, scheme, host, stated, houtcome, hport, hpage, husable⟩

/-- A server looked up from a page at an address is usable. -/
theorem usable_at_address :
    lookupResult "https://user@[1::0:2]:8000/" (.ok ⟨200, "\x7b\"port\":9443\x7d"⟩) =
        .ok "https://[1::2]:9443" ∧
      Usable "https://[1::2]:9443" .https (.ipv6 ⟨[1, 0, 0, 0, 0, 0, 0, 2]⟩) 9443 := by
  have hpage : Url.parse "https://user@[1::0:2]:8000/" =
      .ok ⟨.https, some (.ipv6 ⟨[1, 0, 0, 0, 0, 0, 0, 2]⟩), some 8000⟩ := by decide +kernel
  have hport : Api.decodePort "\x7b\"port\":9443\x7d" = .ok 9443 := by decide +kernel
  have ho : Url.originWithPort "https://user@[1::0:2]:8000/" 9443 = .ok "https://[1::2]:9443" := by
    decide +kernel
  have h : lookupResult "https://user@[1::0:2]:8000/" (.ok ⟨200, "\x7b\"port\":9443\x7d"⟩) =
      .ok "https://[1::2]:9443" :=
    lookupResult_eq_ok_iff.mpr ⟨_, 9443, rfl, rfl, hport, ho⟩
  obtain ⟨response, port, scheme, host, stated, houtcome, hport', hpage', husable⟩ :=
    (usable_iff_hasOrigin "https://user@[1::0:2]:8000/" "https://[1::2]:9443").2 _ h
  cases houtcome
  cases hport.symm.trans hport'
  cases hpage.symm.trans hpage'
  exact ⟨h, husable.mpr rfl⟩

/-- Under a scheme without origins an origin with a port names nothing. -/
theorem not_usable_under_other_scheme :
    ¬ ∀ (page o : String) (port : UInt16), Url.originWithPort page port = .ok o →
      ∃ scheme host stated, Url.parse page = .ok ⟨scheme, some host, stated⟩ ∧ host.text ≠ [] ∧
        Denotes o scheme host port := by
  intro h
  have ho : Url.originWithPort "foo://h/" 8080 = .ok "null" := by decide +kernel
  obtain ⟨scheme, host, stated, -, -, hdenotes⟩ := h "foo://h/" "null" 8080 ho
  exact not_denotes_null hdenotes

end Discovery

end DnsConsole
