import DnsConsole.Proofs.Url.Host
import DnsConsole.Url.Basic
import Mathlib.Data.List.DropRight

/-!
# Origins are URLs

The text of an origin is read back as its scheme, host and port (`parseChars_originText`), with or
without a path behind it.  So an origin can be given another port like the page that it came from, and giving it
its own port changes nothing (`originWithPort_of_origin`).
-/

namespace DnsConsole.Url

open Domain (isHostChar)

/-! ### Characters of an origin -/

/-- The characters of an origin behind its scheme and slashes. -/
def isOriginChar (c : Char) : Bool :=
  isHostChar c || c == ':' || c == '[' || c == ']'

theorem isOriginChar_of_mem_text {host : Host} (h : host.Settled) {c : Char} (hc : c ∈ host.text) :
    isOriginChar c = true := by
  unfold isOriginChar
  rcases Host.mem_text h hc with hc | rfl | rfl | rfl
  · rw [hc]
    rfl
  · rfl
  · rfl
  · rfl

theorem isOriginChar_of_isDigit {c : Char} (h : Text.Decimal.isDigit c = true) :
    isOriginChar c = true := by
  unfold isOriginChar
  rw [Ipv4.isHostChar_of_isDigit h]
  rfl

theorem toNat_lt_of_isOriginChar {c : Char} (h : isOriginChar c = true) : c.toNat < 128 := by
  simp only [isOriginChar, Bool.or_eq_true, beq_iff_eq] at h
  rcases h with ((h | rfl) | rfl) | rfl
  · exact Domain.isAscii_iff.mp (Domain.isAscii_of_isHostChar h)
  · decide
  · decide
  · decide

theorem not_isOuter_of_isOriginChar {c : Char} (h : isOriginChar c = true) : isOuter c = false :=
  Text.of_forall_ascii (p := fun c => isOriginChar c = true → isOuter c = false) (by decide)
    (toNat_lt_of_isOriginChar h) h

theorem not_endsAuthority_of_isOriginChar (scheme : Scheme) {c : Char} (h : isOriginChar c = true) :
    endsAuthority scheme c = false := by
  have hc : c ≠ '/' ∧ c ≠ '\\' ∧ c ≠ '?' ∧ c ≠ '#' :=
    Text.of_forall_ascii
      (p := fun c => isOriginChar c = true → c ≠ '/' ∧ c ≠ '\\' ∧ c ≠ '?' ∧ c ≠ '#') (by decide)
      (toNat_lt_of_isOriginChar h) h
  simp [endsAuthority, isSlash, hc.1, hc.2.1, hc.2.2.1, hc.2.2.2]

theorem ne_at_of_isOriginChar {c : Char} (h : isOriginChar c = true) : c ≠ '@' := by
  rintro rfl
  cases h

/-! ### The parts of a URL -/

theorem not_isIgnored_of_not_isOuter {c : Char} (h : isOuter c = false) : isIgnored c = false := by
  refine Bool.eq_false_iff.mpr fun hignored => ?_
  simp only [isIgnored, Bool.or_eq_true, beq_iff_eq] at hignored
  rcases hignored with (rfl | rfl) | rfl
  · cases h
  · cases h
  · cases h

theorem filter_isIgnored {cs : List Char} (h : ∀ c ∈ cs, isOuter c = false) :
    cs.filter (fun c => !isIgnored c) = cs := by
  rw [List.filter_eq_self]
  intro c hc
  rw [not_isIgnored_of_not_isOuter (h c hc)]
  rfl

/-- What is dropped at the end of a text stays behind the last other character. -/
theorem dropWhile_reverse_append {front : List Char}
    (hlast : ∀ c ∈ front.getLast?, isOuter c = false) (rest : List Char) :
    ((front ++ rest).reverse.dropWhile isOuter).reverse = front ++ rest.rdropWhile isOuter := by
  have hfront : front.reverse.dropWhile isOuter = front.reverse :=
    Text.dropWhile_eq_self fun c hc => hlast c (List.head?_reverse ▸ hc)
  rw [List.reverse_append, List.dropWhile_append, hfront, List.rdropWhile]
  split
  next hempty =>
    rw [List.isEmpty_iff.mp hempty, List.reverse_reverse, List.reverse_nil, List.append_nil]
  next => rw [List.reverse_append, List.reverse_reverse]

/-- What stands in front, without a control or space at its ends, loses no more than tabs and line
breaks, and what is behind it keeps its first character. -/
theorem significant_append {front : List Char} (hne : front ≠ [])
    (hhead : ∀ c ∈ front.head?, isOuter c = false)
    (hlast : ∀ c ∈ front.getLast?, isOuter c = false) (rest : List Char) :
    ∃ behind, significant (front ++ rest) = front.filter (fun c => !isIgnored c) ++ behind ∧
      ((∀ c ∈ rest.head?, isOuter c = false) → ∀ c ∈ behind.head?, c ∈ rest.head?) := by
  have hstart : ∀ c ∈ (front ++ rest).head?, isOuter c = false := by
    intro c hc
    rw [List.head?_append_of_ne_nil front hne] at hc
    exact hhead c hc
  refine ⟨(rest.rdropWhile isOuter).filter fun c => !isIgnored c, ?_, fun hrest c hc => ?_⟩
  · unfold significant
    rw [Text.dropWhile_eq_self hstart, dropWhile_reverse_append hlast, List.filter_append]
  · obtain ⟨dropped, hdropped⟩ := List.rdropWhile_prefix isOuter rest
    cases hkept : rest.rdropWhile isOuter with
    | nil =>
      rw [hkept] at hc
      cases hc
    | cons d kept =>
      rw [hkept] at hdropped hc
      have hd : d ∈ rest.head? := hdropped ▸ rfl
      rw [List.filter_cons_of_pos (by rw [not_isIgnored_of_not_isOuter (hrest d hd)]; rfl)] at hc
      cases hc
      exact hd

/-- What stands in front and is no control and no space stays in front. -/
theorem exists_of_significant_append {front : List Char} (hne : front ≠ [])
    (h : ∀ c ∈ front, isOuter c = false) (rest : List Char) :
    ∃ behind, significant (front ++ rest) = front ++ behind := by
  obtain ⟨behind, heq, -⟩ := significant_append hne (fun c hc => h c (List.mem_of_mem_head? hc))
    (fun c hc => h c (List.mem_of_mem_getLast? hc)) rest
  exact ⟨behind, by rw [heq, filter_isIgnored h]⟩

theorem significant_eq {cs : List Char} (h : ∀ c ∈ cs, isOuter c = false) : significant cs = cs := by
  unfold significant
  rw [Text.dropWhile_eq_self fun c hc => h c (List.mem_of_mem_head? hc),
    Text.dropWhile_eq_self fun c hc => h c (List.mem_reverse.mp (List.mem_of_mem_head? hc)),
    List.reverse_reverse, filter_isIgnored h]

theorem splitUserinfo_of_not_mem {cs : List Char} (h : '@' ∉ cs) : splitUserinfo cs = (none, cs) := by
  have hne : ∀ c ∈ cs.reverse, decide (c ≠ '@') = true := fun c hc =>
    decide_eq_true fun hat => h (hat ▸ List.mem_reverse.mp hc)
  unfold splitUserinfo
  rw [Text.span_of_all hne]

/-- A host goes on over characters that end it nowhere. -/
theorem splitHost_append {inside : Bool} {cs : List Char} (hbrackets : ∀ c ∈ cs, c ≠ '[' ∧ c ≠ ']')
    (hcolon : inside = false → ':' ∉ cs) (r : List Char) :
    splitHost inside (cs ++ r) = (cs ++ (splitHost inside r).1, (splitHost inside r).2) := by
  induction cs with
  | nil => rfl
  | cons c cs ih =>
    obtain ⟨hopen, hclose⟩ := hbrackets c List.mem_cons_self
    have hends : ¬ (c = ':' ∧ !inside) := by
      rintro ⟨rfl, hinside⟩
      exact hcolon (Bool.not_eq_true' _ ▸ hinside) List.mem_cons_self
    rw [List.cons_append, splitHost, if_neg hends, if_neg hopen, if_neg hclose,
      ih (fun d hd => hbrackets d (List.mem_cons_of_mem c hd))
        fun hin hmem => hcolon hin (List.mem_cons_of_mem c hmem)]
    rfl

/-- A host is read up to the colon of its port. -/
theorem splitHost_text {host : Host} (h : host.Settled) {r : List Char}
    (hr : splitHost false r = ([], r)) : splitHost false (host.text ++ r) = (host.text, r) := by
  have hplain : ∀ {cs : List Char}, (∀ c ∈ cs, isHostChar c = true) →
      splitHost false (cs ++ r) = (cs, r) := by
    intro cs hcs
    rw [splitHost_append (fun c hc => ⟨?_, ?_⟩) (fun _ => Host.not_mem_of_isHostChar hcs rfl), hr,
      List.append_nil]
    · rintro rfl
      exact Host.not_mem_of_isHostChar hcs (c := '[') rfl hc
    · rintro rfl
      exact Host.not_mem_of_isHostChar hcs (c := ']') rfl hc
  cases h with
  | domain _ hascii _ =>
    obtain ⟨cs, hcs⟩ := hascii
    exact hplain fun c hc => Domain.isHostChar_of_toAscii? hcs hc
  | ipv4 a => exact hplain fun c hc => Host.isHostChar_of_mem_ipv4 hc
  | @ipv6 a _ =>
    have hbrackets : ∀ c ∈ a.text, c ≠ '[' ∧ c ≠ ']' := by
      intro c hc
      rcases Ipv6.mem_text hc with rfl | hc
      · decide
      · constructor
        · rintro rfl
          cases hc
        · rintro rfl
          cases hc
    have hclose : splitHost true (']' :: r) = ([']'], r) := by
      rw [splitHost, if_neg (by decide), if_neg (by decide), if_pos rfl, hr]
    change splitHost false ('[' :: (a.text ++ [']'] ++ r)) = _
    rw [splitHost, if_neg (by decide), if_pos rfl, List.append_assoc,
      splitHost_append hbrackets (fun h => by cases h), List.singleton_append, hclose]
    rfl

/-! ### Ports -/

/-- A port as it is written behind a host. -/
def portText : Option UInt16 → List Char
  | none => []
  | some port => ':' :: Text.Decimal.digits port.toNat

theorem parsePort_of_isDigit {cs : List Char} (hall : ∀ c ∈ cs, Text.Decimal.isDigit c = true)
    (hle : Text.Decimal.number 0 cs ≤ 65535) :
    parsePort cs =
      .ok (if cs.isEmpty then none else some (UInt16.ofNat (Text.Decimal.number 0 cs))) := by
  unfold parsePort
  rw [Text.span_of_all hall]
  dsimp only
  rw [if_neg]
  rintro (h | h)
  · omega
  · cases h

theorem parsePort_digits (port : UInt16) :
    parsePort (Text.Decimal.digits port.toNat) = .ok (some port) := by
  have hne : (Text.Decimal.digits port.toNat).isEmpty = false :=
    List.isEmpty_eq_false_iff.mpr (Text.Decimal.digits_ne_nil _)
  have hle : Text.Decimal.number 0 (Text.Decimal.digits port.toNat) ≤ 65535 := by
    rw [Text.Decimal.number_digits]
    exact Nat.le_of_lt_succ port.toNat_lt
  rw [parsePort_of_isDigit (fun c hc => Text.Decimal.isDigit_of_mem_digits hc) hle, hne,
    if_neg Bool.false_ne_true, Text.Decimal.number_digits, UInt16.ofNat_toNat]

theorem parseRest_portText (scheme : Scheme) (host : Option Host) (stated : Option UInt16) :
    parseRest scheme host (portText stated) = .ok ⟨scheme, host, stated⟩ := by
  cases stated with
  | none => rfl
  | some port =>
    change (parsePort (Text.Decimal.digits port.toNat)).map _ = _
    rw [parsePort_digits]
    rfl

theorem splitHost_portText (stated : Option UInt16) :
    splitHost false (portText stated) = ([], portText stated) := by
  cases stated with
  | none => rfl
  | some port => rw [portText, splitHost, if_pos ⟨rfl, rfl⟩]

theorem isOriginChar_of_mem_portText {stated : Option UInt16} {c : Char} (hc : c ∈ portText stated) :
    isOriginChar c = true := by
  cases stated with
  | none => cases hc
  | some port =>
    rcases List.mem_cons.mp hc with rfl | hc
    · rfl
    · exact isOriginChar_of_isDigit (Text.Decimal.isDigit_of_mem_digits hc)

/-! ### Authorities and schemes -/

theorem span_authority {scheme : Scheme} {cs behind : List Char}
    (hcs : ∀ c ∈ cs, endsAuthority scheme c = false)
    (hbehind : ∀ c ∈ behind.head?, endsAuthority scheme c = true) :
    (cs ++ behind).span (fun c => !endsAuthority scheme c) = (cs, behind) := by
  refine Text.span_append (fun c hc => ?_) fun c hc => ?_
  · rw [hcs c hc]
    rfl
  · rw [hbehind c hc]
    rfl

theorem parseAuthority_origin {scheme : Scheme} (hspecial : scheme.isSpecial = true) {host : Host}
    (h : host.Settled) (hstable : host.Stable) (stated : Option UInt16) {behind : List Char}
    (hbehind : ∀ c ∈ behind.head?, endsAuthority scheme c = true) :
    parseAuthority scheme (host.text ++ portText stated ++ behind) =
      .ok ⟨scheme, some host, stated⟩ := by
  have hchars : ∀ c ∈ host.text ++ portText stated, isOriginChar c = true := by
    intro c hc
    rcases List.mem_append.mp hc with hc | hc
    · exact isOriginChar_of_mem_text h hc
    · exact isOriginChar_of_mem_portText hc
  have hgoes : ∀ c ∈ host.text ++ portText stated, endsAuthority scheme c = false :=
    fun c hc => not_endsAuthority_of_isOriginChar scheme (hchars c hc)
  have hat : '@' ∉ host.text ++ portText stated :=
    fun hmem => ne_at_of_isOriginChar (hchars _ hmem) rfl
  unfold parseAuthority
  rw [span_authority hgoes hbehind]
  dsimp only
  rw [splitUserinfo_of_not_mem hat]
  dsimp only
  rw [splitHost_text h (splitHost_portText stated)]
  dsimp only
  rw [if_neg (by rw [List.isEmpty_iff]; exact Host.text_ne_nil h), if_pos hspecial,
    Host.parseSpecial_text h hstable]
  exact parseRest_portText scheme (some host) stated

theorem isSpecial_of_hasOrigin {scheme : Scheme} (h : scheme.hasOrigin = true) :
    scheme.isSpecial = true := by
  cases scheme <;> first | rfl | cases h

theorem mem_name {scheme : Scheme} (h : scheme.hasOrigin = true) {c : Char} (hc : c ∈ scheme.name) :
    isSchemeChar c = true ∧ isOuter c = false := by
  have hall : (scheme.name.all fun c => isSchemeChar c && !isOuter c) = true := by
    cases scheme with
    | http | https | ws | wss | ftp => decide
    | file => cases h
    | other name => cases h
  simpa using List.all_eq_true.mp hall c hc

/-- The name of a scheme names it. -/
theorem name_spec {scheme : Scheme} (h : scheme.hasOrigin = true) :
    ∃ c name, scheme.name = c :: name ∧ isLetter c = true ∧
      Scheme.ofName ((c :: name).map Domain.lower) = scheme := by
  cases scheme with
  | http => exact ⟨'h', ['t', 't', 'p'], by decide, by decide, by decide⟩
  | https => exact ⟨'h', ['t', 't', 'p', 's'], by decide, by decide, by decide⟩
  | ws => exact ⟨'w', ['s'], by decide, by decide, by decide⟩
  | wss => exact ⟨'w', ['s', 's'], by decide, by decide, by decide⟩
  | ftp => exact ⟨'f', ['t', 'p'], by decide, by decide, by decide⟩
  | file => cases h
  | other name => cases h

theorem splitScheme?_name {scheme : Scheme} (h : scheme.hasOrigin = true) (r : List Char) :
    splitScheme? (scheme.name ++ ':' :: r) = some (scheme, r) := by
  obtain ⟨c, name, hname, hletter, hscheme⟩ := name_spec h
  have hchars : ∀ d ∈ c :: name, isSchemeChar d = true := fun d hd => (mem_name h (hname ▸ hd)).1
  unfold splitScheme?
  rw [hname, Text.span_append hchars fun d hd => by cases hd; rfl]
  change (if isLetter c = true then some (Scheme.ofName ((c :: name).map Domain.lower), r)
    else none) = _
  rw [if_pos hletter, hscheme]

theorem parseBehind_slashes {scheme : Scheme} (h : scheme.hasOrigin = true) {r : List Char}
    (hr : ∀ c ∈ r.head?, endsAuthority scheme c = false) :
    parseBehind scheme ('/' :: '/' :: r) = parseAuthority scheme r := by
  have hslash : isSlash scheme '/' = true := rfl
  have hrest : r.dropWhile (isSlash scheme) = r := by
    refine Text.dropWhile_eq_self fun c hc => Bool.eq_false_iff.mpr fun hslash => ?_
    have hends := hr c hc
    simp only [endsAuthority, hslash, Bool.true_or] at hends
    cases hends
  have hdrop : ('/' :: '/' :: r).dropWhile (isSlash scheme) = r := by
    rw [List.dropWhile_cons_of_pos hslash, List.dropWhile_cons_of_pos hslash, hrest]
  cases scheme with
  | http | https | ws | wss | ftp => exact congrArg (parseAuthority _) hdrop
  | file => cases h
  | other name => cases h

/-! ### The text of an origin -/

/-- The port that an origin states: none that is the default. -/
def statedPort (scheme : Scheme) (port : UInt16) : Option UInt16 :=
  if scheme.defaultPort? = some port then none else some port

theorem originText_eq {scheme : Scheme} (h : scheme.hasOrigin = true) (host : Host) (port : UInt16) :
    originText scheme host port =
      scheme.name ++ ':' :: '/' :: '/' :: (host.text ++ portText (statedPort scheme port)) := by
  have hslashes : "://".toList = [':', '/', '/'] := by decide
  unfold originText statedPort
  rw [h, hslashes]
  split
  · cases ‹(!true) = true›
  split
  · rw [portText, List.append_nil, List.append_assoc]
    rfl
  · rw [portText, List.append_assoc, List.append_assoc]
    rfl

/-- **The text of an origin stands for its scheme, host and port**, with a path behind it or without. -/
theorem parseChars_originText {scheme : Scheme} (hscheme : scheme.hasOrigin = true) {host : Host}
    (h : host.Settled) (hstable : host.Stable) (port : UInt16) {path : List Char}
    (hpath : ∀ c ∈ path, isOuter c = false) (hslash : ∀ c ∈ path.head?, c = '/') :
    parseChars (originText scheme host port ++ path) =
      .ok ⟨scheme, some host, statedPort scheme port⟩ := by
  have htext : originText scheme host port ++ path = scheme.name ++ ':' :: '/' :: '/' ::
      (host.text ++ portText (statedPort scheme port) ++ path) := by
    rw [originText_eq hscheme, List.append_assoc]
    rfl
  have houter : ∀ c ∈ originText scheme host port ++ path, isOuter c = false := by
    intro c hc
    rw [htext] at hc
    rcases List.mem_append.mp hc with hc | hc
    · exact (mem_name hscheme hc).2
    simp only [List.mem_cons, List.mem_append] at hc
    rcases hc with rfl | rfl | rfl | (hc | hc) | hc
    · rfl
    · rfl
    · rfl
    · exact not_isOuter_of_isOriginChar (isOriginChar_of_mem_text h hc)
    · exact not_isOuter_of_isOriginChar (isOriginChar_of_mem_portText hc)
    · exact hpath c hc
  have hhead : ∀ c ∈ (host.text ++ portText (statedPort scheme port) ++ path).head?,
      endsAuthority scheme c = false := by
    intro c hc
    cases ht : host.text with
    | nil => exact absurd ht (Host.text_ne_nil h)
    | cons d r =>
      rw [ht] at hc
      cases hc
      exact not_endsAuthority_of_isOriginChar scheme
        (isOriginChar_of_mem_text h (ht ▸ List.mem_cons_self))
  unfold parseChars
  rw [significant_eq houter, htext, splitScheme?_name hscheme]
  dsimp only
  rw [parseBehind_slashes hscheme hhead]
  refine parseAuthority_origin (isSpecial_of_hasOrigin hscheme) h hstable _ fun c hc => ?_
  rw [hslash c hc]
  rfl

/-! ### Pages -/

theorem originWithPort_of_parse {page : String} {scheme : Scheme} {host : Host}
    {stated : Option UInt16} (h : parse page = .ok ⟨scheme, some host, stated⟩)
    (hfile : scheme ≠ .file) (port : UInt16) :
    originWithPort page port = .ok (String.ofList (originText scheme host port)) := by
  unfold originWithPort
  rw [h]
  dsimp only
  rw [if_neg hfile]

/-- What an origin with a port comes from. -/
theorem parse_of_originWithPort {page o : String} {port : UInt16}
    (h : originWithPort page port = .ok o) :
    ∃ scheme host stated, parse page = .ok ⟨scheme, some host, stated⟩ ∧ scheme ≠ .file ∧
      o = String.ofList (originText scheme host port) := by
  unfold originWithPort at h
  split at h
  · cases h
  next scheme host stated hparse =>
    split at h
    · cases h
    next hfile =>
      cases h
      exact ⟨scheme, host, stated, hparse, hfile, rfl⟩
  · cases h

theorem eq_of_parseRest {scheme scheme' : Scheme} {host host' : Option Host} {rest : List Char}
    {stated : Option UInt16} (h : parseRest scheme host rest = .ok ⟨scheme', host', stated⟩) :
    scheme = scheme' ∧ host = host' := by
  unfold parseRest at h
  split at h
  · cases h
    exact ⟨rfl, rfl⟩
  next c r =>
    cases hp : parsePort r with
    | error e =>
      rw [hp] at h
      cases h
    | ok port =>
      rw [hp] at h
      cases h
      exact ⟨rfl, rfl⟩

/-- Where the host of an authority comes from. -/
theorem host_of_parseAuthority {scheme scheme' : Scheme} {cs : List Char} {host : Host}
    {stated : Option UInt16} (h : parseAuthority scheme cs = .ok ⟨scheme', some host, stated⟩) :
    scheme = scheme' ∧
      ∃ name, (if scheme.isSpecial then Host.parseSpecial name else Host.parsePlain name) =
        .ok host := by
  unfold parseAuthority at h
  dsimp only at h
  split at h
  · split at h
    · cases h
    · cases h
  split at h
  · cases h
  next host' hhost =>
    obtain ⟨rfl, heq⟩ := eq_of_parseRest h
    cases heq
    exact ⟨rfl, _, hhost⟩

theorem host_of_parseFile {scheme : Scheme} {cs : List Char} {host : Host} {stated : Option UInt16}
    (h : parseFile cs = .ok ⟨scheme, some host, stated⟩) :
    ∃ name, Host.parseSpecial name = .ok host := by
  unfold parseFile at h
  split at h
  next a b r =>
    split at h
    · dsimp only at h
      split at h
      · cases h
      · cases hname : Host.parseSpecial (r.takeWhile fun c => !endsAuthority .file c) with
        | error e =>
          rw [hname] at h
          cases h
        | ok host' =>
          rw [hname] at h
          cases h
          exact ⟨_, hname⟩
    · cases h
  · cases h

/-- The host of a URL with a special scheme is settled. -/
theorem settled_of_parse {page : String} {scheme : Scheme} {host : Host} {stated : Option UInt16}
    (h : parse page = .ok ⟨scheme, some host, stated⟩) (hspecial : scheme.isSpecial = true) :
    host.Settled := by
  have hauthority : ∀ {scheme' cs}, parseAuthority scheme' cs = .ok ⟨scheme, some host, stated⟩ →
      host.Settled := by
    intro scheme' cs h
    obtain ⟨rfl, name, hname⟩ := host_of_parseAuthority h
    rw [if_pos hspecial] at hname
    exact Host.settled_of_parseSpecial hname
  unfold parse parseChars at h
  split at h
  · cases h
  next scheme' r _ =>
    unfold parseBehind at h
    split at h
    · obtain ⟨name, hname⟩ := host_of_parseFile h
      exact Host.settled_of_parseSpecial hname
    · split at h
      · exact hauthority h
      · cases h
    · exact hauthority h

/-! ### Origins as pages -/

/-- Under a scheme that has no origin the text of the origin is `null`. -/
theorem hasOrigin_of_ne_null {scheme : Scheme} {host : Host} {port : UInt16}
    (h : String.ofList (originText scheme host port) ≠ "null") : scheme.hasOrigin = true := by
  refine Bool.not_eq_false _ |>.mp fun hnone => h ?_
  unfold originText
  rw [hnone]
  exact String.ofList_toList

/-- **An origin stands for the scheme and host of its page and the port it was given.** -/
theorem parse_of_originWithPort_append {page o : String} {port : UInt16} {scheme : Scheme} {host : Host}
    {stated : Option UInt16} (hpage : parse page = .ok ⟨scheme, some host, stated⟩)
    (hscheme : scheme.hasOrigin = true) (hstable : host.Stable)
    (h : originWithPort page port = .ok o) {path : String}
    (hpath : ∀ c ∈ path.toList, isOuter c = false) (hslash : ∀ c ∈ path.toList.head?, c = '/') :
    parse (o ++ path) = .ok ⟨scheme, some host, statedPort scheme port⟩ := by
  obtain ⟨scheme', host', stated', hparse, -, rfl⟩ := parse_of_originWithPort h
  cases hpage.symm.trans hparse
  unfold parse
  rw [String.toList_append, String.toList_ofList]
  exact parseChars_originText hscheme (settled_of_parse hpage (isSpecial_of_hasOrigin hscheme)) hstable
    port hpath hslash

/-- **An origin is given another port like its page**, and its own port changes nothing.  Of a name
that was brought into ASCII, as the host of the page, it is asked that bringing it there again changes
nothing. -/
theorem originWithPort_of_origin {page o : String} {port : UInt16}
    (h : originWithPort page port = .ok o) (hnull : o ≠ "null")
    (hstable : ∀ cs name, Domain.toAscii? cs = some name →
      (∃ scheme stated, parse page = .ok ⟨scheme, some (.domain name), stated⟩) →
      Domain.toAscii? name = some name) :
    (∀ port', originWithPort o port' = originWithPort page port') ∧ originWithPort o port = .ok o := by
  obtain ⟨scheme, host, stated, hpage, hfile, rfl⟩ := parse_of_originWithPort h
  have hscheme := hasOrigin_of_ne_null hnull
  have hhost : host.Stable := by
    rintro name rfl
    cases settled_of_parse hpage (isSpecial_of_hasOrigin hscheme) with
    | domain _ hascii _ =>
      obtain ⟨cs, hcs⟩ := hascii
      exact hstable cs name hcs ⟨scheme, stated, hpage⟩
  have hparse : parse (String.ofList (originText scheme host port) ++ "") =
      .ok ⟨scheme, some host, statedPort scheme port⟩ :=
    parse_of_originWithPort_append hpage hscheme hhost h (by simp) (by simp)
  rw [String.append_empty] at hparse
  have hsame : ∀ port', originWithPort (String.ofList (originText scheme host port)) port' =
      originWithPort page port' := fun port' => by
    rw [originWithPort_of_parse hparse hfile, originWithPort_of_parse hpage hfile]
  exact ⟨hsame, (hsame port).trans h⟩

/-- An origin with the default port left out is given another port. -/
theorem originWithPort_of_origin_default :
    originWithPort "HTTP://Admin.TEST:8000/login" 80 = .ok "http://admin.test" ∧
      (∀ port, originWithPort "http://admin.test" port =
        originWithPort "HTTP://Admin.TEST:8000/login" port) ∧
      originWithPort "http://admin.test" 80 = .ok "http://admin.test" := by
  have hpage : parse "HTTP://Admin.TEST:8000/login" =
      .ok ⟨.http, some (.domain "admin.test".toList), some 8000⟩ := by decide +kernel
  have h : originWithPort "HTTP://Admin.TEST:8000/login" 80 = .ok "http://admin.test" := by
    decide +kernel
  refine ⟨h, originWithPort_of_origin h (by decide) ?_⟩
  rintro cs name - ⟨scheme, stated, hparse⟩
  cases hpage.symm.trans hparse
  decide +kernel

end DnsConsole.Url
