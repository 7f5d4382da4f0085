import DnsConsole.Proofs.Domain.Refused
import DnsConsole.Proofs.Url.Origin

/-!
# Addresses of pages

Of the address of a page its origin depends on scheme and host alone (`originWithPort_text`): user
information, port, path, query and fragment neither fail nor come into the origin.  The address is taken
apart as it was put together: what is in front of the host ends at the last `@`, and what is behind it
starts with a character that ends the authority, so that host and port are what is left.  There a colon
outside brackets ends the host (`splitHost_cases`).  A host that leaves a bracket open takes the port
in, but then it cannot be read with or without it (`Host.parseSpecial_of_open`).
-/

namespace DnsConsole.Url

/-- A character that ends an authority. -/
def isDelimiter (c : Char) : Bool :=
  c == '/' || c == '\\' || c == '?' || c == '#'

theorem not_isOuter_of_isDelimiter {c : Char} (h : isDelimiter c = true) : isOuter c = false := by
  simp only [isDelimiter, Bool.or_eq_true, beq_iff_eq] at h
  rcases h with ((rfl | rfl) | rfl) | rfl <;> decide

/-- The address of a page in parts: `rest` is path, query and fragment. -/
structure Address where
  scheme : Scheme
  userinfo : Option String
  host : String
  port : Option String
  rest : String

namespace Address

/-- An address as text. -/
def text (a : Address) : String :=
  String.ofList a.scheme.name ++ "://" ++ a.userinfo.elim "" (· ++ "@") ++ a.host ++
    a.port.elim "" (":" ++ ·) ++ a.rest

/-- What the parts of an address are: the host has its colons in brackets, the user information can hold
colons and the sign that ends it, and the port is a number that fits, with any zeros in front, or
nothing. -/
structure WellFormed (a : Address) : Prop where
  scheme : a.scheme.hasOrigin = true
  userinfo : ∀ u ∈ a.userinfo, ∀ c ∈ u.toList, isDelimiter c = false
  host_ne : a.host ≠ ""
  host : ∀ c ∈ a.host.toList, isOuter c = false ∧ isDelimiter c = false ∧ c ≠ '@'
  colons : ∀ before behind, a.host.toList = before ++ ':' :: behind → '[' ∈ before ∧ ']' ∈ behind
  port : ∀ d ∈ a.port,
    (∀ c ∈ d.toList, Text.Decimal.isDigit c = true) ∧ Text.Decimal.number 0 d.toList ≤ 65535
  rest : ∀ c ∈ a.rest.toList.head?, isDelimiter c = true

/-- The colons of a host in brackets are in brackets. -/
theorem colons_of_brackets {inner before behind : List Char}
    (h : '[' :: inner ++ [']'] = before ++ ':' :: behind) : '[' ∈ before ∧ ']' ∈ behind := by
  constructor
  · cases before with
    | nil => cases h
    | cons c before =>
      obtain ⟨rfl, -⟩ := List.cons.inj h
      exact List.mem_cons_self
  · have hlast : (before ++ ':' :: behind).getLast? = some ']' := h ▸ List.getLast?_concat
    rw [List.getLast?_append_of_ne_nil _ (List.cons_ne_nil ':' behind)] at hlast
    exact (List.mem_cons.mp (List.mem_of_getLast? hlast)).resolve_left (by decide)

/-- The user information as it stands in front of the host. -/
def front (a : Address) : List Char :=
  a.userinfo.elim [] fun u => u.toList ++ ['@']

/-- The host with its port. -/
def hostport (a : Address) : List Char :=
  a.host.toList ++ a.port.elim [] fun d => ':' :: d.toList

theorem toList_text (a : Address) :
    a.text.toList = a.scheme.name ++ ':' :: '/' :: '/' :: a.front ++ a.hostport ++ a.rest.toList := by
  have hslashes : "://".toList = [':', '/', '/'] := by decide
  have hfront : (a.userinfo.elim "" (· ++ "@")).toList = a.front := by
    unfold front
    cases a.userinfo with
    | none => rfl
    | some u => exact String.toList_append
  have hport : (a.port.elim "" (":" ++ ·)).toList = a.port.elim [] fun d => ':' :: d.toList := by
    cases a.port with
    | none => rfl
    | some d => exact String.toList_append
  unfold text hostport
  simp only [String.toList_append, String.toList_ofList, hslashes, hfront, hport, List.append_assoc,
    List.cons_append, List.nil_append]

end Address

/-! ### Brackets -/

/-- Whether a host is within brackets behind a text. -/
def insideBehind (inside : Bool) (cs : List Char) : Bool :=
  cs.foldl (fun inside c => if c = '[' then true else if c = ']' then false else inside) inside

/-- A host ends at a colon of a text, or it goes on behind the text. -/
theorem splitHost_cases (inside : Bool) (cs : List Char) :
    (∃ name behind, cs = name ++ ':' :: behind ∧
        ∀ r, splitHost inside (cs ++ r) = (name, ':' :: (behind ++ r))) ∨
      ∀ r, splitHost inside (cs ++ r) =
        (cs ++ (splitHost (insideBehind inside cs) r).1, (splitHost (insideBehind inside cs) r).2) := by
  induction cs generalizing inside with
  | nil => exact Or.inr fun r => rfl
  | cons c cs ih =>
    by_cases hends : c = ':' ∧ !inside
    · refine Or.inl ⟨[], cs, by rw [hends.1]; rfl, fun r => ?_⟩
      rw [List.cons_append, splitHost, if_pos hends, hends.1]
    rcases ih (if c = '[' then true else if c = ']' then false else inside) with
      ⟨name, behind, rfl, hsplit⟩ | hsplit
    · refine Or.inl ⟨c :: name, behind, rfl, fun r => ?_⟩
      rw [List.cons_append, splitHost, if_neg hends, hsplit]
    · refine Or.inr fun r => ?_
      rw [List.cons_append, splitHost, if_neg hends, hsplit]
      rfl

theorem insideBehind_of_not_mem {cs : List Char} (h : '[' ∉ cs) : insideBehind false cs = false := by
  induction cs with
  | nil => rfl
  | cons c cs ih =>
    have hc : c ≠ '[' := fun hc => h (hc ▸ List.mem_cons_self)
    have hstep : (if c = '[' then true else if c = ']' then false else false) = false := by
      rw [if_neg hc, ite_self]
    unfold insideBehind
    rw [List.foldl_cons, hstep]
    exact ih fun hmem => h (List.mem_cons_of_mem c hmem)

/-- A text that ends within brackets opens one, and its last character closes none. -/
theorem open_of_insideBehind {cs : List Char} (h : insideBehind false cs = true) :
    '[' ∈ cs ∧ cs.getLast? ≠ some ']' := by
  constructor
  · by_contra hmem
    cases (insideBehind_of_not_mem hmem).symm.trans h
  · intro hlast
    obtain ⟨init, rfl⟩ := List.getLast?_eq_some_iff.mp hlast
    unfold insideBehind at h
    rw [List.foldl_append] at h
    cases h

/-- Nothing is the host of a text that leaves a bracket open. -/
theorem Host.parseSpecial_of_open {cs : List Char} (hopen : '[' ∈ cs)
    (hlast : cs.getLast? ≠ some ']') :
    parseSpecial cs = .error (if cs.head? = some '[' then .invalidIpv6 else .invalidDomainName) := by
  unfold parseSpecial
  split
  next r =>
    have hr : r.getLast? ≠ some ']' := by
      rintro hr
      obtain ⟨init, rfl⟩ := List.getLast?_eq_some_iff.mp hr
      exact hlast (List.getLast?_concat (l := '[' :: init))
    rw [List.head?_cons, if_pos rfl, bracketed]
    split
    next heq => exact absurd heq hr
    next => rfl
  next hhead =>
    have hnone : (Text.Percent.decodeText? cs).bind Domain.toAscii? = none := by
      rw [Option.bind_eq_none_iff]
      intro ds hds
      exact Domain.toAscii?_of_bracket
        (Text.Percent.mem_of_decodeText? (by decide) (by decide) (by decide) hds hopen)
    rw [hnone, if_neg]
    intro heq
    obtain ⟨r, rfl⟩ := List.head?_eq_some_iff.mp heq
    exact hhead r rfl

/-! ### Host and port -/

/-- The port behind a host. -/
def readPort : List Char → Except ParseError (Option UInt16)
  | [] => .ok none
  | _ :: r => parsePort r

/-- The host and port of a URL with a special scheme. -/
def readHostport (cs : List Char) : Except ParseError (Host × Option UInt16) :=
  let (name, rest) := splitHost false cs
  if name.isEmpty then .error .emptyHost
  else (Host.parseSpecial name).bind fun host => (readPort rest).map fun port => (host, port)

/-- The host of a URL with a special scheme, if host and port can be read. -/
def readHost (cs : List Char) : Except ParseError Host :=
  (readHostport cs).map Prod.fst

theorem readHost_eq {cs name rest : List Char} (h : splitHost false cs = (name, rest)) :
    readHost cs = if name.isEmpty then .error .emptyHost
      else (Host.parseSpecial name).bind fun host => (readPort rest).map fun _ => host := by
  unfold readHost readHostport
  rw [h]
  dsimp only
  split
  · rfl
  · cases Host.parseSpecial name with
    | error e => rfl
    | ok host => cases readPort rest <;> rfl

/-- A character that is no digit makes a port unreadable. -/
theorem parsePort_of_mem {cs : List Char} {c : Char} (hmem : c ∈ cs)
    (hc : Text.Decimal.isDigit c = false) (hslash : '\\' ∉ cs) : parsePort cs = .error .invalidPort := by
  have hrest : cs.dropWhile Text.Decimal.isDigit ≠ [] := by
    intro hnil
    cases hc.symm.trans (List.dropWhile_eq_nil_iff.mp hnil c hmem)
  obtain ⟨d, r, hdrop⟩ := List.exists_cons_of_ne_nil hrest
  have hd : d ≠ '\\' := by
    rintro rfl
    exact hslash ((List.dropWhile_sublist _).subset (hdrop ▸ List.mem_cons_self))
  unfold parsePort
  rw [List.span_eq_takeWhile_dropWhile, hdrop]
  dsimp only
  rw [if_pos]
  right
  simpa using hd

theorem readHost_of_behind {cs name behind : List Char}
    (h : splitHost false cs = (name, ':' :: behind)) (hclose : ']' ∈ behind) (hslash : '\\' ∉ behind) :
    readHost cs = if name.isEmpty then .error .emptyHost
      else (Host.parseSpecial name).bind fun _ => .error .invalidPort := by
  rw [readHost_eq h, readPort, parsePort_of_mem hclose rfl hslash]
  rfl

/-- The host of a text that leaves a bracket open, which takes in all of it. -/
theorem readHost_of_open {cs : List Char} (h : splitHost false cs = (cs, [])) (hopen : '[' ∈ cs)
    (hlast : cs.getLast? ≠ some ']') :
    readHost cs = .error (if cs.head? = some '[' then .invalidIpv6 else .invalidDomainName) := by
  have hne : ¬ cs.isEmpty = true :=
    fun hempty => List.ne_nil_of_mem hopen (List.isEmpty_iff.mp hempty)
  rw [readHost_eq h, if_neg hne, Host.parseSpecial_of_open hopen hlast]
  rfl

/-- **A port behind a host leaves the host as it is**, and a host that cannot be read stays unreadable in
the same way. -/
theorem readHost_port {host digits : List Char} (hslash : '\\' ∉ host)
    (hcolons : ∀ before behind, host = before ++ ':' :: behind → '[' ∈ before ∧ ']' ∈ behind)
    (hdigits : ∀ c ∈ digits, Text.Decimal.isDigit c = true)
    (hle : Text.Decimal.number 0 digits ≤ 65535) :
    readHost (host ++ ':' :: digits) = readHost host := by
  have hplain : ∀ c ∈ ':' :: digits, c ≠ '[' ∧ c ≠ ']' ∧ c ≠ '\\' := by
    intro c hc
    rcases List.mem_cons.mp hc with rfl | hc
    · decide
    · refine ⟨?_, ?_, ?_⟩ <;> rintro rfl <;> cases hdigits _ hc
  rcases splitHost_cases false host with ⟨name, behind, rfl, hsplit⟩ | hsplit
  · -- the colon of the host ends it, and its bracket stands in the port
    have hclose := (hcolons name behind rfl).2
    have hbehind : '\\' ∉ behind :=
      fun hmem => hslash (List.mem_append_right name (List.mem_cons_of_mem ':' hmem))
    have hport := hsplit (':' :: digits)
    have hbare := hsplit []
    rw [List.append_nil, List.append_nil] at hbare
    rw [readHost_of_behind hbare hclose hbehind, readHost_of_behind hport]
    · exact List.mem_append_left _ hclose
    · intro hmem
      rcases List.mem_append.mp hmem with hmem | hmem
      · exact hbehind hmem
      · exact (hplain _ hmem).2.2 rfl
  · have hbare : splitHost false host = (host, []) := by
      have hnil := hsplit []
      rwa [List.append_nil, splitHost, List.append_nil] at hnil
    cases hinside : insideBehind false host with
    | false =>
      have hcolon : splitHost false (':' :: digits) = ([], ':' :: digits) := by
        rw [splitHost, if_pos ⟨rfl, rfl⟩]
      have hport : splitHost false (host ++ ':' :: digits) = (host, ':' :: digits) := by
        rw [hsplit, hinside, hcolon, List.append_nil]
      have hread : readPort (':' :: digits) = .ok _ := parsePort_of_isDigit hdigits hle
      rw [readHost_eq hport, readHost_eq hbare, hread]
      rfl
    | true =>
      -- the host takes the port in
      have hcolon : splitHost true (':' :: digits) = (':' :: digits, []) := by
        have hall := splitHost_append (fun c hc => ⟨(hplain c hc).1, (hplain c hc).2.1⟩)
          (fun h : true = false => by cases h) []
        rwa [List.append_nil, splitHost, List.append_nil] at hall
      have hport : splitHost false (host ++ ':' :: digits) = (host ++ ':' :: digits, []) := by
        rw [hsplit, hinside, hcolon]
      obtain ⟨hopen, hlast⟩ := open_of_insideBehind hinside
      have hne : host ≠ [] := List.ne_nil_of_mem hopen
      have hlast' : (host ++ ':' :: digits).getLast? ≠ some ']' := by
        rw [List.getLast?_append_of_ne_nil _ (List.cons_ne_nil ':' digits)]
        exact fun h => (hplain ']' (List.mem_of_getLast? h)).2.1 rfl
      rw [readHost_of_open hport (List.mem_append_left _ hopen) hlast',
        readHost_of_open hbare hopen hlast, List.head?_append_of_ne_nil _ hne]

/-! ### Addresses that are read -/

theorem endsAuthority_eq {scheme : Scheme} (h : scheme.isSpecial = true) (c : Char) :
    endsAuthority scheme c = isDelimiter c := by
  unfold endsAuthority isSlash isDelimiter
  rw [h, Bool.and_true]

theorem splitUserinfo_append {hostport : List Char} (h : '@' ∉ hostport) (userinfo : List Char) :
    splitUserinfo (userinfo ++ '@' :: hostport) = (some userinfo, hostport) := by
  have hgoes : ∀ c ∈ hostport.reverse, decide (c ≠ '@') = true := fun c hc =>
    decide_eq_true fun hat => h (hat ▸ List.mem_reverse.mp hc)
  have hreverse : (userinfo ++ '@' :: hostport).reverse =
      hostport.reverse ++ '@' :: userinfo.reverse := by
    rw [List.reverse_append, List.reverse_cons, List.append_assoc]
    rfl
  unfold splitUserinfo
  rw [hreverse, Text.span_append hgoes fun c hc => by cases hc; rfl]
  dsimp only
  rw [List.reverse_reverse, List.reverse_reverse]

/-- Of an authority only host and port are read. -/
theorem parseAuthority_eq {scheme : Scheme} (hspecial : scheme.isSpecial = true)
    {cs behind : List Char} (hcs : ∀ c ∈ cs, endsAuthority scheme c = false)
    (hbehind : ∀ c ∈ behind.head?, endsAuthority scheme c = true) :
    parseAuthority scheme (cs ++ behind) =
      (readHostport (splitUserinfo cs).2).map fun r => ⟨scheme, some r.1, r.2⟩ := by
  unfold parseAuthority readHostport
  rw [span_authority hcs hbehind]
  dsimp only
  rcases splitUserinfo cs with ⟨userinfo, hostport⟩
  rcases splitHost false hostport with ⟨name, rest⟩
  dsimp only
  rw [hspecial]
  split
  · rfl
  rw [if_pos rfl]
  cases Host.parseSpecial name with
  | error e => rfl
  | ok host =>
    cases rest with
    | nil => rfl
    | cons c r =>
      change (parsePort r).map _ = (((parsePort r).map _).map _ : Except ParseError Url)
      cases parsePort r <;> rfl

namespace Address

variable {a : Address}

theorem mem_hostport (h : a.WellFormed) {c : Char} (hc : c ∈ a.hostport) :
    isOuter c = false ∧ isDelimiter c = false ∧ c ≠ '@' := by
  rcases List.mem_append.mp hc with hc | hc
  · exact h.host c hc
  · cases hport : a.port with
    | none =>
      rw [hport] at hc
      cases hc
    | some d =>
      rw [hport] at hc
      rcases List.mem_cons.mp hc with rfl | hc
      · decide
      · have horigin := isOriginChar_of_isDigit ((h.port d hport).1 c hc)
        refine ⟨not_isOuter_of_isOriginChar horigin, ?_, ne_at_of_isOriginChar horigin⟩
        rw [← endsAuthority_eq (isSpecial_of_hasOrigin h.scheme)]
        exact not_endsAuthority_of_isOriginChar a.scheme horigin

theorem hostport_ne_nil (h : a.WellFormed) : a.hostport ≠ [] := by
  intro hnil
  refine h.host_ne (String.toList_eq_nil_iff.mp ?_)
  exact (List.append_eq_nil_iff.mp hnil).1

theorem mem_front (h : a.WellFormed) {c : Char} (hc : c ∈ a.front) : isDelimiter c = false := by
  unfold front at hc
  cases huserinfo : a.userinfo with
  | none =>
    rw [huserinfo] at hc
    cases hc
  | some u =>
    rw [huserinfo] at hc
    rcases List.mem_append.mp hc with hc | hc
    · exact h.userinfo u huserinfo c hc
    · cases List.mem_singleton.mp hc
      rfl

/-- What is in front of the host, less its tabs and line breaks, is user information. -/
theorem splitUserinfo_front (h : a.WellFormed) (p : Char → Bool) (hp : p '@' = true) :
    (splitUserinfo (a.front.filter p ++ a.hostport)).2 = a.hostport := by
  have hat : '@' ∉ a.hostport := fun hmem => (mem_hostport h hmem).2.2 rfl
  unfold front
  cases a.userinfo with
  | none => exact congrArg Prod.snd (splitUserinfo_of_not_mem hat)
  | some u =>
    have hfilter : (u.toList ++ ['@']).filter p ++ a.hostport =
        u.toList.filter p ++ '@' :: a.hostport := by
      rw [List.filter_append, List.filter_cons_of_pos hp, List.append_assoc]
      rfl
    rw [Option.elim_some, hfilter, splitUserinfo_append hat]

/-- Of the front of an address only tabs and line breaks are ignored, and the rest still starts with a
character that ends the authority. -/
theorem exists_of_significant_text (h : a.WellFormed) :
    ∃ behind, significant a.text.toList = a.scheme.name ++ ':' :: '/' :: '/' ::
        (a.front.filter (fun c => !isIgnored c) ++ a.hostport ++ behind) ∧
      ∀ c ∈ behind.head?, isDelimiter c = true := by
  have hne := hostport_ne_nil h
  have hhead : ∀ c ∈ (a.scheme.name ++ ':' :: '/' :: '/' :: a.front ++ a.hostport).head?,
      isOuter c = false := by
    intro c hc
    obtain ⟨d, name, hname, -, -⟩ := name_spec h.scheme
    rw [hname] at hc
    cases hc
    exact (mem_name h.scheme (hname ▸ List.mem_cons_self)).2
  have hlast : ∀ c ∈ (a.scheme.name ++ ':' :: '/' :: '/' :: a.front ++ a.hostport).getLast?,
      isOuter c = false := by
    intro c hc
    rw [List.getLast?_append_of_ne_nil _ hne] at hc
    exact (mem_hostport h (List.mem_of_getLast? hc)).1
  obtain ⟨behind, hsignificant, hbehind⟩ := significant_append
    (List.append_ne_nil_of_right_ne_nil _ hne) hhead hlast a.rest.toList
  refine ⟨behind, ?_, fun c hc => ?_⟩
  · rw [toList_text, hsignificant, List.filter_append, List.filter_append,
      filter_isIgnored fun c hc => (mem_name h.scheme hc).2,
      filter_isIgnored fun c hc => (mem_hostport h hc).1, List.append_assoc, List.append_assoc,
      List.append_assoc]
    rfl
  · exact h.rest c (hbehind (fun d hd => not_isOuter_of_isDelimiter (h.rest d hd)) c hc)

/-- **The URL of an address is read off its host and port.** -/
theorem parse_text (h : a.WellFormed) :
    parse a.text = (readHostport a.hostport).map fun r => ⟨a.scheme, some r.1, r.2⟩ := by
  have hspecial := isSpecial_of_hasOrigin h.scheme
  obtain ⟨behind, hsignificant, hbehind⟩ := exists_of_significant_text h
  have hauthority : ∀ c ∈ a.front.filter (fun c => !isIgnored c) ++ a.hostport,
      endsAuthority a.scheme c = false := by
    intro c hc
    rw [endsAuthority_eq hspecial]
    rcases List.mem_append.mp hc with hc | hc
    · exact mem_front h (List.mem_filter.mp hc).1
    · exact (mem_hostport h hc).2.1
  have hends : ∀ c ∈ behind.head?, endsAuthority a.scheme c = true := fun c hc =>
    (endsAuthority_eq hspecial c).trans (hbehind c hc)
  have hstart : ∀ c ∈ (a.front.filter (fun c => !isIgnored c) ++ a.hostport ++ behind).head?,
      endsAuthority a.scheme c = false := by
    intro c hc
    have hne := List.append_ne_nil_of_right_ne_nil (a.front.filter fun c => !isIgnored c)
      (hostport_ne_nil h)
    rw [List.head?_append_of_ne_nil _ hne] at hc
    exact hauthority c (List.mem_of_mem_head? hc)
  unfold parse parseChars
  rw [hsignificant, splitScheme?_name h.scheme]
  dsimp only
  rw [parseBehind_slashes h.scheme hstart, parseAuthority_eq hspecial hauthority hends,
    splitUserinfo_front h _ rfl]

end Address

/-! ### Origins -/

/-- An origin depends on the scheme and the host that were read, and a host that cannot be read is the
reason why there is none. -/
theorem originWithPort_of_readHostport {page : String} {scheme : Scheme} {cs : List Char}
    (h : parse page = (readHostport cs).map fun r => ⟨scheme, some r.1, r.2⟩)
    (hfile : scheme ≠ .file) (port : UInt16) :
    originWithPort page port =
      ((readHost cs).map fun host => String.ofList (originText scheme host port)).mapError .parse := by
  unfold readHost originWithPort
  rw [h]
  cases readHostport cs with
  | error e => rfl
  | ok r => exact if_neg hfile

namespace Address

variable {a : Address}

/-- The scheme and the host of an address alone. -/
def bare (a : Address) : Address :=
  { a with userinfo := none, port := none, rest := "" }

theorem text_bare (a : Address) : a.bare.text = String.ofList a.scheme.name ++ "://" ++ a.host := by
  unfold text bare
  simp only [Option.elim_none, String.append_empty]

theorem WellFormed.bare (h : a.WellFormed) : a.bare.WellFormed where
  scheme := h.scheme
  userinfo _ hu := by cases hu
  host_ne := h.host_ne
  host := h.host
  colons := h.colons
  port _ hd := by cases hd
  rest _ hc := by cases hc

theorem readHost_hostport (h : a.WellFormed) : readHost a.hostport = readHost a.host.toList := by
  unfold hostport
  cases hport : a.port with
  | none => rw [Option.elim_none, List.append_nil]
  | some d =>
    have hslash : '\\' ∉ a.host.toList := fun hmem => by cases (h.host _ hmem).2.1
    exact readHost_port hslash h.colons (h.port d hport).1 (h.port d hport).2

end Address

/-- **The origin of a page depends on the scheme and the host of its address alone.** -/
theorem originWithPort_text {a : Address} (h : a.WellFormed) (port : UInt16) :
    originWithPort a.text port =
      originWithPort (String.ofList a.scheme.name ++ "://" ++ a.host) port := by
  have hfile : a.scheme ≠ .file := by
    intro hfile
    cases hfile ▸ h.scheme
  rw [← Address.text_bare, originWithPort_of_readHostport (Address.parse_text h) hfile,
    originWithPort_of_readHostport (Address.parse_text h.bare) hfile, Address.readHost_hostport h,
    Address.readHost_hostport h.bare]
  rfl

/-- A user name that looks like a host, the sign that ends the user information within it, colons in the
host, zeros in front of the port and a backslash for a slash do not lead to another origin. -/
theorem originWithPort_text_beside_other_host :
    originWithPort "https://other.test:80@a\tb@[1::0:2]:00443\\c?d@e#f " 8080 =
        originWithPort "https://[1::0:2]" 8080 ∧
      originWithPort "https://[1::0:2]" 8080 = .ok "https://[1::2]:8080" := by
  have hhost : ("[1::0:2]".toList.all fun c => !isOuter c && !isDelimiter c && c != '@') = true := by
    decide +kernel
  have h : Address.WellFormed
      ⟨.https, some "other.test:80@a\tb", "[1::0:2]", some "00443", "\\c?d@e#f "⟩ :=
    { scheme := rfl
      userinfo := by
        rintro u ⟨⟩ c hc
        exact Bool.eq_false_iff.mpr (List.any_eq_false.mp (by decide +kernel) c hc)
      host_ne := by decide
      host := fun c hc => by simpa [and_assoc] using List.all_eq_true.mp hhost c hc
      colons := fun before behind heq => Address.colons_of_brackets
        (show '[' :: "1::0:2".toList ++ [']'] = before ++ ':' :: behind from heq)
      port := by
        rintro d ⟨⟩
        exact ⟨List.all_eq_true.mp (by decide +kernel), by decide +kernel⟩
      rest := by
        rintro c ⟨⟩
        rfl }
  exact ⟨originWithPort_text h 8080, by decide +kernel⟩

end DnsConsole.Url
