import DnsConsole.Url.Host

/-!
# URLs and their origins

A URL is read as far as a page's origin depends on it: scheme, host and port.  Controls and spaces
around it are dropped, and tabs and line breaks inside it are ignored.  Whatever is in front of the
last `@` of the authority is user information; a colon outside brackets ends the host; path, query and
fragment cannot be wrong.  `Url.parse` reads a URL on its own, without a base.

The control API is reached at the host of the page, at another port.  `originWithPort` takes the
origin of a page's URL and puts the port into it; a URL without a host has no origin that could carry a
port.  The origin is written with its scheme, and without the port if that is the scheme's default;
for a scheme whose origins are not named by host and port it is `null`.
-/

namespace DnsConsole

/-- The scheme, host and port of a URL. -/
structure Url where
  scheme : Url.Scheme
  host : Option Url.Host
  port : Option UInt16
  deriving DecidableEq, Repr

namespace Url

/-! ### The text -/

/-- Controls and the space, which are dropped at both ends. -/
def isOuter (c : Char) : Bool :=
  c.toNat ≤ 0x20

/-- Tabs and line breaks, which are ignored anywhere. -/
def isIgnored (c : Char) : Bool :=
  c == '\t' || c == '\n' || c == '\r'

/-- The characters of a URL that count. -/
def significant (cs : List Char) : List Char :=
  (((cs.dropWhile isOuter).reverse.dropWhile isOuter).reverse).filter fun c => !isIgnored c

/-! ### Scheme -/

/-- An ASCII letter. -/
def isLetter (c : Char) : Bool :=
  ('a' ≤ c && c ≤ 'z') || ('A' ≤ c && c ≤ 'Z')

/-- A character that can stand in a scheme behind its first letter. -/
def isSchemeChar (c : Char) : Bool :=
  isLetter c || Text.Decimal.isDigit c || c == '+' || c == '-' || c == '.'

/-- The scheme in front of a URL, and the text behind its colon. -/
def splitScheme? (cs : List Char) : Option (Scheme × List Char) :=
  match cs.span isSchemeChar with
  | (c :: name, ':' :: r) =>
    if isLetter c then some (Scheme.ofName ((c :: name).map Domain.lower), r) else none
  | _ => none

/-! ### Authority -/

/-- A slash, or a backslash that counts as one. -/
def isSlash (scheme : Scheme) (c : Char) : Bool :=
  c == '/' || (c == '\\' && scheme.isSpecial)

/-- The characters that end an authority. -/
def endsAuthority (scheme : Scheme) (c : Char) : Bool :=
  isSlash scheme c || c == '?' || c == '#'

/-- A text cut behind its last `@`, if it has one. -/
def splitUserinfo (cs : List Char) : Option (List Char) × List Char :=
  match cs.reverse.span (· ≠ '@') with
  | (host, _ :: userinfo) => (some userinfo.reverse, host.reverse)
  | (_, []) => (none, cs)

/-- Whether user information says anything: a user name or a password. -/
def hasCredentials : Option (List Char) → Bool
  | none => false
  | some cs => !cs.isEmpty && cs != [':']

/-- The host in front of a text: up to a colon outside brackets. -/
def splitHost (inside : Bool) : List Char → List Char × List Char
  | [] => ([], [])
  | c :: r =>
    if c = ':' ∧ !inside then ([], c :: r)
    else
      let (host, rest) := splitHost (if c = '[' then true else if c = ']' then false else inside) r
      (c :: host, rest)

/-- The port that the digits behind a colon stand for.  A backslash, where it does not end the
authority, ends the digits. -/
def parsePort (cs : List Char) : Except ParseError (Option UInt16) :=
  let (digits, rest) := cs.span Text.Decimal.isDigit
  let n := Text.Decimal.number 0 digits
  if 65536 ≤ n ∨ !(rest.isEmpty || rest.head? == some '\\') then .error .invalidPort
  else .ok (if digits.isEmpty then none else some (UInt16.ofNat n))

/-- The port behind a host, if there is one. -/
def parseRest (scheme : Scheme) (host : Option Host) (rest : List Char) : Except ParseError Url :=
  match rest with
  | [] => .ok ⟨scheme, host, none⟩
  | _ :: r => (parsePort r).map fun port => ⟨scheme, host, port⟩

/-- A URL of which the text behind the slashes is left.  An empty host is an error with a special
scheme; with any other one it is an error only next to credentials or a port, or between a lone `@`
and a path. -/
def parseAuthority (scheme : Scheme) (cs : List Char) : Except ParseError Url :=
  let (authority, behind) := cs.span fun c => !endsAuthority scheme c
  let (userinfo, hostport) := splitUserinfo authority
  let (name, rest) := splitHost false hostport
  if name.isEmpty then
    if scheme.isSpecial || !rest.isEmpty || hasCredentials userinfo ||
        (userinfo == some [] && !behind.isEmpty) then
      .error .emptyHost
    else .ok ⟨scheme, none, none⟩
  else
    match if scheme.isSpecial then Host.parseSpecial name else Host.parsePlain name with
    | .error e => .error e
    | .ok host => parseRest scheme (some host) rest

/-! ### Files -/

/-- A drive letter, which is no host. -/
def isDrive : List Char → Bool
  | [a, b] => isLetter a && (b == ':' || b == '|')
  | _ => false

/-- A URL of a file of which the text behind the scheme is left; only two slashes lead to a host. -/
def parseFile (cs : List Char) : Except ParseError Url :=
  match cs with
  | a :: b :: r =>
    if isSlash .file a && isSlash .file b then
      let name := r.takeWhile fun c => !endsAuthority .file c
      if name.isEmpty || isDrive name then .ok ⟨.file, none, none⟩
      else (Host.parseSpecial name).map fun host => ⟨.file, some host, none⟩
    else .ok ⟨.file, none, none⟩
  | _ => .ok ⟨.file, none, none⟩

/-! ### The whole -/

/-- A URL of which the scheme has been read. -/
def parseBehind (scheme : Scheme) (cs : List Char) : Except ParseError Url :=
  match scheme with
  | .file => parseFile cs
  | .other _ =>
    match cs with
    | '/' :: '/' :: r => parseAuthority scheme r
    | _ => .ok ⟨scheme, none, none⟩
  | _ => parseAuthority scheme (cs.dropWhile (isSlash scheme))

/-- The URL that a text stands for. -/
def parseChars (cs : List Char) : Except ParseError Url :=
  match splitScheme? (significant cs) with
  | none => .error .relativeWithoutBase
  | some (scheme, r) => parseBehind scheme r

/-- The URL that a text stands for. -/
def parse (s : String) : Except ParseError Url :=
  parseChars s.toList

/-! ### The origin -/

/-- Why a page's URL gives no origin. -/
inductive OriginError
  | parse (reason : ParseError)
  | cannotHavePort (pageUrl : String)
  deriving DecidableEq, Repr

/-- An error in words. -/
def OriginError.message : OriginError → String
  | parse reason => "invalid page url: " ++ reason.message
  | cannotHavePort pageUrl => "url cannot carry a port: " ++ pageUrl

/-- The text of the origin of a scheme, host and port. -/
def originText (scheme : Scheme) (host : Host) (port : UInt16) : List Char :=
  if !scheme.hasOrigin then "null".toList
  else
    let base := scheme.name ++ "://".toList ++ host.text
    if scheme.defaultPort? = some port then base
    else base ++ ':' :: Text.Decimal.digits port.toNat

/-- The origin of a page with its port replaced. -/
def originWithPort (pageUrl : String) (port : UInt16) : Except OriginError String :=
  match parse pageUrl with
  | .error e => .error (.parse e)
  | .ok ⟨scheme, some host, _⟩ =>
    if scheme = .file then .error (.cannotHavePort pageUrl)
    else .ok (String.ofList (originText scheme host port))
  | .ok ⟨_, none, _⟩ => .error (.cannotHavePort pageUrl)

end Url

end DnsConsole
