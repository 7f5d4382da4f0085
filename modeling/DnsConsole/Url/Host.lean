import DnsConsole.Domain.Ascii
import DnsConsole.Text.Bytes
import DnsConsole.Text.Numerals
import DnsConsole.Url.Ipv4
import DnsConsole.Url.Ipv6

/-!
# Schemes and hosts

Six schemes are special: their URLs have a host in front of a path, read a backslash as a slash, and,
`file` aside, have a default port.  All other schemes are kept by name.

The host of a URL with a special scheme is a domain name, an IPv4 address or, in brackets, an IPv6
address: its percent escapes are undone, it is brought into ASCII, and it is an IPv4 address if its
last part is a number.  With any other scheme a host that is no IPv6 address is kept as it is written,
as long as it holds none of the characters that mean something else.
-/

namespace DnsConsole.Url

/-! ### Schemes -/

/-- The scheme of a URL. -/
inductive Scheme
  | http
  | https
  | ws
  | wss
  | ftp
  | file
  | other (name : List Char)
  deriving DecidableEq, Repr

namespace Scheme

/-- The scheme of a name in lower case. -/
def ofName (name : List Char) : Scheme :=
  if name = "http".toList then http
  else if name = "https".toList then https
  else if name = "ws".toList then ws
  else if name = "wss".toList then wss
  else if name = "ftp".toList then ftp
  else if name = "file".toList then file
  else other name

/-- The name of a scheme. -/
def name : Scheme → List Char
  | http => "http".toList
  | https => "https".toList
  | ws => "ws".toList
  | wss => "wss".toList
  | ftp => "ftp".toList
  | file => "file".toList
  | other name => name

/-- Whether a backslash counts as a slash and the host is a domain name or an address. -/
def isSpecial : Scheme → Bool
  | other _ => false
  | _ => true

/-- The port that is left out. -/
def defaultPort? : Scheme → Option UInt16
  | http | ws => some 80
  | https | wss => some 443
  | ftp => some 21
  | file | other _ => none

/-- Whether an origin is named by scheme, host and port. -/
def hasOrigin (s : Scheme) : Bool :=
  s.defaultPort?.isSome

end Scheme

/-! ### Hosts -/

/-- Why a URL could not be read. -/
inductive ParseError
  | relativeWithoutBase
  | emptyHost
  | invalidPort
  | invalidIpv4
  | invalidIpv6
  | invalidDomainName
  | invalidDomainCharacter
  deriving DecidableEq, Repr

/-- An error in words. -/
def ParseError.message : ParseError → String
  | relativeWithoutBase => "relative URL without a base"
  | emptyHost => "empty host"
  | invalidPort => "invalid port number"
  | invalidIpv4 => "invalid IPv4 address"
  | invalidIpv6 => "invalid IPv6 address"
  | invalidDomainName => "invalid international domain name"
  | invalidDomainCharacter => "invalid domain character"

/-- The host of a URL. -/
inductive Host
  | domain (name : List Char)
  | ipv4 (address : Ipv4)
  | ipv6 (address : Ipv6)
  | plain (text : List Char)
  deriving DecidableEq, Repr

namespace Host

/-- A host as text, an IPv6 address in brackets. -/
def text : Host → List Char
  | domain name => name
  | ipv4 a => a.text
  | ipv6 a => '[' :: a.text ++ [']']
  | plain text => text

/-- The address inside the brackets of a text that starts with one. -/
def bracketed (inside : List Char) : Except ParseError Host :=
  match inside.getLast? with
  | some ']' =>
    match Ipv6.parse? inside.dropLast with
    | some a => .ok (.ipv6 a)
    | none => .error .invalidIpv6
  | _ => .error .invalidIpv6

/-- The domain name or IPv4 address that a name in ASCII is. -/
def ofAscii (name : List Char) : Except ParseError Host :=
  if name.isEmpty then .error .emptyHost
  else if Ipv4.isNumeric name then
    match Ipv4.parse? name with
    | some a => .ok (.ipv4 a)
    | none => .error .invalidIpv4
  else .ok (.domain name)

/-- The host of a URL with a special scheme. -/
def parseSpecial (cs : List Char) : Except ParseError Host :=
  match cs with
  | '[' :: r => bracketed r
  | cs =>
    match (Text.Percent.decodeText? cs).bind Domain.toAscii? with
    | some name => ofAscii name
    | none => .error .invalidDomainName

/-- The characters that the host of a URL with another scheme cannot hold. -/
def isForbidden (c : Char) : Bool :=
  ['\x00', '\t', '\n', '\r', ' ', '#', '/', ':', '<', '>', '?', '@', '[', '\\', ']', '^',
    '|'].contains c

/-- The host of a URL with another scheme. -/
def parsePlain (cs : List Char) : Except ParseError Host :=
  match cs with
  | '[' :: r => bracketed r
  | cs => if cs.any isForbidden then .error .invalidDomainCharacter else .ok (.plain cs)

end Host

end DnsConsole.Url
