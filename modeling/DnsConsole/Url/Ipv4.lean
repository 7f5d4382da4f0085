import DnsConsole.Text.Numerals
import DnsConsole.Text.Pieces

/-!
# IPv4 addresses

A host whose last part is a number is an IPv4 address.  It has at most four parts, each decimal,
octal behind a `0` or hexadecimal behind `0x`; the last one fills all the bytes that are left, and a
dot at the end is dropped.  Addresses are written with four decimal parts.
-/

namespace DnsConsole.Url

/-- An IPv4 address. -/
structure Ipv4 where
  address : UInt32
  deriving DecidableEq, Repr

namespace Ipv4

/-- The number of an octal text, read on from `n`; `none` if a character is no octal digit. -/
def readOctal? (n : Nat) : List Char → Option Nat
  | [] => some n
  | c :: r => if '0' ≤ c ∧ c ≤ '7' then readOctal? (n * 8 + Text.Decimal.value c) r else none

/-- The number that a part of an address stands for. -/
def part? (cs : List Char) : Option Nat :=
  match cs with
  | [] => none
  | '0' :: 'x' :: r => Text.Hex.read? 0 r
  | '0' :: 'X' :: r => Text.Hex.read? 0 r
  | '0' :: c :: r => readOctal? 0 (c :: r)
  | cs => Text.Decimal.read? cs

/-- The parts of a host, without an empty one at the end. -/
def parts (cs : List Char) : List (List Char) :=
  let ps := Text.split '.' cs
  if 1 < ps.length ∧ ps.getLast? = some [] then ps.dropLast else ps

/-- Whether a host is to be read as an IPv4 address. -/
def isNumeric (cs : List Char) : Bool :=
  match (parts cs).getLast? with
  | none => false
  | some last => (Text.Decimal.read? last).isSome || (part? last).isSome

/-- The address of the numbers of its parts. -/
def ofParts? (numbers : List Nat) : Option Ipv4 :=
  match numbers.reverse with
  | [] => none
  | last :: before =>
    let room := Nat.pow 256 (4 - before.length)
    if 3 < before.length ∨ before.any (255 < ·) ∨ room ≤ last then none
    else
      let high := before.reverse.foldl (fun n p => n * 256 + p) 0
      some ⟨UInt32.ofNat (high * room + last)⟩

/-- The address that a host stands for. -/
def parse? (cs : List Char) : Option Ipv4 :=
  ((parts cs).mapM part?).bind ofParts?

/-- An address as text. -/
def text (a : Ipv4) : List Char :=
  let n := a.address.toNat
  ['.'].intercalate ([n / 16777216, n / 65536 % 256, n / 256 % 256, n % 256].map Text.Decimal.digits)

end Ipv4

end DnsConsole.Url
