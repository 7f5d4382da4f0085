import DnsConsole.Text.Numerals
import DnsConsole.Text.Pieces

/-!
# IPv6 addresses

An address is eight groups of sixteen bits, written as up to four hexadecimal digits each.  One gap
`::` stands for the zero groups that are missing, at least one, and the last two groups can be written
as an IPv4 address.  Addresses are written with the first of the longest runs of two or more zero
groups as a gap.
-/

namespace DnsConsole.Url

/-- An IPv6 address: eight groups. -/
structure Ipv6 where
  groups : List Nat
  deriving DecidableEq, Repr

namespace Ipv6

/-! ### Reading -/

/-- A decimal number up to 255 without a leading zero. -/
def byte? (cs : List Char) : Option Nat :=
  match cs, Text.Decimal.read? cs with
  | '0' :: _ :: _, _ => none
  | _, some n => if n < 256 then some n else none
  | _, none => none

/-- The two groups of an IPv4 address with four decimal parts. -/
def ipv4Groups? (cs : List Char) : Option (List Nat) :=
  match (Text.split '.' cs).mapM byte? with
  | some [a, b, c, d] => some [a * 256 + b, c * 256 + d]
  | _ => none

/-- The groups of an address and where the gap is, if there is one: so many groups stand before it. -/
structure Reading where
  groups : List Nat
  gap : Option Nat

/-- How many of the eight groups are accounted for; a gap stands for at least one. -/
def Reading.count (s : Reading) : Nat :=
  s.groups.length + s.gap.toList.length

/-- One more group. -/
def Reading.push (s : Reading) (group : Nat) : Reading :=
  { s with groups := s.groups ++ [group] }

/-- The hexadecimal digits of a group in front of a text, four at most. -/
def groupDigits (cs : List Char) : List Char :=
  (cs.take 4).takeWhile Text.Hex.isDigit

theorem length_drop_lt {cs r : List Char} {c : Char} {n : Nat} (h : cs.drop n = c :: r) :
    r.length < cs.length := by
  have := congrArg List.length h
  simp only [List.length_drop, List.length_cons] at this
  omega

/-- The groups of an address of which some have been read. -/
def readGroups? (s : Reading) (cs : List Char) : Option Reading :=
  match cs with
  | [] => some s
  | c :: r =>
    if s.count = 8 then none
    else if c = ':' then
      if s.gap.isSome then none else readGroups? { s with gap := some s.groups.length } r
    else
      let digits := groupDigits (c :: r)
      match h : (c :: r).drop digits.length with
      | [] => (Text.Hex.read? 0 digits).map s.push
      | d :: t =>
        if d = '.' then
          if digits.isEmpty ∨ 6 < s.count then none
          else (ipv4Groups? (c :: r)).map fun gs => { s with groups := s.groups ++ gs }
        else if d = ':' ∧ !t.isEmpty then
          have := length_drop_lt h
          (Text.Hex.read? 0 digits).bind fun group => readGroups? (s.push group) t
        else none
termination_by cs.length
decreasing_by
  · simp
  · exact this

/-- The address of the groups that have been read. -/
def Reading.address? (s : Reading) : Option Ipv6 :=
  match s.gap with
  | none => if s.groups.length = 8 then some ⟨s.groups⟩ else none
  | some n =>
    some ⟨s.groups.take n ++ List.replicate (8 - s.groups.length) 0 ++ s.groups.drop n⟩

/-- The address that a text stands for. -/
def parse? (cs : List Char) : Option Ipv6 :=
  let reading :=
    match cs with
    | ':' :: ':' :: r => readGroups? ⟨[], some 0⟩ r
    | ':' :: _ => none
    | cs => readGroups? ⟨[], none⟩ cs
  reading.bind Reading.address?

/-! ### Writing -/

/-- The start and length of the first of the longest runs of zeros, where the first group of the list
is group `i` and `best` is the run found before. -/
def longestZeros (best : Nat × Nat) (i : Nat) : List Nat → Nat × Nat
  | [] => best
  | g :: gs =>
    let run := ((g :: gs).takeWhile (· == 0)).length
    longestZeros (if best.2 < run then (i, run) else best) (i + 1) gs

/-- Groups with colons between them. -/
def groupsText (groups : List Nat) : List Char :=
  [':'].intercalate (groups.map Text.Hex.digits)

/-- An address as text, without brackets. -/
def text (a : Ipv6) : List Char :=
  let (start, length) := longestZeros (0, 0) 0 a.groups
  if 2 ≤ length then
    groupsText (a.groups.take start) ++ [':', ':'] ++ groupsText (a.groups.drop (start + length))
  else groupsText a.groups

end Ipv6

end DnsConsole.Url
