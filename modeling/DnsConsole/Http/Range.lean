import DnsConsole.Text.Numerals
import DnsConsole.Text.Pieces

/-!
# Ranges

A request may ask for parts of a file: `bytes=0-99`, `bytes=100-` for everything from a place on, or
`bytes=-5` for the last bytes.  A header of several parts is understood but only refused: `Selection` is
the outcome for a file of some size.
-/

namespace DnsConsole.Http.Range

/-- One part of a range header. -/
inductive Part
  | onward (first : Nat)
  | between (first last : Nat)
  | suffix (length : Nat)
  deriving DecidableEq, Repr

/-- The number of at most 64 bits that a text spells without a superfluous zero. -/
def number? (cs : List Char) : Option Nat := do
  let n ← Text.Decimal.read? cs
  if n ≤ 0xFFFFFFFFFFFFFFFF ∧ (cs.length = 1 ∨ cs.head? ≠ some '0') then some n else none

/-- The part that a text spells; one space may stand in front of it. -/
def part? (cs : List Char) : Option Part := do
  let cs := match cs with
    | c :: r => if Text.isSpaceOrTab c then r else c :: r
    | [] => []
  match Text.split '-' cs with
  | [[], last] => do
    let n ← number? last
    if n = 0 then none else some (.suffix n)
  | [first, []] => (number? first).map .onward
  | [first, last] => do return .between (← number? first) (← number? last)
  | _ => none

/-- The parts of a range header. -/
def parts? (value : List Char) : Option (List Part) :=
  if "bytes=".toList.isPrefixOf value then
    let cs := value.drop 6
    if cs.head?.any Text.isSpaceOrTab then none else (Text.split ',' cs).mapM part?
  else none

/-- The first and the last byte of a part, in a file of some size.  The last byte of an empty file is
taken to be byte 0. -/
def Part.bounds? (size : Nat) (p : Part) : Option (Nat × Nat) :=
  let bounded (first last : Nat) : Option (Nat × Nat) :=
    if first ≤ last then some (first, last) else none
  match p with
  | onward first => bounded first (size - 1)
  | between first last => bounded first (min last (size - 1))
  | suffix length => if size < length then none else bounded (size - length) (size - 1)

/-- Whether no two of the parts have a byte in common. -/
def areDisjoint : List (Nat × Nat) → Bool
  | [] => true
  | a :: rest => rest.all (fun b => decide (a.2 < b.1 ∨ b.2 < a.1)) && areDisjoint rest

/-- What a range header selects. -/
inductive Selection
  | whole
  | part (first last : Nat)
  | several
  | unsatisfiable
  deriving DecidableEq, Repr

/-- What a range header selects of a file of some size. -/
def select (header : Option (List Char)) (size : Nat) : Selection :=
  match header with
  | none => .whole
  | some value =>
    match parts? value >>= fun parts => parts.mapM (Part.bounds? size) with
    | none => .unsatisfiable
    | some [] => .unsatisfiable
    | some [(first, last)] => .part first last
    | some bounds => if areDisjoint bounds then .several else .unsatisfiable

end DnsConsole.Http.Range
