import DnsConsole.Number.Binary64
import DnsConsole.Text.Numerals

/-!
# The shortest decimal of a double

A double is written with the fewest digits that read back as the same double.  For one digit, two
digits and so on the two neighbours of the double on that decimal grid are tested against the interval
of numbers that round to it; the first grid with a hit gives the digits, of two hits the nearer one.
`written` puts the point: positional from 10⁻⁵ to below 10¹⁶ with at least one decimal, and with an
exponent elsewhere.
-/

namespace DnsConsole.Number

/-- A decimal `digits · 10 ^ exponent`. -/
structure Scientific where
  digits : Nat
  exponent : Int
  deriving DecidableEq, Repr

namespace Binary64

/-- The exponent of the leading decimal digit of a double that is not zero. -/
def leadingExponent (x : Binary64) : Int :=
  if one ≤ x.units then ((Text.Decimal.digits (x.units / one)).length : Int) - 1
  else -((Text.Decimal.digits ((one - 1) / x.units)).length : Int)

/-- Whether four times `candidate` lies in the interval of numbers that round to `x`, both scaled by
`scale`. -/
def roundsTo (x : Binary64) (scale candidate : Nat) : Bool :=
  let above := gap x.units
  let below := if 1 < above ∧ x.units = above * leastSignificand then above / 2 else above
  let low := (4 * x.units - 2 * below) * scale
  let high := (4 * x.units + 2 * above) * scale
  if x.units / above % 2 = 0 then low ≤ 4 * candidate && 4 * candidate ≤ high
  else low < 4 * candidate && 4 * candidate < high

/-- The decimal on the grid of `10 ^ exponent` that reads back as `x`, the nearer one if two do. -/
def onGrid? (x : Binary64) (exponent : Int) : Option Scientific :=
  let scale := Nat.pow 10 (-exponent).toNat
  let step := Nat.pow 10 exponent.toNat * one
  let d := x.units * scale / step
  let low := roundsTo x scale (d * step)
  let high := roundsTo x scale ((d + 1) * step)
  let rest := x.units * scale - d * step
  if low && (!high || 2 * rest < step || (2 * rest == step && d % 2 == 0)) then some ⟨d, exponent⟩
  else if high then some ⟨d + 1, exponent⟩
  else none

/-- The shortest decimal that reads back as a double. -/
def shortest (x : Binary64) : Scientific :=
  let lead := leadingExponent x
  ((List.range 17).findSome? fun (n : Nat) => onGrid? x (lead - (n : Int))).getD ⟨0, 0⟩

end Binary64

namespace Scientific

/-- The digits without zeros at the end, and the exponent that makes up for them. -/
def trimmed (s : Scientific) : List Char × Int :=
  let ds := Text.Decimal.digits s.digits
  let zeros := (ds.reverse.takeWhile (· == '0')).length
  (ds.take (ds.length - zeros), s.exponent + zeros)

/-- A decimal as text. -/
def written (s : Scientific) : List Char :=
  let (ds, exponent) := s.trimmed
  let point : Int := ds.length + exponent
  if 0 < point ∧ point ≤ 16 then
    let whole := ds.take point.toNat ++ List.replicate (point.toNat - ds.length) '0'
    let part := ds.drop point.toNat
    whole ++ '.' :: (if part.isEmpty then ['0'] else part)
  else if -5 < point ∧ point ≤ 0 then
    ['0', '.'] ++ List.replicate (-point).toNat '0' ++ ds
  else
    let mantissa :=
      match ds with
      | [] => []
      | [d] => [d]
      | d :: r => d :: '.' :: r
    let size := Text.Decimal.digits (point - 1).natAbs
    mantissa ++ 'e' :: (if point - 1 < 0 then '-' else '+') :: size

end Scientific

/-- A double as text. -/
def Binary64.written (x : Binary64) : List Char :=
  if x.units = 0 then ['0', '.', '0'] else x.shortest.written

end DnsConsole.Number
