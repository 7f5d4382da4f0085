/-!
# Double precision, exactly

A nonnegative finite double is a natural number of units of 2⁻¹⁰⁷⁴, the least positive one; with 53
significant bits the doubles are the numbers of units that have at most 53 bits in front of a run of
zeros.  `Binary64.ofRatio?` rounds a fraction to the nearest of them, a tie going to the one with an
even significand, and gives nothing where the result would reach 2¹⁰²⁴.  Products and quotients are
rounded fractions.
-/

namespace DnsConsole.Number

/-- A nonnegative finite double, as a number of units of 2⁻¹⁰⁷⁴. -/
structure Binary64 where
  units : Nat
  deriving DecidableEq, Repr

namespace Binary64

/-- The number of units in one. -/
def one : Nat := Nat.pow 2 1074

/-- The number of units that is too large: that of 2¹⁰²⁴. -/
def bound : Nat := Nat.pow 2 2098

/-- The least significand of 53 bits. -/
def leastSignificand : Nat := 0x10000000000000

/-- The quotient of two numbers, rounded to the nearest, ties to even. -/
def roundQuotient (n d : Nat) : Nat :=
  let q := n / d
  let r := n % d
  if 2 * r < d ∨ (2 * r = d ∧ q % 2 = 0) then q else q + 1

/-- The distance between neighbouring doubles from `units` upwards. -/
def gap (units : Nat) : Nat :=
  if units < 2 * leastSignificand then 1 else Nat.pow 2 (Nat.log2 units - 52)

/-- The double nearest to `n / d`; `none` if it is too large for one. -/
def ofRatio? (n d : Nat) : Option Binary64 :=
  let g := gap (n * one / d)
  let units := roundQuotient (n * one) (d * g) * g
  if units < bound then some ⟨units⟩ else none

/-- The double nearest to a natural number. -/
def ofNat? (n : Nat) : Option Binary64 :=
  ofRatio? n 1

/-- Zero. -/
def zero : Binary64 := ⟨0⟩

/-- The product of two doubles, rounded. -/
def mul? (a b : Binary64) : Option Binary64 :=
  ofRatio? (a.units * b.units) (one * one)

/-- The quotient of two doubles, rounded. -/
def div? (a b : Binary64) : Option Binary64 :=
  ofRatio? a.units b.units

/-- The double nearest to a power of ten. -/
def powerOfTen? (n : Nat) : Option Binary64 :=
  ofNat? (Nat.pow 10 n)

/-- The largest exponent of ten whose power is a finite double. -/
def maxPower : Nat := 308

/-- The double for `m` times a power of ten: the double nearest to `m`, multiplied or divided by the
one nearest to the power, in steps of 10³⁰⁸ while the exponent is below them.  `none` if the result is
too large. -/
def scaled? (m : Binary64) (exponent : Int) : Option Binary64 :=
  if exponent.natAbs ≤ maxPower then
    (powerOfTen? exponent.natAbs).bind fun p => if 0 ≤ exponent then m.mul? p else m.div? p
  else if m.units = 0 then some m
  else if 0 ≤ exponent then none
  else
    ((powerOfTen? maxPower).bind m.div?).bind fun m => scaled? m (exponent + maxPower)
termination_by exponent.natAbs
decreasing_by simp only [maxPower] at *; omega

/-- The double for a whole number times a power of ten. -/
def ofDecimal? (significand : Nat) (exponent : Int) : Option Binary64 :=
  (ofNat? significand).bind (·.scaled? exponent)

end Binary64

end DnsConsole.Number
