/-!
# Numbers as text

Ports, statuses, lengths and dates are written as decimal digits without a leading zero
(`Decimal.digits`) and read with any number of leading zeros (`Decimal.read?`).  That reader is not
bounded; a setting that is a number has a largest value, and `Number.Unsigned.read` reads it digit by
digit: one leading `+` is allowed, and the first character that is no digit and the first digit that makes
the number too large both end the reading.

Percent escapes, the escapes of JSON strings, IPv6 addresses and the hexadecimal parts of IPv4
addresses all read hexadecimal digits of either case; what is written uses the lower case.
-/

/-! ### Decimal digits -/

namespace DnsConsole.Text.Decimal

/-- Whether a character is an ASCII digit. -/
def isDigit (c : Char) : Bool :=
  '0' ≤ c && c ≤ '9'

/-- The value of an ASCII digit. -/
def value (c : Char) : Nat :=
  c.toNat - 48

/-- The number that a text of digits spells, read on from `n`. -/
def number (n : Nat) (cs : List Char) : Nat :=
  cs.foldl (fun n c => n * 10 + value c) n

/-- The number that a text spells; `none` unless it is one or more ASCII digits. -/
def read? (cs : List Char) : Option Nat :=
  if !cs.isEmpty && cs.all isDigit then some (number 0 cs) else none

/-- The digits of a number, without a leading zero. -/
def digits (n : Nat) : List Char :=
  Nat.toDigits 10 n

/-- A number as text. -/
def text (n : Nat) : String :=
  String.ofList (digits n)

/-- A number in exactly `width` digits, with leading zeros; its last `width` digits if it has more. -/
def padded : Nat → Nat → List Char
  | 0, _ => []
  | width + 1, n => padded width (n / 10) ++ [Nat.digitChar (n % 10)]

end DnsConsole.Text.Decimal

/-! ### Hexadecimal digits -/

namespace DnsConsole.Text.Hex

/-- The value of a hexadecimal digit of either case. -/
def value? (c : Char) : Option Nat :=
  if '0' ≤ c ∧ c ≤ '9' then some (c.toNat - 48)
  else if 'a' ≤ c ∧ c ≤ 'f' then some (c.toNat - 87)
  else if 'A' ≤ c ∧ c ≤ 'F' then some (c.toNat - 55)
  else none

/-- Whether a character is a hexadecimal digit. -/
def isDigit (c : Char) : Bool :=
  (value? c).isSome

/-- The number that hexadecimal digits spell, read on from `n`; `none` if one is no digit. -/
def read? (n : Nat) : List Char → Option Nat
  | [] => some n
  | c :: cs => (value? c).bind fun d => read? (n * 16 + d) cs

/-- The hexadecimal digits of a number: no leading zero, lower case. -/
def digits (n : Nat) : List Char :=
  Nat.toDigits 16 n

/-- The two hexadecimal digits of a byte. -/
def pair (b : UInt8) : List Char :=
  [Nat.digitChar (b.toNat / 16), Nat.digitChar (b.toNat % 16)]

/-- The bytes that pairs of hexadecimal digits spell. -/
def bytes? : List Char → Option (List UInt8)
  | [] => some []
  | [_] => none
  | a :: b :: r =>
    (read? 0 [a, b]).bind fun n => (bytes? r).map (UInt8.ofNat n :: ·)

end DnsConsole.Text.Hex

/-! ### Numbers with a bound -/

namespace DnsConsole.Number.Unsigned

/-- Why a text is no number up to the largest value. -/
inductive ReadError
  | empty
  | invalidDigit
  | tooLarge
  deriving DecidableEq, Repr

/-- An error in words. -/
def ReadError.message : ReadError → String
  | empty => "cannot parse integer from empty string"
  | invalidDigit => "invalid digit found in string"
  | tooLarge => "number too large to fit in target type"

/-- The number that the digits spell, read on from `n`. -/
def readDigits (max : Nat) (n : Nat) : List Char → Except ReadError Nat
  | [] => .ok n
  | c :: r =>
    if !Text.Decimal.isDigit c then .error .invalidDigit
    else
      let m := n * 10 + Text.Decimal.value c
      if max < m then .error .tooLarge else readDigits max m r

/-- The number up to `max` that a text spells. -/
def read (max : Nat) : List Char → Except ReadError Nat
  | [] => .error .empty
  | ['+'] => .error .invalidDigit
  | '+' :: r => readDigits max 0 r
  | cs => readDigits max 0 cs

end DnsConsole.Number.Unsigned
