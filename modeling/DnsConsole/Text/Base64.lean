/-!
# Base64

The standard alphabet with padding: three bytes are written as four digits of six bits, and a last
group of one or two bytes is filled up with `=`.  `Base64.decode?` reads exactly what
`Base64.encode` writes, so the credentials in a header can be taken out again.
-/

namespace DnsConsole.Text.Base64

/-- The digit for six bits. -/
def digit (n : Nat) : Char :=
  if n < 26 then Char.ofNat (65 + n)
  else if n < 52 then Char.ofNat (97 + (n - 26))
  else if n < 62 then Char.ofNat (48 + (n - 52))
  else if n = 62 then '+'
  else '/'

/-- The six bits of a digit. -/
def value? (c : Char) : Option Nat :=
  if 'A' ≤ c ∧ c ≤ 'Z' then some (c.toNat - 65)
  else if 'a' ≤ c ∧ c ≤ 'z' then some (c.toNat - 97 + 26)
  else if '0' ≤ c ∧ c ≤ '9' then some (c.toNat - 48 + 52)
  else if c = '+' then some 62
  else if c = '/' then some 63
  else none

/-- The base64 text of some bytes. -/
def encode : List UInt8 → List Char
  | [] => []
  | [a] =>
    let n := a.toNat * 16
    [digit (n / 64), digit (n % 64), '=', '=']
  | [a, b] =>
    let n := (a.toNat * 256 + b.toNat) * 4
    [digit (n / 4096), digit (n / 64 % 64), digit (n % 64), '=']
  | a :: b :: c :: r =>
    let n := (a.toNat * 256 + b.toNat) * 256 + c.toNat
    digit (n / 262144) :: digit (n / 4096 % 64) :: digit (n / 64 % 64) :: digit (n % 64) :: encode r

/-- The bytes of a last group that is padded; the bits behind them have to be zero. -/
def decodeLast? (p q r : Char) : Option (List UInt8) := do
  let p ← value? p
  let q ← value? q
  if r = '=' then
    if q % 16 = 0 then some [UInt8.ofNat (p * 4 + q / 16)] else none
  else
    let r ← value? r
    let n := (p * 64 + q) * 64 + r
    if r % 4 = 0 then some [UInt8.ofNat (n / 1024), UInt8.ofNat (n / 4)] else none

/-- The bytes of a full group. -/
def decodeGroup? (p q r s : Char) : Option (List UInt8) := do
  let n := (((← value? p) * 64 + (← value? q)) * 64 + (← value? r)) * 64 + (← value? s)
  return [UInt8.ofNat (n / 65536), UInt8.ofNat (n / 256), UInt8.ofNat n]

/-- The bytes that a base64 text stands for. -/
def decode? : List Char → Option (List UInt8)
  | [] => some []
  | [p, q, r, '='] => decodeLast? p q r
  | p :: q :: r :: s :: t => do
    let group ← decodeGroup? p q r s
    let rest ← decode? t
    return group ++ rest
  | _ => none

end DnsConsole.Text.Base64
