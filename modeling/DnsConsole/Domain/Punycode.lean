/-!
# Punycode

A label with characters outside ASCII is written in ASCII: its ASCII characters, a hyphen, and then
one number for each of the others, in ascending order of code point.  A number says how many steps
of a counter lie before the next insertion, where the counter runs through the places of the label
for one code point after the other; it is written in base 36 with digits whose weights depend on a
bias that follows the numbers seen before.  `Punycode.encode` and `Punycode.decode?` go the two ways;
reading keeps its numbers below 2³² and gives up beyond that.
-/

namespace DnsConsole.Domain.Punycode

/-! ### Digits and the bias -/

/-- The digit for a value below 36. -/
def digit (n : Nat) : Char :=
  if n < 26 then Char.ofNat (97 + n) else Char.ofNat (22 + n)

/-- The value of a digit. -/
def value? (c : Char) : Option Nat :=
  if 'a' ≤ c ∧ c ≤ 'z' then some (c.toNat - 97)
  else if 'A' ≤ c ∧ c ≤ 'Z' then some (c.toNat - 65)
  else if '0' ≤ c ∧ c ≤ '9' then some (c.toNat - 22)
  else none

/-- The digit of weight class `k` that ends a number, as a bound between 1 and 26. -/
def threshold (bias k : Nat) : Nat :=
  min 26 (max 1 (k - bias))

theorem one_le_threshold (bias k : Nat) : 1 ≤ threshold bias k := by
  unfold threshold; omega

theorem threshold_le (bias k : Nat) : threshold bias k ≤ 26 := by
  unfold threshold; omega

/-- The bias that fits numbers of size `delta`, with `k` for what was divided off before. -/
def settle (delta k : Nat) : Nat :=
  if delta ≤ 455 then k + 36 * delta / (delta + 38)
  else settle (delta / 35) (k + 36)
termination_by delta
decreasing_by omega

/-- The bias behind the number `delta`, when `count` characters are in place. -/
def adapt (delta count : Nat) (first : Bool) : Nat :=
  let delta := if first then delta / 700 else delta / 2
  settle (delta + delta / count) 0

/-- The bias at the start of a label. -/
def initialBias : Nat := 72

/-! ### Writing -/

/-- The digits of a number, from weight class `k` on. -/
def writeNumber (bias k n : Nat) : List Char :=
  let t := threshold bias k
  if n < t then [digit n]
  else digit (t + (n - t) % (36 - t)) :: writeNumber bias (k + 36) ((n - t) / (36 - t))
termination_by n
decreasing_by
  have h := one_le_threshold bias k
  exact Nat.lt_of_le_of_lt (Nat.div_le_self _ _) (by omega)

/-- Where writing stands: the digits so far, the bias, the steps since the last insertion, and the
number of characters in place. -/
structure Writing where
  written : List Char
  bias : Nat
  delta : Nat
  placed : Nat

/-- One place of the label while the counter runs for the code point `n`. -/
def Writing.step (basic n : Nat) (s : Writing) (c : Char) : Writing :=
  if c.toNat < n then { s with delta := s.delta + 1 }
  else if c.toNat = n then
    { written := s.written ++ writeNumber s.bias 36 s.delta
      bias := adapt s.delta (s.placed + 1) (s.placed == basic)
      delta := 0
      placed := s.placed + 1 }
  else s

/-- The runs of the counter for the code points `ns`, which are ascending and not below `from`. -/
def Writing.run (label : List Char) (basic : Nat) (s : Writing) (start : Nat) : List Nat → Writing
  | [] => s
  | n :: ns =>
    let s := { s with delta := s.delta + (n - start) * (s.placed + 1) }
    let s := label.foldl (Writing.step basic n) s
    Writing.run label basic { s with delta := s.delta + 1 } (n + 1) ns

/-- The code points of a label outside ASCII, ascending, each once. -/
def codePoints (label : List Char) : List Nat :=
  (label.map Char.toNat |>.filter (128 ≤ ·) |>.mergeSort (· ≤ ·)).eraseReps

/-- A label in ASCII, without the mark that says so. -/
def encode (label : List Char) : List Char :=
  let basic := label.filter (·.toNat < 128)
  let start := if basic.isEmpty then [] else basic ++ ['-']
  (Writing.run label basic.length ⟨start, initialBias, 0, basic.length⟩ 128 (codePoints label)).written

/-! ### Reading -/

/-- The largest number that is read. -/
def maxNumber : Nat := 0xFFFFFFFF

/-- The number that the next digits spell, added to `n`, and the text behind them. -/
def readNumber? (bias : Nat) : List Char → (n weight k : Nat) → Option (Nat × List Char)
  | [], _, _, _ => none
  | c :: r, n, weight, k =>
    match value? c with
    | none => none
    | some d =>
      let n := n + d * weight
      let t := threshold bias k
      if maxNumber < n then none
      else if d < t then some (n, r)
      else if maxNumber < weight * (36 - t) then none
      else readNumber? bias r n (weight * (36 - t)) (k + 36)

theorem length_of_readNumber? {bias n weight k m : Nat} {cs r : List Char}
    (h : readNumber? bias cs n weight k = some (m, r)) : r.length < cs.length := by
  induction cs generalizing n weight k with
  | nil => simp [readNumber?] at h
  | cons c t ih =>
    simp only [readNumber?] at h
    split at h
    · simp at h
    · split at h
      · simp at h
      · split at h
        · simp only [Option.some.injEq, Prod.mk.injEq] at h
          simp [h.2]
        · split at h
          · simp at h
          · exact Nat.lt_succ_of_lt (ih h)

/-- The label with one insertion for each number in `cs`; the counter stands at place `i` of code
point `n`. -/
def insertions? (cs label : List Char) (n i bias : Nat) : Option (List Char) :=
  if cs.isEmpty then some label
  else
    match h : readNumber? bias cs i 1 36 with
    | none => none
    | some (j, r) =>
      let count := label.length + 1
      let n := n + j / count
      if n.isValidChar then
        have := length_of_readNumber? h
        insertions? r (label.insertIdx (j % count) (Char.ofNat n)) n (j % count + 1)
          (adapt (j - i) count (i == 0))
      else none
termination_by cs.length

/-- The label that an ASCII text stands for. -/
def decode? (cs : List Char) : Option (List Char) :=
  match cs.reverse.span (· ≠ '-') with
  | (digits, _ :: basic) =>
    if basic.isEmpty then insertions? cs [] 128 0 initialBias
    else insertions? digits.reverse basic.reverse 128 0 initialBias
  | (_, []) => insertions? cs [] 128 0 initialBias

end DnsConsole.Domain.Punycode
