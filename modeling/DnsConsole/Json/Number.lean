import DnsConsole.Json.Text

/-!
# JSON numbers

A number is read in one of two ways: `readNumber` gives its value, an integer of 64 bits or else a
double, and `skipNumber` only checks its form.  A double is made of the first digits that fit 64 bits,
taken as a double, and the power of ten that the rest of the number comes to.
-/

namespace DnsConsole.Json

open Number (Binary64)
open Text.Decimal (isDigit value)

/-- The value of a number. -/
inductive NumberValue
  | integer (n : Int)
  | float (negative : Bool) (magnitude : Binary64)
  deriving DecidableEq, Repr

/-- Whether a text starts with a digit. -/
def startsWithDigit : List Char → Bool
  | [] => false
  | c :: _ => isDigit c

/-- A text without the digits in front. -/
def skipDigits (cs : List Char) : List Char :=
  cs.dropWhile isDigit

/-- A text without a sign in front, as an exponent may have one. -/
def skipSign : List Char → List Char
  | '+' :: r => r
  | '-' :: r => r
  | r => r

/-! ### Numbers that are passed over -/

/-- What follows an exponent, if there is one. -/
def skipExponent : List Char → Except Fault (List Char)
  | [] => .ok []
  | c :: r =>
    if c = 'e' ∨ c = 'E' then
      if startsWithDigit (skipSign r) then .ok (skipDigits (skipSign r))
      else fault .invalidNumber (skipSign r) 1
    else .ok (c :: r)

/-- What follows the decimals and the exponent, if there are any. -/
def skipFraction : List Char → Except Fault (List Char)
  | '.' :: r =>
    if startsWithDigit r then skipExponent (skipDigits r) else fault .invalidNumber r 1
  | r => skipExponent r

/-- What follows a number without its sign. -/
def skipUnsigned : List Char → Except Fault (List Char)
  | '0' :: r => if startsWithDigit r then fault .invalidNumber r 1 else skipFraction r
  | c :: r => if isDigit c then skipFraction (skipDigits r) else fault .invalidNumber (c :: r) 1
  | [] => fault .invalidNumber [] 0

/-- What follows a number. -/
def skipNumber : List Char → Except Fault (List Char)
  | '-' :: r => skipUnsigned r
  | r => skipUnsigned r

/-! ### Numbers that are kept -/

/-- The largest number of 64 bits. -/
def maxSignificand : Nat := 0xFFFFFFFFFFFFFFFF

/-- The digits in front that still fit 64 bits, read on from `n`, and the text behind them. -/
def digits64 (n : Nat) : List Char → Nat × List Char
  | [] => (n, [])
  | c :: r =>
    if isDigit c ∧ n * 10 + value c ≤ maxSignificand then digits64 (n * 10 + value c) r else (n, c :: r)

/-- The largest exponent that is kept exactly. -/
def maxExponent : Nat := 0x7FFFFFFF

/-- The digits of an exponent in front, read on from `n`, and the text behind them; on the way past
the largest exponent, only the text behind the digit that passed it. -/
def exponentDigits (n : Nat) : List Char → Option Nat × List Char
  | [] => (some n, [])
  | c :: r =>
    if isDigit c then
      if n * 10 + value c ≤ maxExponent then exponentDigits (n * 10 + value c) r else (none, r)
    else (some n, c :: r)

/-- A double with its sign and the text behind it; none stands for one that is too large. -/
def signed (negative : Bool) (rest : List Char) : Option Binary64 → Reading NumberValue
  | some x => .ok (.float negative x, rest)
  | none => fault .numberTooLarge rest 0

/-- The value of a number that is no integer, and the text behind it. -/
def floatValue (negative : Bool) (significand : Nat) (exponent : Int) (rest : List Char) :
    Reading NumberValue :=
  signed negative rest (Binary64.ofDecimal? significand exponent)

/-- A number whose exponent starts here, behind the letter. -/
def readExponent (negative : Bool) (significand : Nat) (start : Int) (cs : List Char) :
    Reading NumberValue :=
  let down := cs.head? == some '-'
  match skipSign cs with
  | [] => fault (.endOf .value) [] 0
  | c :: r =>
    if isDigit c then
      match exponentDigits (value c) r with
      | (some n, rest) => floatValue negative significand (if down then start - n else start + n) rest
      | (none, rest) =>
        if significand ≠ 0 ∧ !down then fault .numberTooLarge rest 0
        else .ok (.float negative Binary64.zero, skipDigits rest)
    else fault .invalidNumber (c :: r) 1

/-- A number whose exponent, if it has one, starts here. -/
def readScaled (negative : Bool) (significand : Nat) (exponent : Int) (cs : List Char) :
    Reading NumberValue :=
  match cs with
  | 'e' :: r => readExponent negative significand exponent r
  | 'E' :: r => readExponent negative significand exponent r
  | r => floatValue negative significand exponent r

/-- A number whose decimals start here, behind the point. -/
def readFraction (negative : Bool) (significand : Nat) (exponent : Int) (cs : List Char) :
    Reading NumberValue :=
  let (n, rest) := digits64 significand cs
  let count := cs.length - rest.length
  if startsWithDigit cs then readScaled negative n (exponent - count) (skipDigits rest)
  else
    match cs with
    | [] => fault (.endOf .value) [] 0
    | _ => fault .invalidNumber cs 1

/-- A number whose whole part has been read. -/
def readRest (negative : Bool) (significand : Nat) (cs : List Char) : Reading NumberValue :=
  match cs with
  | '.' :: r => readFraction negative significand 0 r
  | 'e' :: r => readExponent negative significand 0 r
  | 'E' :: r => readExponent negative significand 0 r
  | r =>
    if !negative then .ok (.integer significand, r)
    else if 1 ≤ significand ∧ significand ≤ 0x8000000000000000 then .ok (.integer (-significand), r)
    else floatValue true significand 0 r

/-- A number whose whole part goes on beyond 64 bits. -/
def readLong (negative : Bool) (significand : Nat) (cs : List Char) : Reading NumberValue :=
  let rest := skipDigits cs
  let count := cs.length - rest.length
  match rest with
  | '.' :: r => readFraction negative significand count r
  | r => readScaled negative significand count r

/-- A number without its sign. -/
def readUnsigned (negative : Bool) (cs : List Char) : Reading NumberValue :=
  match cs with
  | [] => fault (.endOf .value) [] 0
  | '0' :: r => if startsWithDigit r then fault .invalidNumber r 1 else readRest negative 0 r
  | c :: r =>
    if isDigit c then
      let (n, rest) := digits64 (value c) r
      if startsWithDigit rest then readLong negative n rest else readRest negative n rest
    else fault .invalidNumber (c :: r) 1

/-- A number. -/
def readNumber : List Char → Reading NumberValue
  | '-' :: r => readUnsigned true r
  | r => readUnsigned false r

/-! ### Lengths -/

theorem length_skipSign_le (cs : List Char) : (skipSign cs).length ≤ cs.length := by
  unfold skipSign
  split <;> simp

theorem length_skipDigits_le (cs : List Char) : (skipDigits cs).length ≤ cs.length :=
  length_dropWhile_le isDigit cs

theorem length_of_skipExponent {cs r : List Char} (h : skipExponent cs = .ok r) :
    r.length ≤ cs.length := by
  unfold skipExponent at h
  split at h
  · simp only [Except.ok.injEq] at h; simp [← h]
  · rename_i c t
    split at h
    · split at h
      · simp only [Except.ok.injEq] at h
        have h1 := length_skipDigits_le (skipSign t)
        have h2 := length_skipSign_le t
        rw [← h, List.length_cons]; omega
      · simp [fault] at h
    · simp only [Except.ok.injEq] at h; simp [← h]

theorem length_of_skipFraction {cs r : List Char} (h : skipFraction cs = .ok r) :
    r.length ≤ cs.length := by
  unfold skipFraction at h
  split at h
  · rename_i t
    split at h
    · have h1 := length_of_skipExponent h
      have h2 := length_skipDigits_le t
      rw [List.length_cons]; omega
    · simp [fault] at h
  · exact length_of_skipExponent h

theorem length_of_skipUnsigned {cs r : List Char} (h : skipUnsigned cs = .ok r) :
    r.length < cs.length := by
  unfold skipUnsigned at h
  split at h
  · split at h
    · simp [fault] at h
    · have := length_of_skipFraction h; rw [List.length_cons]; omega
  · rename_i c t _
    split at h
    · have h1 := length_of_skipFraction h
      have h2 := length_skipDigits_le t
      rw [List.length_cons]; omega
    · simp [fault] at h
  · simp [fault] at h

theorem length_of_skipNumber {cs r : List Char} (h : skipNumber cs = .ok r) :
    r.length < cs.length := by
  unfold skipNumber at h
  split at h
  · have := length_of_skipUnsigned h; rw [List.length_cons]; omega
  · exact length_of_skipUnsigned h

theorem length_digits64_le (n : Nat) (cs : List Char) : (digits64 n cs).2.length ≤ cs.length := by
  fun_induction digits64 n cs with
  | case1 => simp
  | case2 n c r _ ih => rw [List.length_cons]; omega
  | case3 => simp

theorem length_exponentDigits_le (n : Nat) (cs : List Char) :
    (exponentDigits n cs).2.length ≤ cs.length := by
  fun_induction exponentDigits n cs with
  | case1 => simp
  | case2 n c r _ _ ih => rw [List.length_cons]; omega
  | case3 => simp
  | case4 => simp

theorem eq_of_signed {negative : Bool} {cs r : List Char} {v : NumberValue} {x : Option Binary64}
    (h : signed negative cs x = .ok (v, r)) : r = cs := by
  cases x with
  | none => simp [signed, fault] at h
  | some x => simp only [signed, Except.ok.injEq, Prod.mk.injEq] at h; exact h.2.symm

theorem eq_of_floatValue {negative : Bool} {n : Nat} {e : Int} {cs r : List Char}
    {v : NumberValue} (h : floatValue negative n e cs = .ok (v, r)) : r = cs :=
  eq_of_signed h

theorem length_of_readExponent {negative : Bool} {n : Nat} {e : Int} {cs r : List Char}
    {v : NumberValue} (h : readExponent negative n e cs = .ok (v, r)) : r.length ≤ cs.length := by
  have hs := length_skipSign_le cs
  unfold readExponent at h
  simp only at h
  split at h
  · simp [fault] at h
  · rename_i c t ht
    rw [ht, List.length_cons] at hs
    split at h
    · have he := length_exponentDigits_le (Text.Decimal.value c) t
      split at h
      · rename_i m rest hm
        rw [hm] at he
        have := eq_of_floatValue h
        subst this; simp only at he; omega
      · rename_i rest hm
        rw [hm] at he
        split at h
        · simp [fault] at h
        · simp only [Except.ok.injEq, Prod.mk.injEq] at h
          have hd := length_skipDigits_le rest
          rw [← h.2]; simp only at he; omega
    · simp [fault] at h

theorem length_of_readScaled {negative : Bool} {n : Nat} {e : Int} {cs r : List Char}
    {v : NumberValue} (h : readScaled negative n e cs = .ok (v, r)) : r.length ≤ cs.length := by
  unfold readScaled at h
  split at h
  · have := length_of_readExponent h; rw [List.length_cons]; omega
  · have := length_of_readExponent h; rw [List.length_cons]; omega
  · exact Nat.le_of_eq (congrArg List.length (eq_of_floatValue h))

theorem length_of_readFraction {negative : Bool} {n : Nat} {e : Int} {cs r : List Char}
    {v : NumberValue} (h : readFraction negative n e cs = .ok (v, r)) : r.length ≤ cs.length := by
  have hd := length_digits64_le n cs
  unfold readFraction at h
  simp only at h
  split at h
  · have h1 := length_of_readScaled h
    have h2 := length_skipDigits_le (digits64 n cs).2
    omega
  · split at h <;> simp [fault] at h

theorem length_of_readRest {negative : Bool} {n : Nat} {cs r : List Char} {v : NumberValue}
    (h : readRest negative n cs = .ok (v, r)) : r.length ≤ cs.length := by
  unfold readRest at h
  split at h
  · have := length_of_readFraction h; rw [List.length_cons]; omega
  · have := length_of_readExponent h; rw [List.length_cons]; omega
  · have := length_of_readExponent h; rw [List.length_cons]; omega
  · split at h
    · simp only [Except.ok.injEq, Prod.mk.injEq] at h; simp [h.2]
    · split at h
      · simp only [Except.ok.injEq, Prod.mk.injEq] at h; simp [h.2]
      · exact Nat.le_of_eq (congrArg List.length (eq_of_floatValue h))

theorem length_of_readLong {negative : Bool} {n : Nat} {cs r : List Char} {v : NumberValue}
    (h : readLong negative n cs = .ok (v, r)) : r.length ≤ cs.length := by
  have hd := length_skipDigits_le cs
  unfold readLong at h
  simp only at h
  split at h
  · rename_i t ht
    rw [ht, List.length_cons] at hd
    have := length_of_readFraction h; omega
  · have := length_of_readScaled h; omega

theorem length_of_readUnsigned {negative : Bool} {cs r : List Char} {v : NumberValue}
    (h : readUnsigned negative cs = .ok (v, r)) : r.length < cs.length := by
  unfold readUnsigned at h
  split at h
  · simp [fault] at h
  · split at h
    · simp [fault] at h
    · have := length_of_readRest h; rw [List.length_cons]; omega
  · rename_i c t _
    have hd := length_digits64_le (value c) t
    split at h
    · simp only at h
      split at h
      · have := length_of_readLong h; rw [List.length_cons]; omega
      · have := length_of_readRest h; rw [List.length_cons]; omega
    · simp [fault] at h

theorem length_of_readNumber {cs r : List Char} {v : NumberValue}
    (h : readNumber cs = .ok (v, r)) : r.length < cs.length := by
  unfold readNumber at h
  split at h
  · have := length_of_readUnsigned h; rw [List.length_cons]; omega
  · exact length_of_readUnsigned h

end DnsConsole.Json
