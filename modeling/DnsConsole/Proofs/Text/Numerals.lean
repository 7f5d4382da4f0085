import DnsConsole.Text.Numerals
import Mathlib.Data.Nat.Digits.Defs

/-!
# Numbers as text

Decimal and hexadecimal digits are read back as the number that they were written for
(`Decimal.read?_digits`, `Hex.read?_digits`), and what is read of so many hexadecimal digits has no more
than so many (`Hex.read?_lt`).

A text is read as a number with a bound exactly if it spells one that is not too large (`read_eq_ok_iff`).
The reader gives up at the first digit that makes the number too large; since more digits never make a
number smaller (`Decimal.le_number`), it loses nothing by that.
-/

namespace DnsConsole.Text

/-! ### Decimal -/

namespace Decimal

theorem number_append (n : Nat) (a b : List Char) :
    number n (a ++ b) = number (number n a) b :=
  List.foldl_append

theorem number_cons (c : Char) (cs : List Char) : number 0 (c :: cs) = number (value c) cs := by
  change number (0 * 10 + value c) cs = number (value c) cs
  rw [Nat.zero_mul, Nat.zero_add]

theorem le_number (n : Nat) (cs : List Char) : n ≤ number n cs := by
  induction cs generalizing n with
  | nil => exact Nat.le_refl n
  | cons c cs ih =>
    have h := ih (n * 10 + value c)
    change n ≤ number (n * 10 + value c) cs
    omega

theorem value_digitChar {d : Nat} (h : d < 10) : value d.digitChar = d := by
  revert d
  decide

theorem isDigit_digitChar {d : Nat} (h : d < 10) : isDigit d.digitChar = true := by
  revert d
  decide

theorem toNat_lt_of_isDigit {c : Char} (h : isDigit c = true) : c.toNat < 128 := by
  simp only [isDigit, Bool.and_eq_true, decide_eq_true_eq] at h
  exact Nat.lt_of_le_of_lt (UInt32.le_iff_toNat_le.mp h.2) (by decide)

theorem number_digits (n : Nat) : number 0 (digits n) = n := by
  induction n using Nat.strongRecOn with
  | ind n ih =>
    unfold digits
    by_cases h : n < 10
    · rw [Nat.toDigits_of_lt_base h]
      change 0 * 10 + value n.digitChar = n
      rw [value_digitChar h]
      omega
    · rw [Nat.toDigits_of_base_le (by decide) (Nat.le_of_not_lt h), number_append]
      change number 0 (digits (n / 10)) * 10 + value (n % 10).digitChar = n
      rw [ih (n / 10) (by omega), value_digitChar (Nat.mod_lt n (by decide))]
      omega

theorem digits_ne_nil (n : Nat) : digits n ≠ [] :=
  Nat.toDigits_ne_nil

theorem isDigit_of_mem_digits {n : Nat} {c : Char} (h : c ∈ digits n) : isDigit c = true := by
  induction n using Nat.strongRecOn with
  | ind n ih =>
    unfold digits at h
    by_cases hn : n < 10
    · rw [Nat.toDigits_of_lt_base hn] at h
      cases List.mem_singleton.mp h
      exact isDigit_digitChar hn
    · rw [Nat.toDigits_of_base_le (by decide) (Nat.le_of_not_lt hn)] at h
      rcases List.mem_append.mp h with h | h
      · exact ih (n / 10) (by omega) h
      · cases List.mem_singleton.mp h
        exact isDigit_digitChar (Nat.mod_lt n (by decide))

theorem length_digits_le {n k : Nat} (hk : 0 < k) (h : n < 10 ^ k) : (digits n).length ≤ k :=
  Nat.toDigits_length 10 n k hk h

/-- Only zero is written with a zero in front. -/
theorem head?_digits {n : Nat} (h : n ≠ 0) : (digits n).head? ≠ some '0' := by
  induction n using Nat.strongRecOn with
  | ind n ih =>
    unfold digits
    by_cases hn : n < 10
    · rw [Nat.toDigits_of_lt_base hn]
      intro hhead
      have hzero : n.digitChar = '0' := Option.some.inj hhead
      have hvalue := value_digitChar hn
      rw [hzero] at hvalue
      exact h hvalue.symm
    · have hfront := ih (n / 10) (by omega) (by omega)
      obtain ⟨c, t, hct⟩ := List.exists_cons_of_ne_nil (digits_ne_nil (n / 10))
      unfold digits at hct hfront
      rw [Nat.toDigits_of_base_le (by decide) (Nat.le_of_not_lt hn), hct]
      rw [hct] at hfront
      exact hfront

theorem read?_digits (n : Nat) : read? (digits n) = some n := by
  have hall : (digits n).all isDigit = true :=
    List.all_eq_true.mpr fun _ hc => isDigit_of_mem_digits hc
  have hne : (digits n).isEmpty = false := by
    rw [List.isEmpty_eq_false_iff]
    exact digits_ne_nil n
  unfold read?
  rw [hall, hne, number_digits]
  rfl

end Decimal

/-! ### Hexadecimal -/

namespace Hex

theorem value?_digitChar {d : Nat} (h : d < 16) : value? d.digitChar = some d := by
  revert d
  decide

theorem value?_lt {c : Char} {d : Nat} (h : value? c = some d) : d < 16 := by
  unfold value? at h
  split at h
  next hc =>
    have hle : c.toNat ≤ 57 := UInt32.le_iff_toNat_le.mp hc.2
    cases h
    omega
  next =>
    split at h
    next hc =>
      have hle : c.toNat ≤ 102 := UInt32.le_iff_toNat_le.mp hc.2
      cases h
      omega
    next =>
      split at h
      next hc =>
        have hle : c.toNat ≤ 70 := UInt32.le_iff_toNat_le.mp hc.2
        cases h
        omega
      next => cases h

theorem read?_append (n : Nat) (a b : List Char) :
    read? n (a ++ b) = (read? n a).bind fun m => read? m b := by
  induction a generalizing n with
  | nil => rfl
  | cons c a ih =>
    rw [List.cons_append, read?, read?]
    cases value? c with
    | none => rfl
    | some d => exact ih (n * 16 + d)

theorem read?_digits (n : Nat) : read? 0 (digits n) = some n := by
  induction n using Nat.strongRecOn with
  | ind n ih =>
    unfold digits
    by_cases h : n < 16
    · rw [Nat.toDigits_of_lt_base h, read?, value?_digitChar h]
      change some (0 * 16 + n) = some n
      rw [Nat.zero_mul, Nat.zero_add]
    · rw [Nat.toDigits_of_base_le (by decide) (Nat.le_of_not_lt h), read?_append]
      rw [show read? 0 (Nat.toDigits 16 (n / 16)) = some (n / 16) from ih (n / 16) (by omega)]
      change (value? (n % 16).digitChar).bind (fun d => some (n / 16 * 16 + d)) = some n
      rw [value?_digitChar (Nat.mod_lt n (by decide))]
      exact congrArg some (Nat.div_add_mod' n 16)

theorem digits_ne_nil (n : Nat) : digits n ≠ [] :=
  Nat.toDigits_ne_nil

/-- What is read of `k` digits behind `n`. -/
theorem read?_lt {n m : Nat} {cs : List Char} (h : read? n cs = some m) :
    m < (n + 1) * 16 ^ cs.length := by
  induction cs generalizing n with
  | nil =>
    cases h
    rw [List.length_nil, Nat.pow_zero, Nat.mul_one]
    exact Nat.lt_succ_self m
  | cons c r ih =>
    rw [read?] at h
    cases hc : value? c with
    | none =>
      rw [hc] at h
      cases h
    | some d =>
      rw [hc] at h
      have hd := value?_lt hc
      calc
        m < (n * 16 + d + 1) * 16 ^ r.length := ih h
        _ ≤ ((n + 1) * 16) * 16 ^ r.length := Nat.mul_le_mul_right _ (by omega)
        _ = (n + 1) * 16 ^ (c :: r).length := by
          rw [List.length_cons, Nat.pow_succ', Nat.mul_assoc]

theorem isDigit_of_read? {n m : Nat} {cs : List Char} (h : read? n cs = some m) {c : Char}
    (hc : c ∈ cs) : isDigit c = true := by
  induction cs generalizing n with
  | nil => cases hc
  | cons d r ih =>
    rw [read?] at h
    cases hd : value? d with
    | none =>
      rw [hd] at h
      cases h
    | some v =>
      rw [hd] at h
      rcases List.mem_cons.mp hc with rfl | hc
      · unfold isDigit
        rw [hd]
        rfl
      · exact ih h hc

theorem isDigit_of_mem_digits {n : Nat} {c : Char} (h : c ∈ digits n) : isDigit c = true :=
  isDigit_of_read? (read?_digits n) h

theorem length_digits_le {n k : Nat} (hk : 0 < k) (h : n < 16 ^ k) : (digits n).length ≤ k :=
  Nat.toDigits_length 16 n k hk h

end Hex

end DnsConsole.Text

/-! ### Numbers with a bound -/

namespace DnsConsole.Number.Unsigned

open Text.Decimal (isDigit value number le_number)

/-- A text that spells a number: one or more digits, with a plus sign in front of them or without. -/
inductive Spells : List Char → Nat → Prop
  | plain {w : List Char} (hne : w ≠ []) (h : ∀ c ∈ w, isDigit c = true) : Spells w (number 0 w)
  | signed {w : List Char} (hne : w ≠ []) (h : ∀ c ∈ w, isDigit c = true) :
    Spells ('+' :: w) (number 0 w)

theorem Spells.ne_nil {cs : List Char} {n : Nat} (h : Spells cs n) : cs ≠ [] := by
  cases h with
  | plain hne => exact hne
  | signed => exact List.cons_ne_nil _ _

theorem not_digits_signed {w : List Char} : ¬ ∀ c ∈ '+' :: w, isDigit c = true :=
  fun h => Bool.false_ne_true (h '+' List.mem_cons_self)

/-- A text spells one number at most. -/
theorem Spells.unique {cs : List Char} {n m : Nat} (hn : Spells cs n) (hm : Spells cs m) : n = m := by
  cases hn with
  | plain _ h =>
    cases hm with
    | plain => rfl
    | signed => exact absurd h not_digits_signed
  | signed =>
    cases hm with
    | plain _ h => exact absurd h not_digits_signed
    | signed => rfl

theorem readDigits_eq_ok_iff {max n m : Nat} {cs : List Char} (hn : n ≤ max) :
    readDigits max n cs = .ok m ↔ (∀ c ∈ cs, isDigit c = true) ∧ m = number n cs ∧ m ≤ max := by
  induction cs generalizing n with
  | nil =>
    constructor
    · intro h
      cases h
      exact ⟨List.forall_mem_nil _, rfl, hn⟩
    · rintro ⟨-, rfl, -⟩
      rfl
  | cons c cs ih =>
    have hnumber : number n (c :: cs) = number (n * 10 + value c) cs := rfl
    rw [readDigits, hnumber, List.forall_mem_cons]
    cases hc : isDigit c with
    | false => simp
    | true =>
      simp only [Bool.not_true, Bool.false_eq_true, if_false, true_and]
      by_cases hmax : max < n * 10 + value c
      · rw [if_pos hmax]
        constructor
        · intro h
          cases h
        · rintro ⟨-, rfl, hle⟩
          -- the digits behind one that is too many cannot make up for it
          have hgrow := le_number (n * 10 + value c) cs
          omega
      · rw [if_neg hmax]
        exact ih (Nat.le_of_not_lt hmax)

theorem read_eq_ok_iff {max n : Nat} {cs : List Char} :
    read max cs = .ok n ↔ Spells cs n ∧ n ≤ max := by
  have hzero : 0 ≤ max := Nat.zero_le max
  fun_cases read max cs with
  | case1 => exact ⟨fun h => (nomatch h), fun h => absurd rfl h.1.ne_nil⟩
  | case2 =>
    refine ⟨fun h => (nomatch h), fun h => ?_⟩
    obtain ⟨hspells, -⟩ := h
    cases hspells with
    | plain _ h => exact absurd h not_digits_signed
    | signed hne => exact absurd rfl hne
  | case3 r hr =>
    rw [readDigits_eq_ok_iff hzero]
    constructor
    · rintro ⟨h, rfl, hle⟩
      exact ⟨.signed hr h, hle⟩
    · rintro ⟨hspells, hle⟩
      cases hspells with
      | plain _ h => exact absurd h not_digits_signed
      | signed _ h => exact ⟨h, rfl, hle⟩
  | case4 _ hne _ hsigned =>
    rw [readDigits_eq_ok_iff hzero]
    constructor
    · rintro ⟨h, rfl, hle⟩
      exact ⟨.plain hne h, hle⟩
    · rintro ⟨hspells, hle⟩
      cases hspells with
      | plain _ h => exact ⟨h, rfl, hle⟩
      | signed => exact (hsigned _ rfl).elim

end DnsConsole.Number.Unsigned
