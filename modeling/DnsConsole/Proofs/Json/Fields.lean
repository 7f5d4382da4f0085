import DnsConsole.Proofs.Json.Records
import DnsConsole.Proofs.Json.Unreadable
import DnsConsole.Proofs.Text.Numerals

/-!
# Fields of the grammar

The two kinds of fields read the texts that the grammar gives them: a string with the text that it spells
(`readTextField_eq_ok_iff`), and a whole number below 65536 (`exists_of_readPortField`,
`readPortField_append`).

A port is read as a number of any form first.  What has decimals, an exponent, a sign or more digits than
64 bits hold becomes a double or a negative integer, and neither of them is a port, so that an integer
that is none has been read from the digits of its whole part alone (`exists_of_readNumber`).
-/

namespace DnsConsole.Json

open Number (Binary64)
open Text.Decimal (isDigit value number le_number number_cons)

/-! ### Texts -/

theorem readTextField_eq_ok_iff {cs r text : List Char} :
    readTextField cs = .ok (text, r) ↔
      ∃ a w, IsBlank a ∧ IsText w text ∧ cs = a ++ w ++ r := by
  constructor
  · intro h
    unfold readTextField at h
    split at h
    · simp [fault] at h
    next c t ht =>
      obtain ⟨a, ha, rfl⟩ := exists_blank_of_skipSpace ht
      split at h
      next hc =>
        obtain ⟨x, rfl, hx⟩ := readText_eq_ok_iff.mp h
        exact ⟨a, _, ha, ⟨x, hx, rfl⟩, by simp [hc]⟩
      next => simp at h
  · rintro ⟨a, w, ha, ⟨x, hx, rfl⟩, rfl⟩
    have hs : skipSpace (a ++ ('"' :: x ++ ['"']) ++ r) = '"' :: (x ++ '"' :: r) := by
      simp only [List.append_assoc, List.cons_append, List.nil_append]
      rw [skipSpace_blank_cons ha rfl]
    simp only [readTextField, hs, if_true]
    exact readText_of_spells hx r

/-! ### Digits of 64 bits -/

/-- What has been read of the digits is the number that they spell. -/
theorem exists_digits64 (n : ℕ) (cs : List Char) :
    ∃ w, (∀ c ∈ w, isDigit c = true) ∧ cs = w ++ (digits64 n cs).2 ∧
      (digits64 n cs).1 = number n w := by
  fun_induction digits64 n cs with
  | case1 n => exact ⟨[], by simp, rfl, rfl⟩
  | case2 n c r hc ih =>
    obtain ⟨w, hw, hr, hn⟩ := ih
    exact ⟨c :: w, List.forall_mem_cons.mpr ⟨hc.1, hw⟩, congrArg (c :: ·) hr, hn⟩
  | case3 n c r => exact ⟨[], by simp, rfl, rfl⟩

theorem digits64_append {n : ℕ} {w r : List Char} (hw : ∀ c ∈ w, isDigit c = true)
    (hr : startsWithDigit r = false) (hmax : number n w ≤ maxSignificand) :
    digits64 n (w ++ r) = (number n w, r) := by
  induction w generalizing n with
  | nil =>
    rcases r with _ | ⟨c, r⟩
    · rfl
    · have hc : isDigit c = false := hr
      simp [digits64, hc, number]
  | cons c w ih =>
    obtain ⟨hc, hw⟩ := List.forall_mem_cons.mp hw
    have hle : n * 10 + value c ≤ maxSignificand := (le_number _ w).trans hmax
    rw [List.cons_append, digits64, if_pos ⟨hc, hle⟩]
    exact ih hw hmax

/-! ### Numbers that are no integers -/

theorem exists_float_of_signed {negative : Bool} {cs r : List Char} {v : NumberValue}
    {x : Option Binary64} (h : signed negative cs x = .ok (v, r)) : ∃ y, v = .float negative y := by
  rcases x with _ | y
  · simp [signed, fault] at h
  · exact ⟨y, (Prod.mk.inj (Except.ok.inj h)).1.symm⟩

theorem exists_float_of_floatValue {negative : Bool} {n : ℕ} {e : ℤ} {cs r : List Char}
    {v : NumberValue} (h : floatValue negative n e cs = .ok (v, r)) : ∃ x, v = .float negative x :=
  exists_float_of_signed h

theorem exists_float_of_readExponent {negative : Bool} {n : ℕ} {e : ℤ} {cs r : List Char}
    {v : NumberValue} (h : readExponent negative n e cs = .ok (v, r)) :
    ∃ x, v = .float negative x := by
  unfold readExponent at h
  dsimp only at h
  split at h
  · simp [fault] at h
  split at h
  next =>
    split at h
    · exact exists_float_of_floatValue h
    · split at h
      · simp [fault] at h
      · exact ⟨_, (Prod.mk.inj (Except.ok.inj h)).1.symm⟩
  next => simp [fault] at h

theorem exists_float_of_readScaled {negative : Bool} {n : ℕ} {e : ℤ} {cs r : List Char}
    {v : NumberValue} (h : readScaled negative n e cs = .ok (v, r)) : ∃ x, v = .float negative x := by
  unfold readScaled at h
  split at h
  · exact exists_float_of_readExponent h
  · exact exists_float_of_readExponent h
  · exact exists_float_of_floatValue h

theorem exists_float_of_readFraction {negative : Bool} {n : ℕ} {e : ℤ} {cs r : List Char}
    {v : NumberValue} (h : readFraction negative n e cs = .ok (v, r)) :
    ∃ x, v = .float negative x := by
  unfold readFraction at h
  dsimp only at h
  split at h
  · exact exists_float_of_readScaled h
  · split at h <;> simp [fault] at h

theorem exists_float_of_readLong {negative : Bool} {n : ℕ} {cs r : List Char}
    {v : NumberValue} (h : readLong negative n cs = .ok (v, r)) : ∃ x, v = .float negative x := by
  unfold readLong at h
  dsimp only at h
  split at h
  · exact exists_float_of_readFraction h
  · exact exists_float_of_readScaled h

/-! ### Numbers that are integers -/

/-- An integer that is not negative has no sign, and nothing has been read behind its whole part. -/
theorem eq_of_readRest {negative : Bool} {n : ℕ} {m : ℤ} {cs r : List Char} (hm : 0 ≤ m)
    (h : readRest negative n cs = .ok (.integer m, r)) : negative = false ∧ m = n ∧ cs = r := by
  unfold readRest at h
  split at h
  · obtain ⟨x, hx⟩ := exists_float_of_readFraction h
    cases hx
  · obtain ⟨x, hx⟩ := exists_float_of_readExponent h
    cases hx
  · obtain ⟨x, hx⟩ := exists_float_of_readExponent h
    cases hx
  split at h
  next hneg =>
    obtain ⟨hv, hr⟩ := Prod.mk.inj (Except.ok.inj h)
    exact ⟨by simpa using hneg, (NumberValue.integer.inj hv).symm, hr⟩
  split at h
  next hn =>
    obtain ⟨hv, hr⟩ := Prod.mk.inj (Except.ok.inj h)
    have hv := NumberValue.integer.inj hv
    omega
  next =>
    obtain ⟨x, hx⟩ := exists_float_of_floatValue h
    cases hx

theorem readRest_of_endsValue {r : List Char} (hr : EndsValue r) (n : ℕ) :
    readRest false n r = .ok (.integer n, r) := by
  unfold readRest
  split
  · exact absurd rfl hr.ne.2.1
  · exact absurd rfl hr.ne.2.2.1
  · exact absurd rfl hr.ne.2.2.2
  · rfl

theorem exists_of_readUnsigned {negative : Bool} {m : ℤ} {cs r : List Char} (hm : 0 ≤ m)
    (h : readUnsigned negative cs = .ok (.integer m, r)) :
    negative = false ∧ ∃ w, Whole w ∧ m = number 0 w ∧ cs = w ++ r := by
  rcases cs with _ | ⟨c, t⟩
  · simp [readUnsigned, fault] at h
  by_cases hc : c = '0'
  · rw [hc, readUnsigned] at h
    split at h
    · simp [fault] at h
    · obtain ⟨hneg, rfl, rfl⟩ := eq_of_readRest hm h
      exact ⟨hneg, ['0'], .zero, rfl, by rw [hc]; rfl⟩
  rw [readUnsigned_of_ne hc] at h
  split at h
  next hdigit =>
    split at h
    · obtain ⟨x, hx⟩ := exists_float_of_readLong h
      cases hx
    · obtain ⟨hneg, hmn, hr⟩ := eq_of_readRest hm h
      obtain ⟨w, hw, ht, hn⟩ := exists_digits64 (value c) t
      have hdigits : IsDigits (c :: w) :=
        isDigits_iff.mpr ⟨List.cons_ne_nil c w, List.forall_mem_cons.mpr ⟨hdigit, hw⟩⟩
      refine ⟨hneg, c :: w, .digits hdigits ?_, ?_, ?_⟩
      · exact fun h0 => hc (Option.some.inj h0)
      · rw [hmn, hn, number_cons]
      · rw [ht, hr, List.cons_append]
  next => simp [fault] at h

theorem exists_of_readNumber {m : ℤ} {cs r : List Char} (hm : 0 ≤ m)
    (h : readNumber cs = .ok (.integer m, r)) :
    ∃ w, Whole w ∧ m = number 0 w ∧ cs = w ++ r := by
  unfold readNumber at h
  split at h
  · obtain ⟨hneg, -⟩ := exists_of_readUnsigned hm h
    cases hneg
  · exact (exists_of_readUnsigned hm h).2

theorem readNumber_append {w r : List Char} (hw : Whole w) (hmax : number 0 w ≤ maxSignificand)
    (hr : EndsValue r) : readNumber (w ++ r) = .ok (.integer (number 0 w), r) := by
  cases hw with
  | zero =>
    rw [List.cons_append, List.nil_append, readNumber_of_ne (by decide), readUnsigned,
      if_neg (by simp [hr.startsWithDigit]), readRest_of_endsValue hr]
    rfl
  | digits h hzero =>
    obtain ⟨hne, hall⟩ := isDigits_iff.mp h
    obtain ⟨c, w, rfl⟩ := List.exists_cons_of_ne_nil hne
    obtain ⟨hdigit, hw⟩ := List.forall_mem_cons.mp hall
    have hc : c ≠ '0' := fun hc => hzero (by rw [hc]; rfl)
    rw [number_cons] at hmax ⊢
    have hdigits := digits64_append hw hr.startsWithDigit hmax
    rw [List.cons_append, readNumber_of_ne (ne_of_isDigit hdigit rfl), readUnsigned_of_ne hc,
      if_pos hdigit, hdigits]
    simp only [hr.startsWithDigit, Bool.false_eq_true, if_false]
    exact readRest_of_endsValue hr _

/-! ### Ports -/

theorem exists_of_readPortField {cs r : List Char} {port : UInt16}
    (h : readPortField cs = .ok (port, r)) :
    ∃ a w, IsBlank a ∧ IsPort w port ∧ cs = a ++ w ++ r := by
  unfold readPortField at h
  split at h
  · simp [fault] at h
  next c t ht =>
    obtain ⟨a, ha, rfl⟩ := exists_blank_of_skipSpace ht
    split at h
    next =>
      split at h
      · simp at h
      next n rest hn =>
        split at h
        next hrange =>
          obtain ⟨w, hw, hnumber, hcs⟩ := exists_of_readNumber hrange.1 hn
          obtain ⟨rfl, rfl⟩ := Prod.mk.inj (Except.ok.inj h)
          refine ⟨a, w, ha, ⟨hw, ?_⟩, by rw [hcs, List.append_assoc]⟩
          have hlt : number 0 w < 65536 := by omega
          rw [hnumber, Int.toNat_natCast, UInt16.toNat_ofNat_of_lt' hlt]
        next => simp [fault] at h
      next => simp [fault] at h
    next => simp at h

theorem readPortField_append {a w r : List Char} {port : UInt16} (ha : IsBlank a)
    (hw : IsPort w port) (hr : EndsValue r) : readPortField (a ++ w ++ r) = .ok (port, r) := by
  obtain ⟨hwhole, hport⟩ := hw
  have hlt : number 0 w < 65536 := hport ▸ port.toNat_lt
  have hmax : number 0 w ≤ maxSignificand := by
    unfold maxSignificand
    omega
  have hread := readNumber_append hwhole hmax hr
  obtain ⟨c, t, rfl, hc⟩ := hwhole.head
  have hs : skipSpace (a ++ c :: t ++ r) = c :: (t ++ r) := by
    rw [List.append_assoc]
    exact skipSpace_blank_cons ha (isSpace_of_isDigit hc) (t ++ r)
  have hrange : (0 : ℤ) ≤ number 0 (c :: t) ∧ (number 0 (c :: t) : ℤ) < 65536 := by omega
  rw [List.cons_append] at hread
  simp only [readPortField, hs, hc, or_true, if_true, hread, if_pos hrange, Int.toNat_natCast]
  rw [hport, UInt16.ofNat_toNat]

end DnsConsole.Json
