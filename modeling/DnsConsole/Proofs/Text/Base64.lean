import DnsConsole.Text.Base64

/-!
# Base64 written and read back

A base64 text consists of digits of the standard alphabet and is filled up with `=` to a length that
is a multiple of four (`Base64.isPadded_encode`), and it is read back as the bytes that it was written
for (`Base64.decode?_encode`).  Both follow the groups of three bytes: a full group is four digits, and
a last group of one or two bytes leaves two or four bits of a digit empty.
-/

namespace DnsConsole.Text.Base64

/-- A digit of the standard alphabet: an ASCII letter, a decimal digit, `+` or `/`. -/
def isDigit (c : Char) : Bool :=
  ('A' ≤ c && c ≤ 'Z') || ('a' ≤ c && c ≤ 'z') || ('0' ≤ c && c ≤ '9') || c == '+' || c == '/'

/-- A text of digits that is filled up to a length that is a multiple of four. -/
structure IsPadded (cs : List Char) : Prop where
  parts : ∃ digits fill, cs = digits ++ List.replicate fill '=' ∧
    (∀ c ∈ digits, isDigit c = true) ∧ fill ≤ 2
  length : cs.length % 4 = 0

/-! ### Digits -/

theorem value?_digit {n : Nat} (h : n < 64) : value? (digit n) = some n := by
  revert n
  decide

example : String.ofList ((List.range 64).map digit) =
    "ABCDEFGHIJKLMNOPQRSTUVWXYZabcdefghijklmnopqrstuvwxyz0123456789+/" := by rfl

theorem isDigit_digit {n : Nat} (h : n < 64) : isDigit (digit n) = true := by
  revert n
  decide

theorem digit_ne_fill {n : Nat} (h : n < 64) : digit n ≠ '=' := by
  revert n
  decide

/-! ### Groups -/

theorem ofNat_eq {n : Nat} {b : UInt8} (h : n % 256 = b.toNat) : UInt8.ofNat n = b :=
  UInt8.toNat_inj.mp (UInt8.toNat_ofNat'.trans h)

theorem decodeLast?_one (a : UInt8) {n : Nat} (hn : n = a.toNat * 16) :
    decodeLast? (digit (n / 64)) (digit (n % 64)) '=' = some [a] := by
  have ha : a.toNat < 256 := a.toNat_lt
  have hp : n / 64 < 64 := by omega
  have hq : n % 64 < 64 := by omega
  have hfill : n % 64 % 16 = 0 := by omega
  have hbyte : UInt8.ofNat (n / 64 * 4 + n % 64 / 16) = a := ofNat_eq (by omega)
  simp only [decodeLast?, value?_digit hp, value?_digit hq, Option.bind_eq_bind, Option.bind_some,
    hfill, hbyte, if_true]

theorem decodeLast?_two (a b : UInt8) {n : Nat} (hn : n = (a.toNat * 256 + b.toNat) * 4) :
    decodeLast? (digit (n / 4096)) (digit (n / 64 % 64)) (digit (n % 64)) = some [a, b] := by
  have ha : a.toNat < 256 := a.toNat_lt
  have hb : b.toNat < 256 := b.toNat_lt
  have hp : n / 4096 < 64 := by omega
  have hq : n / 64 % 64 < 64 := by omega
  have hr : n % 64 < 64 := by omega
  have hbits : (n / 4096 * 64 + n / 64 % 64) * 64 + n % 64 = n := by omega
  have hfill : n % 64 % 4 = 0 := by omega
  have hfirst : UInt8.ofNat (n / 1024) = a := ofNat_eq (by omega)
  have hsecond : UInt8.ofNat (n / 4) = b := ofNat_eq (by omega)
  simp only [decodeLast?, value?_digit hp, value?_digit hq, value?_digit hr, digit_ne_fill hr,
    Option.bind_eq_bind, Option.bind_some, hbits, hfill, hfirst, hsecond, if_true, if_false]

theorem decodeGroup?_three (a b c : UInt8) {n : Nat}
    (hn : n = (a.toNat * 256 + b.toNat) * 256 + c.toNat) :
    decodeGroup? (digit (n / 262144)) (digit (n / 4096 % 64)) (digit (n / 64 % 64)) (digit (n % 64)) =
      some [a, b, c] := by
  have ha : a.toNat < 256 := a.toNat_lt
  have hb : b.toNat < 256 := b.toNat_lt
  have hc : c.toNat < 256 := c.toNat_lt
  have hp : n / 262144 < 64 := by omega
  have hq : n / 4096 % 64 < 64 := Nat.mod_lt _ (by decide)
  have hr : n / 64 % 64 < 64 := Nat.mod_lt _ (by decide)
  have hs : n % 64 < 64 := Nat.mod_lt _ (by decide)
  have hbits : ((n / 262144 * 64 + n / 4096 % 64) * 64 + n / 64 % 64) * 64 + n % 64 = n := by omega
  have hfirst : UInt8.ofNat (n / 65536) = a := ofNat_eq (by omega)
  have hsecond : UInt8.ofNat (n / 256) = b := ofNat_eq (by omega)
  have hthird : UInt8.ofNat n = c := ofNat_eq (by omega)
  simp only [decodeGroup?, value?_digit hp, value?_digit hq, value?_digit hr, value?_digit hs,
    Option.bind_eq_bind, Option.bind_some, hbits, hfirst, hsecond, hthird]
  rfl

/-- A group that does not end in `=` is followed by the rest of the text. -/
theorem decode?_group {p q r s : Char} (hs : s ≠ '=') {t : List Char} {group rest : List UInt8}
    (hgroup : decodeGroup? p q r s = some group) (hrest : decode? t = some rest) :
    decode? (p :: q :: r :: s :: t) = some (group ++ rest) := by
  rw [decode?]
  · rw [hgroup, hrest]
    rfl
  · rintro rfl -
    exact hs rfl

/-! ### Texts -/

/-- **What is written for some bytes is read back as them.** -/
theorem decode?_encode (bs : List UInt8) : decode? (encode bs) = some bs := by
  fun_induction encode bs with
  | case1 => rfl
  | case2 a n => exact decodeLast?_one a rfl
  | case3 a b n => exact decodeLast?_two a b rfl
  | case4 a b c r n ih =>
    have hlast : n % 64 < 64 := Nat.mod_lt n (by decide)
    exact decode?_group (digit_ne_fill hlast) (decodeGroup?_three a b c rfl) ih

theorem encode_inj {a b : List UInt8} : encode a = encode b ↔ a = b := by
  refine ⟨fun h => Option.some.inj ?_, fun h => h ▸ rfl⟩
  rw [← decode?_encode a, ← decode?_encode b, h]

theorem IsPadded.group {ds cs : List Char} (hlength : ds.length = 4)
    (hds : ∀ c ∈ ds, isDigit c = true) (h : IsPadded cs) : IsPadded (ds ++ cs) where
  parts := by
    obtain ⟨digits, fill, rfl, hdigits, hfill⟩ := h.parts
    refine ⟨ds ++ digits, fill, (List.append_assoc _ _ _).symm, fun c hc => ?_, hfill⟩
    exact (List.mem_append.mp hc).elim (hds c) (hdigits c)
  length := by
    rw [List.length_append, hlength, Nat.add_mod_left]
    exact h.length

/-- **What is written for some bytes is digits, filled up to a multiple of four.** -/
theorem isPadded_encode (bs : List UInt8) : IsPadded (encode bs) := by
  fun_induction encode bs with
  | case1 => exact ⟨⟨[], 0, rfl, by simp, by decide⟩, rfl⟩
  | case2 a n =>
    have ha : a.toNat < 256 := a.toNat_lt
    refine ⟨⟨[digit (n / 64), digit (n % 64)], 2, rfl, ?_, by decide⟩, Nat.mod_self 4⟩
    simp only [List.forall_mem_cons]
    exact ⟨isDigit_digit (by omega), isDigit_digit (by omega), by simp⟩
  | case3 a b n =>
    have ha : a.toNat < 256 := a.toNat_lt
    have hb : b.toNat < 256 := b.toNat_lt
    refine ⟨⟨[digit (n / 4096), digit (n / 64 % 64), digit (n % 64)], 1, rfl, ?_, by decide⟩,
      Nat.mod_self 4⟩
    simp only [List.forall_mem_cons]
    exact ⟨isDigit_digit (by omega), isDigit_digit (by omega), isDigit_digit (by omega), by simp⟩
  | case4 a b c r n ih =>
    have ha : a.toNat < 256 := a.toNat_lt
    have hb : b.toNat < 256 := b.toNat_lt
    have hc : c.toNat < 256 := c.toNat_lt
    have hgroup : ∀ d ∈ [digit (n / 262144), digit (n / 4096 % 64), digit (n / 64 % 64),
        digit (n % 64)], isDigit d = true := by
      simp only [List.forall_mem_cons]
      exact ⟨isDigit_digit (by omega), isDigit_digit (by omega), isDigit_digit (by omega),
        isDigit_digit (by omega), by simp⟩
    exact ih.group rfl hgroup

end DnsConsole.Text.Base64
