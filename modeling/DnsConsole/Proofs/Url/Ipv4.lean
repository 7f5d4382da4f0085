import DnsConsole.Proofs.Domain.Ascii
import DnsConsole.Proofs.Text.Numerals
import DnsConsole.Url.Ipv4

/-!
# IPv4 addresses as hosts

The text of an IPv4 address is read back as the address (`Ipv4.parse?_text`).  It is a name whose last
part is a number, and it is in ASCII as it stands (`Ipv4.toAscii?_text`).
-/

namespace DnsConsole.Url.Ipv4

open Text.Decimal (digits isDigit toNat_lt_of_isDigit)

/-- The four bytes of an address. -/
def bytes (a : Ipv4) : List Nat :=
  let n := a.address.toNat
  [n / 16777216, n / 65536 % 256, n / 256 % 256, n % 256]

theorem text_eq (a : Ipv4) : a.text = ['.'].intercalate (a.bytes.map digits) := rfl

theorem lt_of_mem_bytes {a : Ipv4} {n : Nat} (h : n ∈ a.bytes) : n < 256 := by
  have hlt := a.address.toNat_lt
  simp only [bytes, List.mem_cons, List.not_mem_nil, or_false] at h
  omega

theorem not_mem_digits {n : Nat} {c : Char} (hc : isDigit c = false) : c ∉ digits n := by
  intro h
  cases hc.symm.trans (Text.Decimal.isDigit_of_mem_digits h)

theorem split_text (a : Ipv4) : Text.split '.' a.text = a.bytes.map digits := by
  rw [text_eq]
  refine List.splitOn_intercalate '.' (fun p hp => ?_) (List.cons_ne_nil _ _)
  obtain ⟨n, -, rfl⟩ := List.mem_map.mp hp
  exact not_mem_digits rfl

theorem parts_text (a : Ipv4) : parts a.text = a.bytes.map digits := by
  unfold parts
  rw [split_text]
  refine if_neg fun h => Text.Decimal.digits_ne_nil (a.address.toNat % 256) ?_
  exact Option.some.inj h.2

/-! ### Reading -/

theorem part?_digits {n : Nat} (h : n < 256) : part? (digits n) = some n := by
  revert n
  decide +kernel

theorem ofParts?_bytes (a : Ipv4) : ofParts? a.bytes = some a := by
  have hlt := a.address.toNat_lt
  unfold ofParts? bytes
  simp only [List.reverse_cons, List.reverse_nil, List.nil_append, List.cons_append,
    List.length_cons, List.length_nil, List.foldl_cons, List.foldl_nil]
  rw [if_neg]
  · have hsum : (((0 * 256 + a.address.toNat / 16777216) * 256 + a.address.toNat / 65536 % 256) * 256 +
        a.address.toNat / 256 % 256) * 256 + a.address.toNat % 256 = a.address.toNat := by
      omega
    rw [show Nat.pow 256 (4 - (0 + 1 + 1 + 1)) = 256 from rfl, hsum, UInt32.ofNat_toNat]
  · rw [show Nat.pow 256 (4 - (0 + 1 + 1 + 1)) = 256 from rfl]
    simp only [List.any_cons, List.any_nil, Bool.or_eq_true, decide_eq_true_eq, Bool.or_false]
    omega

/-- **The text of an address stands for it.** -/
theorem parse?_text (a : Ipv4) : parse? a.text = some a := by
  have hparts : (a.bytes.map digits).mapM part? = some a.bytes := by
    rw [Text.mapM_eq_some_iff, List.forall₂_map_left_iff, List.forall₂_same]
    exact fun n hn => part?_digits (lt_of_mem_bytes hn)
  unfold parse?
  rw [parts_text, hparts]
  exact ofParts?_bytes a

theorem isNumeric_text (a : Ipv4) : isNumeric a.text = true := by
  unfold isNumeric
  rw [parts_text]
  change ((Text.Decimal.read? (digits (a.address.toNat % 256))).isSome || _) = true
  rw [Text.Decimal.read?_digits]
  rfl

/-! ### The name -/

theorem mem_text {a : Ipv4} {c : Char} (h : c ∈ a.text) : c = '.' ∨ isDigit c = true := by
  rw [text_eq] at h
  rcases Text.mem_of_mem_intercalate h with h | ⟨p, hp, hc⟩
  · exact Or.inl h
  · obtain ⟨n, -, rfl⟩ := List.mem_map.mp hp
    exact Or.inr (Text.Decimal.isDigit_of_mem_digits hc)

theorem text_ne_nil (a : Ipv4) : a.text ≠ [] := by
  intro h
  have hsplit := split_text a
  rw [h] at hsplit
  exact absurd (show 1 = 4 from congrArg List.length hsplit) (by decide)

theorem isHostChar_of_isDigit {c : Char} (h : isDigit c = true) : Domain.isHostChar c = true :=
  Text.of_forall_ascii (p := fun c => isDigit c = true → Domain.isHostChar c = true) (by decide)
    (toNat_lt_of_isDigit h) h

theorem lower_of_isDigit {c : Char} (h : isDigit c = true) : Domain.lower c = c :=
  Text.of_forall_ascii (p := fun c => isDigit c = true → Domain.lower c = c) (by decide)
    (toNat_lt_of_isDigit h) h

theorem not_marked_digits (n : Nat) : Domain.asciiMark.isPrefixOf (digits n) = false := by
  cases hd : digits n with
  | nil => rfl
  | cons c r =>
    have hc : c ≠ 'x' := by
      rintro rfl
      exact not_mem_digits (n := n) (c := 'x') rfl (hd ▸ List.mem_cons_self)
    simp [Domain.asciiMark, List.isPrefixOf, Ne.symm hc]

/-- The text of an address is a name in ASCII. -/
theorem toAscii?_text (a : Ipv4) : Domain.toAscii? a.text = some a.text := by
  refine Domain.toAscii?_of_all_isHostChar (List.all_eq_true.mpr fun c hc => ?_) (fun c hc => ?_)
    fun p hp => ?_
  · rcases mem_text hc with rfl | hc
    · decide
    · exact isHostChar_of_isDigit hc
  · rcases mem_text hc with rfl | hc
    · decide
    · exact lower_of_isDigit hc
  · rw [split_text] at hp
    obtain ⟨n, -, rfl⟩ := List.mem_map.mp hp
    exact not_marked_digits n

end DnsConsole.Url.Ipv4
