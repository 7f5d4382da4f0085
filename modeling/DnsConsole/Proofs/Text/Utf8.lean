import DnsConsole.Text.Bytes
import Mathlib.Tactic.SplitIfs

/-!
# Bytes of a text

What is written for a text spells it and no other text (`Utf8.decode?_encode`, `Utf8.encode_inj`): the lead
byte of a character says how many bytes there are and each further byte carries six bits.  An ASCII text
is its own list of bytes (`Utf8.decode?_ascii`), and the byte of an ASCII character spells it in any text
(`Utf8.mem_of_decode?`).  Bytes that spell a text spell it also in front of other bytes
(`Utf8.decode?_append`).
-/

namespace DnsConsole.Text

/-- What holds of each of the ASCII characters. -/
theorem of_forall_ascii {p : Char → Prop} (h : ∀ n < 128, p (Char.ofNat n)) {c : Char}
    (hc : c.toNat < 128) : p c :=
  Char.ofNat_toNat c ▸ h c.toNat hc

namespace Utf8

theorem encodeChar_ascii {c : Char} (h : c.toNat < 128) :
    String.utf8EncodeChar c = [UInt8.ofNat c.toNat] :=
  of_forall_ascii (p := fun c => String.utf8EncodeChar c = [UInt8.ofNat c.toNat]) (by decide) h

theorem length_encode_ascii {cs : List Char} (h : ∀ c ∈ cs, c.toNat < 128) :
    (encode cs).length = cs.length := by
  induction cs with
  | nil => rfl
  | cons c r ih =>
    obtain ⟨hc, hr⟩ := List.forall_mem_cons.mp h
    unfold encode at ih ⊢
    rw [List.flatMap_cons, encodeChar_ascii hc, List.length_append, ih hr, List.length_singleton,
      List.length_cons, Nat.add_comm]

theorem next?_ascii {c : Char} (h : c.toNat < 128) (r : List UInt8) :
    next? (UInt8.ofNat c.toNat :: r) = some (c, r) := by
  have htail : tailLength? (UInt8.ofNat c.toNat) = some 0 :=
    of_forall_ascii (p := fun c => tailLength? (UInt8.ofNat c.toNat) = some 0) (by decide) h
  have hscalar : scalar? (UInt8.ofNat c.toNat) [] = some c :=
    of_forall_ascii (p := fun c => scalar? (UInt8.ofNat c.toNat) [] = some c) (by decide) h
  unfold next?
  dsimp only
  rw [htail]
  dsimp only
  rw [List.take_zero, hscalar]
  rfl

theorem decode?_cons {b : UInt8} {bs r : List UInt8} {c : Char} (h : next? (b :: bs) = some (c, r)) :
    decode? (b :: bs) = (decode? r).map (c :: ·) := by
  rw [decode?]
  split
  next h' => cases h.symm.trans h'
  next c' r' h' =>
    cases h.symm.trans h'
    rfl

theorem decode?_ascii {cs : List Char} (h : ∀ c ∈ cs, c.toNat < 128) :
    decode? (cs.map fun c => UInt8.ofNat c.toNat) = some cs := by
  induction cs with
  | nil => exact decode?_nil
  | cons c r ih =>
    rw [List.map_cons, decode?_cons (next?_ascii (h c List.mem_cons_self) _),
      ih fun d hd => h d (List.mem_cons_of_mem c hd)]
    rfl

theorem next?_append {bs r : List UInt8} {c : Char} (h : next? bs = some (c, r)) (t : List UInt8) :
    next? (bs ++ t) = some (c, r ++ t) := by
  rcases bs with _ | ⟨lead, bs⟩
  · cases h
  rw [List.cons_append]
  simp only [next?] at h ⊢
  cases hk : tailLength? lead with
  | none =>
    rw [hk] at h
    cases h
  | some k =>
    rw [hk] at h
    dsimp only at h ⊢
    split at h
    · cases h
    next hlength =>
      have hle : k ≤ bs.length := by
        rw [List.length_take] at hlength
        omega
      obtain ⟨d, hd, heq⟩ := Option.map_eq_some_iff.mp h
      obtain ⟨rfl, rfl⟩ := Prod.mk.inj heq
      rw [List.take_append_of_le_length hle, List.drop_append_of_le_length hle, if_neg hlength, hd]
      rfl

theorem decode?_append {a : List UInt8} {cs : List Char} (h : decode? a = some cs)
    (b : List UInt8) : decode? (a ++ b) = (decode? b).map (cs ++ ·) := by
  fun_induction decode? a generalizing cs with
  | case1 =>
    obtain rfl := Option.some.inj h
    simp
  | case2 => cases h
  | case3 lead t c r hnext _ ih =>
    obtain ⟨ds, hds, rfl⟩ := Option.map_eq_some_iff.mp h
    have happend := next?_append hnext b
    rw [List.cons_append] at happend ⊢
    rw [decode?_cons happend, ih hds]
    simp [Function.comp_def]

theorem ne_nil_of_decode? {bs : List UInt8} {cs : List Char} (h : decode? bs = some cs)
    (hne : bs ≠ []) : cs ≠ [] := by
  rintro rfl
  obtain ⟨lead, t, rfl⟩ := List.exists_cons_of_ne_nil hne
  rw [decode?] at h
  split at h
  · cases h
  · obtain ⟨ds, -, hds⟩ := Option.map_eq_some_iff.mp h
    cases hds

theorem isContinuation_of_mem {lead : UInt8} {tail : List UInt8} {c : Char}
    (h : scalar? lead tail = some c) {b : UInt8} (hb : b ∈ tail) : isContinuation b = true := by
  unfold scalar? at h
  dsimp only at h
  split at h
  next hvalid =>
    rw [Bool.and_eq_true, Bool.and_eq_true] at hvalid
    exact List.all_eq_true.mp hvalid.1.1 b hb
  next => cases h

/-- The byte of an ASCII character is no part of another character. -/
theorem eq_or_mem_of_next? {bs r : List UInt8} {c d : Char} (h : next? bs = some (d, r))
    (hc : c.toNat < 128) (hmem : UInt8.ofNat c.toNat ∈ bs) : c = d ∨ UInt8.ofNat c.toNat ∈ r := by
  have hbyte : isContinuation (UInt8.ofNat c.toNat) = false :=
    of_forall_ascii (p := fun c => isContinuation (UInt8.ofNat c.toNat) = false) (by decide) hc
  rcases bs with _ | ⟨lead, t⟩
  · cases hmem
  rcases List.mem_cons.mp hmem with rfl | hmem
  · cases (next?_ascii hc t).symm.trans h
    exact Or.inl rfl
  simp only [next?] at h
  cases hk : tailLength? lead with
  | none =>
    rw [hk] at h
    cases h
  | some k =>
    rw [hk] at h
    dsimp only at h
    split at h
    · cases h
    obtain ⟨d', hscalar, heq⟩ := Option.map_eq_some_iff.mp h
    cases heq
    rw [← List.take_append_drop k t] at hmem
    rcases List.mem_append.mp hmem with hmem | hmem
    · cases hbyte.symm.trans (isContinuation_of_mem hscalar hmem)
    · exact Or.inr hmem

theorem mem_of_decode? {bs : List UInt8} {cs : List Char} (h : decode? bs = some cs) {c : Char}
    (hc : c.toNat < 128) (hmem : UInt8.ofNat c.toNat ∈ bs) : c ∈ cs := by
  fun_induction decode? bs generalizing cs with
  | case1 => cases hmem
  | case2 => cases h
  | case3 lead t d r hnext _ ih =>
    obtain ⟨ds, hds, rfl⟩ := Option.map_eq_some_iff.mp h
    rcases eq_or_mem_of_next? hnext hc hmem with rfl | hmem
    · exact List.mem_cons_self
    · exact List.mem_cons_of_mem d (ih hds hmem)

/-! ### Written and read back -/

/-- The continuation byte that carries the last six bits of a number. -/
def continuation (n : Nat) : UInt8 :=
  UInt8.ofNat (n % 64 + 128)

theorem toNat_continuation (n : Nat) : (continuation n).toNat = n % 64 + 128 := by
  have hn : n % 64 < 64 := Nat.mod_lt n (by decide)
  exact UInt8.toNat_ofNat_of_lt' (Nat.lt_of_lt_of_le (Nat.add_lt_add_right hn 128) (by decide))

theorem isContinuation_continuation (n : Nat) : isContinuation (continuation n) = true := by
  have hn := toNat_continuation n
  have hlow : (0x80 : UInt8) ≤ continuation n := by
    rw [UInt8.le_iff_toNat_le, hn]
    exact Nat.le_add_left 128 _
  have hhigh : continuation n < (0xC0 : UInt8) := by
    rw [UInt8.lt_iff_toNat_lt, hn]
    change n % 64 + 128 < 192
    omega
  unfold isContinuation
  rw [decide_eq_true hlow, decide_eq_true hhigh]
  rfl

/-- A lead byte and continuation bytes that carry the bits of a character are read as it. -/
theorem next?_sequence {lead : UInt8} {ns : List Nat} {c : Char}
    (hlead : tailLength? lead = some ns.length) (hleast : least ns.length ≤ c.toNat)
    (hvalue : ns.foldl (fun m n => m * 64 + n % 64) (leadPayload lead ns.length) = c.toNat)
    (r : List UInt8) : next? (lead :: ns.map continuation ++ r) = some (c, r) := by
  have hlength : (ns.map continuation).length = ns.length := List.length_map continuation
  have hscalar : scalar? lead (ns.map continuation) = some c := by
    have hall : (ns.map continuation).all isContinuation = true := by
      simp [isContinuation_continuation]
    have hfold : (ns.map continuation).foldl (fun m b => m * 64 + b.toNat % 64)
        (leadPayload lead ns.length) = c.toNat := by
      have hpayload : ∀ n, (continuation n).toNat % 64 = n % 64 := by
        intro n
        rw [toNat_continuation]
        omega
      rw [List.foldl_map]
      simp only [hpayload]
      exact hvalue
    have hvalid : c.toNat.isValidChar := c.valid
    unfold scalar?
    dsimp only
    rw [hlength, hfold, hall, decide_eq_true hleast, decide_eq_true hvalid, Char.ofNat_toNat]
    rfl
  have htake : (ns.map continuation ++ r).take ns.length = ns.map continuation := by
    rw [← hlength, List.take_left]
  have hdrop : (ns.map continuation ++ r).drop ns.length = r := by
    rw [← hlength, List.drop_left]
  rw [List.cons_append, next?, hlead]
  dsimp only
  rw [htake, hlength, if_neg (Nat.lt_irrefl _), hscalar, hdrop]
  rfl

theorem tailLength?_ofNat {n k : Nat}
    (h : k = 1 ∧ 0xC2 ≤ n ∧ n < 0xE0 ∨ k = 2 ∧ 0xE0 ≤ n ∧ n < 0xF0 ∨
      k = 3 ∧ 0xF0 ≤ n ∧ n < 0xF5) : tailLength? (UInt8.ofNat n) = some k := by
  have hlt : ∀ b : UInt8, (UInt8.ofNat n < b) = (n < b.toNat) := by
    intro b
    have hn : n < UInt8.size := by
      change n < 256
      omega
    rw [UInt8.lt_iff_toNat_lt, UInt8.toNat_ofNat_of_lt' hn]
  unfold tailLength?
  simp only [hlt]
  change (if n < 0x80 then some 0 else if n < 0xC2 then none else if n < 0xE0 then some 1
    else if n < 0xF0 then some 2 else if n < 0xF5 then some 3 else none) = some k
  split_ifs <;> first | omega | (congr 1; omega)

/-- How a character is written: by itself, or as a lead byte and up to three continuation bytes. -/
theorem encodeChar_eq (c : Char) (n : Nat) (hn : n = c.toNat) :
    String.utf8EncodeChar c =
      if n ≤ 0x7F then [UInt8.ofNat n]
      else if n ≤ 0x7FF then UInt8.ofNat (n / 64 % 32 + 0xC0) :: [n].map continuation
      else if n ≤ 0xFFFF then UInt8.ofNat (n / 4096 % 16 + 0xE0) :: [n / 64, n].map continuation
      else UInt8.ofNat (n / 262144 % 8 + 0xF0) :: [n / 4096, n / 64, n].map continuation := by
  rw [hn]
  rfl

theorem next?_encodeChar (c : Char) (r : List UInt8) :
    next? (String.utf8EncodeChar c ++ r) = some (c, r) := by
  obtain ⟨n, hn⟩ : ∃ n, n = c.toNat := ⟨_, rfl⟩
  have hmax : n < 0x110000 := by
    have hvalid : c.toNat.isValidChar := c.valid
    unfold Nat.isValidChar at hvalid
    omega
  have hlead : ∀ m < 256, (UInt8.ofNat m).toNat = m := fun m hm => UInt8.toNat_ofNat_of_lt' hm
  rw [encodeChar_eq c n hn]
  -- one case for each length; there the bits are put together again
  split_ifs with h₁ h₂ h₃
  · rw [hn] at h₁ ⊢
    exact next?_ascii (by omega) r
  · refine next?_sequence (tailLength?_ofNat ?_) ?_ ?_ r
    · exact Or.inl ⟨rfl, by omega, by omega⟩
    · change 0x80 ≤ c.toNat
      omega
    · change (UInt8.ofNat (n / 64 % 32 + 0xC0)).toNat % 32 * 64 + n % 64 = c.toNat
      rw [hlead _ (by omega)]
      omega
  · refine next?_sequence (tailLength?_ofNat ?_) ?_ ?_ r
    · exact Or.inr (Or.inl ⟨rfl, by omega, by omega⟩)
    · change 0x800 ≤ c.toNat
      omega
    · change ((UInt8.ofNat (n / 4096 % 16 + 0xE0)).toNat % 16 * 64 + n / 64 % 64) * 64 + n % 64 =
        c.toNat
      rw [hlead _ (by omega)]
      omega
  · refine next?_sequence (tailLength?_ofNat ?_) ?_ ?_ r
    · exact Or.inr (Or.inr ⟨rfl, by omega, by omega⟩)
    · change 0x10000 ≤ c.toNat
      omega
    · change (((UInt8.ofNat (n / 262144 % 8 + 0xF0)).toNat % 8 * 64 + n / 4096 % 64) * 64 +
        n / 64 % 64) * 64 + n % 64 = c.toNat
      rw [hlead _ (by omega)]
      omega

/-- What is written for a text spells it. -/
theorem decode?_encode (cs : List Char) : decode? (encode cs) = some cs := by
  induction cs with
  | nil => exact decode?_nil
  | cons c r ih =>
    have hnext := next?_encodeChar c (encode r)
    have hencode : encode (c :: r) = String.utf8EncodeChar c ++ encode r := List.flatMap_cons
    rw [hencode]
    rcases hbytes : String.utf8EncodeChar c ++ encode r with _ | ⟨b, bs⟩
    · rw [hbytes] at hnext
      cases hnext
    · rw [hbytes] at hnext
      rw [decode?_cons hnext, ih]
      rfl

theorem encode_inj {cs ds : List Char} : encode cs = encode ds ↔ cs = ds := by
  refine ⟨fun h => ?_, fun h => h ▸ rfl⟩
  have hdecoded := congrArg decode? h
  rw [decode?_encode, decode?_encode] at hdecoded
  exact Option.some.inj hdecoded

end Utf8

end DnsConsole.Text
