import DnsConsole.Proofs.Text.Utf8
import DnsConsole.Text.Bytes

/-!
# Percent escapes in a text

An ASCII text without a percent sign holds no percent escapes (`Percent.decodeText?_ascii`), a slash at
the end of a text is no part of an escape (`Percent.decodeText?_slash`), and a character that is in no
escape is still there when the escapes are undone (`Percent.mem_of_decodeText?`).
-/

namespace DnsConsole.Text

namespace Percent

theorem decode_of_ne {c : Char} (h : c ≠ '%') (r : List Char) :
    decode (c :: r) = String.utf8EncodeChar c ++ decode r := by
  rw [decode]
  rintro a b r' rfl
  exact absurd rfl h

theorem decode_of_byte?_none {a b : Char} (h : byte? a b = none) (r : List Char) :
    decode ('%' :: a :: b :: r) = 0x25 :: decode (a :: b :: r) := by
  rw [decode, h]

theorem byte?_slash (a : Char) : byte? a '/' = none := by
  have hslash : Hex.value? '/' = none := by decide
  simp [byte?, Hex.read?, hslash]

/-- A slash is no part of an escape. -/
theorem decode_append_slash (cs : List Char) : decode (cs ++ ['/']) = decode cs ++ [0x2f] := by
  fun_induction decode cs with
  | case1 => rfl
  | case2 a b r x hx ih => simp only [List.cons_append, decode, hx, ih]
  | case3 a b r hx ih =>
    simp only [List.cons_append] at ih ⊢
    rw [decode_of_byte?_none hx, ih]
  | case4 c r hc ih =>
    by_cases hpercent : c = '%'
    · -- too little is behind the mark for an escape, also with the slash
      subst hpercent
      rcases r with _ | ⟨a, _ | ⟨b, r⟩⟩
      · rfl
      · rw [List.cons_append, List.singleton_append, decode_of_byte?_none (byte?_slash a)]
        exact congrArg (0x25 :: ·) ih
      · exact absurd rfl (hc a b r rfl)
    · rw [List.cons_append, decode_of_ne hpercent, ih, List.append_assoc]

theorem decodeText?_slash {cs ds : List Char} (h : decodeText? cs = some ds) :
    decodeText? (cs ++ ['/']) = some (ds ++ ['/']) := by
  have hslash : Utf8.decode? [0x2f] = some ['/'] := by decide +kernel
  unfold decodeText? at h ⊢
  rw [decode_append_slash, Utf8.decode?_append h, hslash]
  rfl

theorem decode_ne_nil {cs : List Char} (h : cs ≠ []) : decode cs ≠ [] := by
  fun_cases decode cs with
  | case1 => exact absurd rfl h
  | case2 a b r x hx => exact List.cons_ne_nil _ _
  | case3 a b r hx => exact List.cons_ne_nil _ _
  | case4 c r hc =>
    have hlength := String.length_utf8EncodeChar c
    have hsize := c.utf8Size_pos
    intro hnil
    rw [(List.append_eq_nil_iff.mp hnil).1, List.length_nil] at hlength
    omega

theorem ne_nil_of_decodeText? {cs ds : List Char} (h : decodeText? cs = some ds) (hne : cs ≠ []) :
    ds ≠ [] :=
  Utf8.ne_nil_of_decode? h (decode_ne_nil hne)

theorem decode_ascii {cs : List Char} (h : ∀ c ∈ cs, c.toNat < 128) (hpercent : '%' ∉ cs) :
    decode cs = cs.map fun c => UInt8.ofNat c.toNat := by
  induction cs with
  | nil => rfl
  | cons c r ih =>
    have hc : c ≠ '%' := fun hc => hpercent (List.mem_cons.mpr (Or.inl hc.symm))
    rw [decode_of_ne hc, Utf8.encodeChar_ascii (h c List.mem_cons_self),
      ih (fun d hd => h d (List.mem_cons_of_mem c hd)) fun hr => hpercent (List.mem_cons_of_mem c hr)]
    rfl

theorem decodeText?_ascii {cs : List Char} (h : ∀ c ∈ cs, c.toNat < 128) (hpercent : '%' ∉ cs) :
    decodeText? cs = some cs := by
  rw [decodeText?, decode_ascii h hpercent, Utf8.decode?_ascii h]

theorem isSome_value?_of_byte? {a b : Char} {x : UInt8} (h : byte? a b = some x) :
    (Hex.value? a).isSome = true ∧ (Hex.value? b).isSome = true := by
  unfold byte? at h
  cases ha : Hex.value? a <;> cases hb : Hex.value? b <;> simp [Hex.read?, ha, hb] at h ⊢

/-- A character that is in no escape is written as itself. -/
theorem mem_decode {c : Char} (hc : c.toNat < 128) (hpercent : c ≠ '%') (hhex : Hex.value? c = none)
    {cs : List Char} (h : c ∈ cs) : UInt8.ofNat c.toNat ∈ decode cs := by
  fun_induction decode cs with
  | case1 => cases h
  | case2 a b r x hx ih =>
    obtain ⟨ha, hb⟩ := isSome_value?_of_byte? hx
    simp only [List.mem_cons] at h ⊢
    rcases h with rfl | rfl | rfl | h
    · exact absurd rfl hpercent
    · rw [hhex] at ha
      cases ha
    · rw [hhex] at hb
      cases hb
    · exact Or.inr (ih h)
  | case3 a b r hx ih =>
    exact List.mem_cons_of_mem _ (ih ((List.mem_cons.mp h).resolve_left hpercent))
  | case4 d r hd ih =>
    rcases List.mem_cons.mp h with rfl | h
    · rw [Utf8.encodeChar_ascii hc]
      exact List.mem_cons_self
    · exact List.mem_append_right _ (ih h)

theorem mem_of_decodeText? {c : Char} (hc : c.toNat < 128) (hpercent : c ≠ '%')
    (hhex : Hex.value? c = none) {cs ds : List Char} (h : decodeText? cs = some ds) (hmem : c ∈ cs) :
    c ∈ ds :=
  Utf8.mem_of_decode? h hc (mem_decode hc hpercent hhex hmem)

end Percent

end DnsConsole.Text
