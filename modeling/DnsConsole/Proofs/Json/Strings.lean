import DnsConsole.Proofs.Json.Digits
import DnsConsole.Proofs.Json.Grammar
import DnsConsole.Proofs.Text.Numerals
import Mathlib.Data.List.DropRight

/-!
# Strings of the grammar

The two readers of strings accept exactly the strings of the grammar: `readText` gives the text that a
string spells and what stands behind its closing quote (`readText_eq_ok_iff`), and `skipText` finds the
end of a string of which only the form is asked (`skipText_eq_ok_iff`).
-/

namespace DnsConsole.Json

/-! ### White space -/

theorem isSpace_iff {c : Char} :
    isSpace c = true ↔ c = ' ' ∨ c = '\t' ∨ c = '\n' ∨ c = '\r' := by
  simp [isSpace, or_assoc]

theorem skipSpace_append {a : List Char} (ha : IsBlank a) (cs : List Char) :
    skipSpace (a ++ cs) = skipSpace cs := by
  induction a with
  | nil => rfl
  | cons c a ih =>
    obtain ⟨hc, ha⟩ := List.forall_mem_cons.mp ha
    have hspace : isSpace c = true := isSpace_iff.mpr hc
    have ih := ih ha
    simp only [skipSpace] at ih ⊢
    rw [List.cons_append, List.dropWhile_cons_of_pos hspace, ih]

theorem skipSpace_of_not_isSpace {c : Char} (h : isSpace c = false) (r : List Char) :
    skipSpace (c :: r) = c :: r :=
  List.dropWhile_cons_of_neg (by simp [h])

/-- White space ends where something else stands. -/
theorem skipSpace_blank_cons {a : List Char} (ha : IsBlank a) {c : Char} (hc : isSpace c = false)
    (r : List Char) : skipSpace (a ++ c :: r) = c :: r := by
  rw [skipSpace_append ha, skipSpace_of_not_isSpace hc]

theorem skipSpace_skipSpace (cs : List Char) : skipSpace (skipSpace cs) = skipSpace cs :=
  List.dropWhile_idempotent ..

/-- White space stands in front of what `skipSpace` leaves. -/
theorem exists_blank (cs : List Char) : ∃ a, IsBlank a ∧ cs = a ++ skipSpace cs := by
  refine ⟨cs.takeWhile isSpace, fun c hc => ?_, List.takeWhile_append_dropWhile.symm⟩
  exact isSpace_iff.mp (List.mem_takeWhile_imp hc)

theorem isBlank_of_skipSpace_nil {cs : List Char} (h : skipSpace cs = []) : IsBlank cs := by
  obtain ⟨a, ha, hcs⟩ := exists_blank cs
  rw [h, List.append_nil] at hcs
  rwa [hcs]

/-- What is found behind white space, with the white space. -/
theorem exists_blank_of_skipSpace {cs r : List Char} {c : Char} (h : skipSpace cs = c :: r) :
    ∃ a, IsBlank a ∧ cs = a ++ c :: r := by
  obtain ⟨a, ha, hcs⟩ := exists_blank cs
  exact ⟨a, ha, by rwa [h] at hcs⟩

/-! ### Hexadecimal digits -/

theorem value?_eq_some_iff {c : Char} {d : ℕ} : Text.Hex.value? c = some d ↔ IsHexDigit c d := by
  constructor
  · intro h
    have hd := Text.Hex.value?_lt h
    refine ⟨hd, ?_⟩
    have hall : ∀ n < 128, ∀ d < 16, Text.Hex.value? (Char.ofNat n) = some d →
        Char.ofNat n = d.digitChar ∨ Char.ofNat n = d.digitChar.toUpper := by
      decide +kernel
    have hc : c.toNat < 128 := by
      have hle : ∀ x : Char, c ≤ x → c.toNat ≤ x.toNat := fun x hx => UInt32.le_iff_toNat_le.mp hx
      unfold Text.Hex.value? at h
      split at h
      next hr => exact Nat.lt_of_le_of_lt (hle _ hr.2) (by decide)
      next =>
        split at h
        next hr => exact Nat.lt_of_le_of_lt (hle _ hr.2) (by decide)
        next =>
          split at h
          next hr => exact Nat.lt_of_le_of_lt (hle _ hr.2) (by decide)
          next => simp at h
    have hspec := hall c.toNat hc d hd
    rw [Char.ofNat_toNat] at hspec
    exact hspec h
  · rintro ⟨hd, h⟩
    have hall : ∀ d < 16, Text.Hex.value? d.digitChar = some d ∧
        Text.Hex.value? d.digitChar.toUpper = some d := by
      decide
    rcases h with rfl | rfl
    · exact (hall d hd).1
    · exact (hall d hd).2

theorem read?_four {a b c d : Char} {n : ℕ} :
    Text.Hex.read? 0 [a, b, c, d] = some n ↔ FourHex [a, b, c, d] n := by
  simp only [Text.Hex.read?, Option.bind_eq_some_iff, Option.some.injEq, value?_eq_some_iff]
  constructor
  · rintro ⟨d₃, h₃, d₂, h₂, d₁, h₁, d₀, h₀, rfl⟩
    have hn : (((0 * 16 + d₃) * 16 + d₂) * 16 + d₁) * 16 + d₀ =
        d₃ * 4096 + d₂ * 256 + d₁ * 16 + d₀ := by omega
    rw [hn]
    exact .mk h₃ h₂ h₁ h₀
  · rintro (⟨h₃, h₂, h₁, h₀⟩)
    rename_i d₃ d₂ d₁ d₀
    exact ⟨d₃, h₃, d₂, h₂, d₁, h₁, d₀, h₀, by omega⟩

theorem readHex_eq_ok_iff {cs r : List Char} {n : ℕ} :
    readHex cs = .ok (n, r) ↔ ∃ w, cs = w ++ r ∧ FourHex w n := by
  constructor
  · intro h
    unfold readHex at h
    split at h
    next a b c d t =>
      split at h
      next m hm =>
        obtain ⟨rfl, rfl⟩ := Prod.mk.inj (Except.ok.inj h)
        exact ⟨[a, b, c, d], rfl, read?_four.mp hm⟩
      next => unfold badHex at h; split at h <;> simp [fault] at h
    next => unfold badHex at h; split at h <;> simp [fault] at h
  · rintro ⟨w, rfl, hw⟩
    obtain ⟨h₃, h₂, h₁, h₀⟩ := hw
    simp only [List.cons_append, List.nil_append, readHex]
    rw [read?_four.mpr (.mk h₃ h₂ h₁ h₀)]

/-! ### Escapes -/

theorem shortEscape?_eq_some_iff {e c : Char} : shortEscape? e = some c ↔ ShortEscape e c := by
  constructor
  · intro h
    unfold shortEscape? at h
    split at h <;> simp only [Option.some.injEq, reduceCtorEq] at h <;> subst h <;> constructor
  · rintro (_ | _) <;> rfl

theorem isSurrogate_iff {n : ℕ} :
    IsSurrogate n ↔ isHighSurrogate n = true ∨ isLowSurrogate n = true := by
  simp only [IsSurrogate, isHighSurrogate, isLowSurrogate, Bool.and_eq_true, decide_eq_true_eq]
  omega

theorem surrogatePair_eq (high low : ℕ) :
    surrogatePair high low = 0x10000 + (high - 0xD800) * 0x400 + (low - 0xDC00) := by
  unfold surrogatePair
  omega

theorem ShortEscape.ne {e c : Char} (h : ShortEscape e c) : e ≠ 'u' := by
  cases h <;> decide

theorem readLowSurrogate_eq_ok_iff {high : ℕ} {cs r : List Char} {c : Char} :
    readLowSurrogate high cs = .ok (c, r) ↔
      ∃ w low, cs = '\\' :: 'u' :: w ++ r ∧ FourHex w low ∧ isLowSurrogate low = true ∧
        c = Char.ofNat (surrogatePair high low) := by
  constructor
  · intro h
    unfold readLowSurrogate at h
    split at h
    · simp [fault] at h
    · simp [fault] at h
    next t =>
      split at h
      · simp at h
      next low t' ht =>
        obtain ⟨w, rfl, hw⟩ := readHex_eq_ok_iff.mp ht
        split at h
        next hlow =>
          obtain ⟨rfl, rfl⟩ := Prod.mk.inj (Except.ok.inj h)
          exact ⟨w, low, rfl, hw, hlow, rfl⟩
        next => simp [fault] at h
    · simp [fault] at h
    · simp [fault] at h
  · rintro ⟨w, low, rfl, hw, hlow, hc⟩
    have hr : readHex (w ++ r) = .ok (low, r) := readHex_eq_ok_iff.mpr ⟨w, rfl, hw⟩
    simp only [List.cons_append, readLowSurrogate, hr, hlow, if_true, hc]

/-- What is read behind the letter of a Unicode escape is the escape of the grammar. -/
theorem readUnicode_eq_ok_iff {cs r : List Char} {c : Char} :
    readUnicode cs = .ok (c, r) ↔ ∃ e, cs = e ++ r ∧ Escape ('u' :: e) c := by
  constructor
  · intro h
    unfold readUnicode at h
    split at h
    · simp at h
    next n t ht =>
      obtain ⟨w, rfl, hw⟩ := readHex_eq_ok_iff.mp ht
      split at h
      · simp [fault] at h
      next hlow =>
        split at h
        next hhigh =>
          obtain ⟨w', low, rfl, hw', hl, hc⟩ := readLowSurrogate_eq_ok_iff.mp h
          refine ⟨w ++ '\\' :: 'u' :: w', by simp, ?_⟩
          simp only [isHighSurrogate, isLowSurrogate, Bool.and_eq_true, decide_eq_true_eq] at hhigh hl
          rw [hc, surrogatePair_eq]
          exact .pair hw hw' hhigh hl
        next hhigh =>
          obtain ⟨rfl, rfl⟩ := Prod.mk.inj (Except.ok.inj h)
          refine ⟨w, rfl, .unicode hw fun hn => ?_⟩
          rcases isSurrogate_iff.mp hn with h | h
          · exact hhigh h
          · exact hlow h
  · rintro ⟨e, rfl, he⟩
    generalize hu : 'u' :: e = e' at he
    cases he with
    | short h =>
      obtain ⟨rfl, -⟩ : 'u' = _ ∧ _ := List.cons.inj hu
      exact absurd rfl h.ne
    | @unicode w n h hn =>
      obtain rfl : e = w := (List.cons.inj hu).2
      have hr : readHex (e ++ r) = .ok (n, r) := readHex_eq_ok_iff.mpr ⟨e, rfl, h⟩
      have hhigh : isHighSurrogate n = false :=
        Bool.eq_false_iff.mpr fun h => hn (isSurrogate_iff.mpr (Or.inl h))
      have hlow : isLowSurrogate n = false :=
        Bool.eq_false_iff.mpr fun h => hn (isSurrogate_iff.mpr (Or.inr h))
      simp [readUnicode, hr, hhigh, hlow]
    | @pair w w' high low h h' hhigh hlow =>
      obtain rfl : e = w ++ '\\' :: 'u' :: w' := (List.cons.inj hu).2
      have hr : readHex (w ++ '\\' :: 'u' :: w' ++ r) = .ok (high, '\\' :: 'u' :: w' ++ r) :=
        readHex_eq_ok_iff.mpr ⟨w, by simp, h⟩
      have h1 : isHighSurrogate high = true := by simpa [isHighSurrogate] using hhigh
      have h2 : isLowSurrogate high = false := by
        simp only [isLowSurrogate, Bool.and_eq_false_iff, decide_eq_false_iff_not]
        omega
      have hl : isLowSurrogate low = true := by simpa [isLowSurrogate] using hlow
      rw [readUnicode, hr]
      simp only [h1, h2, if_true, Bool.false_eq_true, if_false]
      refine readLowSurrogate_eq_ok_iff.mpr ⟨w', low, rfl, h', hl, ?_⟩
      rw [surrogatePair_eq]

theorem readEscape_eq_ok_iff {cs r : List Char} {c : Char} :
    readEscape cs = .ok (c, r) ↔ ∃ e, cs = e ++ r ∧ Escape e c := by
  constructor
  · intro h
    unfold readEscape at h
    split at h
    · simp [fault] at h
    next t =>
      obtain ⟨e, rfl, he⟩ := readUnicode_eq_ok_iff.mp h
      exact ⟨'u' :: e, rfl, he⟩
    next e t hne =>
      split at h
      next d hd =>
        obtain ⟨rfl, rfl⟩ := Prod.mk.inj (Except.ok.inj h)
        exact ⟨[e], rfl, .short (shortEscape?_eq_some_iff.mp hd)⟩
      next => simp [fault] at h
  · rintro ⟨e, rfl, he⟩
    by_cases hu : e.head? = some 'u'
    · obtain ⟨w, rfl⟩ := List.head?_eq_some_iff.mp hu
      exact readUnicode_eq_ok_iff.mpr ⟨w, rfl, he⟩
    · cases he with
      | @short e c h => simp [readEscape_of_ne h.ne, shortEscape?_eq_some_iff.mpr h]
      | unicode h hn => simp at hu
      | pair h h' hhigh hlow => simp at hu

theorem skipEscape_eq_ok_iff {cs r : List Char} :
    skipEscape cs = .ok r ↔ ∃ e, cs = e ++ r ∧ PassableEscape e := by
  constructor
  · intro h
    unfold skipEscape at h
    split at h
    · simp [fault] at h
    next t =>
      split at h
      · simp at h
      next n t' ht =>
        obtain ⟨w, rfl, hw⟩ := readHex_eq_ok_iff.mp ht
        obtain rfl := Except.ok.inj h
        exact ⟨'u' :: w, rfl, .unicode hw⟩
    next e t hne =>
      split at h
      next d hd =>
        obtain rfl := Except.ok.inj h
        exact ⟨[e], rfl, .short (shortEscape?_eq_some_iff.mp hd)⟩
      next => simp [fault] at h
  · rintro ⟨e, rfl, he⟩
    cases he with
    | @short e c h => simp [skipEscape_of_ne h.ne, shortEscape?_eq_some_iff.mpr h]
    | @unicode w n h =>
      have hr : readHex (w ++ r) = .ok (n, r) := readHex_eq_ok_iff.mpr ⟨w, rfl, h⟩
      simp [skipEscape, hr]

/-! ### Strings -/

theorem exists_of_readText {cs text r : List Char} (h : readText cs = .ok (text, r)) :
    ∃ w, cs = w ++ '"' :: r ∧ Spells w text := by
  fun_induction readText cs generalizing text r with
  | case1 => simp [fault] at h
  | case2 t =>
    obtain ⟨rfl, rfl⟩ := Prod.mk.inj (Except.ok.inj h)
    exact ⟨[], rfl, .nil⟩
  | case3 => simp at h
  | case4 => simp at h
  | case5 t d t' he _ text' rest ht _ ih =>
    obtain ⟨rfl, rfl⟩ := Prod.mk.inj (Except.ok.inj h)
    obtain ⟨e, rfl, hesc⟩ := readEscape_eq_ok_iff.mp he
    obtain ⟨w, rfl, hw⟩ := ih ht
    exact ⟨'\\' :: e ++ w, by simp, .escape hesc hw⟩
  | case6 => simp [fault] at h
  | case7 => simp at h
  | case8 c t hq hb hc text' rest ht ih =>
    obtain ⟨rfl, rfl⟩ := Prod.mk.inj (Except.ok.inj h)
    obtain ⟨w, rfl, hw⟩ := ih ht
    exact ⟨c :: w, rfl, .plain ⟨hq, hb, by omega⟩ hw⟩

theorem readText_of_spells {w text : List Char} (h : Spells w text) (r : List Char) :
    readText (w ++ '"' :: r) = .ok (text, r) := by
  induction h with
  | nil => exact readText_quote r
  | @plain c w text hc _ ih =>
    obtain ⟨hq, hb, hn⟩ := hc
    rw [List.cons_append, readText_of_ne hq hb, if_neg (by omega), ih]
  | @escape e c w text he _ ih =>
    have hesc : readEscape (e ++ (w ++ '"' :: r)) = .ok (c, w ++ '"' :: r) :=
      readEscape_eq_ok_iff.mpr ⟨e, rfl, he⟩
    simp only [List.cons_append, List.append_assoc, readText_backslash, hesc, ih]

/-- **The strings that are read are those that spell a text.** -/
theorem readText_eq_ok_iff {cs text r : List Char} :
    readText cs = .ok (text, r) ↔ ∃ w, cs = w ++ '"' :: r ∧ Spells w text := by
  refine ⟨exists_of_readText, ?_⟩
  rintro ⟨w, rfl, hw⟩
  exact readText_of_spells hw r

theorem exists_of_skipText {cs r : List Char} (h : skipText cs = .ok r) :
    ∃ w, cs = w ++ '"' :: r ∧ Passable w := by
  fun_induction skipText cs with
  | case1 => simp [fault] at h
  | case2 t =>
    obtain rfl := Except.ok.inj h
    exact ⟨[], rfl, .nil⟩
  | case3 => simp at h
  | case4 t t' he _ _ ih =>
    obtain ⟨e, rfl, hesc⟩ := skipEscape_eq_ok_iff.mp he
    obtain ⟨w, rfl, hw⟩ := ih h
    exact ⟨'\\' :: e ++ w, by simp, .escape hesc hw⟩
  | case5 => simp [fault] at h
  | case6 c t hq hb hc ih =>
    obtain ⟨w, rfl, hw⟩ := ih h
    exact ⟨c :: w, rfl, .plain ⟨hq, hb, by omega⟩ hw⟩

theorem skipText_of_passable {w : List Char} (h : Passable w) (r : List Char) :
    skipText (w ++ '"' :: r) = .ok r := by
  induction h with
  | nil => exact skipText_quote r
  | @plain c w hc _ ih =>
    obtain ⟨hq, hb, hn⟩ := hc
    rw [List.cons_append, skipText_of_ne hq hb, if_neg (by omega), ih]
  | @escape e w he _ ih =>
    have hesc : skipEscape (e ++ (w ++ '"' :: r)) = .ok (w ++ '"' :: r) :=
      skipEscape_eq_ok_iff.mpr ⟨e, rfl, he⟩
    simp only [List.cons_append, List.append_assoc, skipText_backslash, hesc, ih]

/-- **The strings that are passed over are those of the right form.** -/
theorem skipText_eq_ok_iff {cs r : List Char} :
    skipText cs = .ok r ↔ ∃ w, cs = w ++ '"' :: r ∧ Passable w := by
  refine ⟨exists_of_skipText, ?_⟩
  rintro ⟨w, rfl, hw⟩
  exact skipText_of_passable hw r

end DnsConsole.Json
