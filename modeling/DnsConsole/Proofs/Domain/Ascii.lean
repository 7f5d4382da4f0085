import DnsConsole.Domain.Ascii
import DnsConsole.Proofs.Text.Percent
import DnsConsole.Proofs.Text.Pieces
import Mathlib.Data.List.TakeDrop

/-!
# Domain names in ASCII

What `toAscii?` gives consists of ASCII characters that a host may hold (`isHostChar_of_toAscii?`): they
come from labels that were checked, from the mark, or from the digits in which the other characters
are written.  A name of ASCII characters is only put in lower case, so that bringing it into ASCII once
more changes nothing (`toAscii?_of_toAscii?_of_all_isAscii`).
-/

namespace DnsConsole.Domain

/-- An ASCII character that a host may hold. -/
def isHostChar (c : Char) : Bool :=
  isAscii c && !isRefused c

theorem isHostChar_iff {c : Char} : isHostChar c = true ↔ isAscii c = true ∧ isRefused c = false := by
  rw [isHostChar, Bool.and_eq_true, Bool.not_eq_true']

/-! ### Digits of other characters -/

namespace Punycode

theorem isHostChar_digit {n : Nat} (h : n < 36) : isHostChar (digit n) = true := by
  revert n
  decide

theorem toNat_lt_of_value? {c : Char} (h : (value? c).isSome = true) : c.toNat < 128 := by
  unfold value? at h
  split at h
  next hc => exact Nat.lt_of_le_of_lt (UInt32.le_iff_toNat_le.mp hc.2) (by decide)
  next =>
    split at h
    next hc => exact Nat.lt_of_le_of_lt (UInt32.le_iff_toNat_le.mp hc.2) (by decide)
    next =>
      split at h
      next hc => exact Nat.lt_of_le_of_lt (UInt32.le_iff_toNat_le.mp hc.2) (by decide)
      next => cases h

theorem isHostChar_of_value? {c : Char} (h : (value? c).isSome = true) : isHostChar c = true :=
  Text.of_forall_ascii (p := fun c => (value? c).isSome = true → isHostChar c = true) (by decide)
    (toNat_lt_of_value? h) h

theorem isHostChar_of_mem_writeNumber {bias k n : Nat} {c : Char} (h : c ∈ writeNumber bias k n) :
    isHostChar c = true := by
  fun_induction writeNumber bias k n with
  | case1 k n t hlt =>
    cases List.mem_singleton.mp h
    have ht : t ≤ 26 := threshold_le bias k
    exact isHostChar_digit (by omega)
  | case2 k n t hlt ih =>
    have ht : t ≤ 26 := threshold_le bias k
    rcases List.mem_cons.mp h with rfl | h
    · have hmod : (n - t) % (36 - t) < 36 - t := Nat.mod_lt _ (by omega)
      exact isHostChar_digit (by omega)
    · exact ih h

/-- The characters that have been written. -/
theorem isHostChar_step {basic n : Nat} {s : Writing} (h : ∀ c ∈ s.written, isHostChar c = true)
    (d : Char) : ∀ c ∈ (s.step basic n d).written, isHostChar c = true := by
  unfold Writing.step
  split
  · exact h
  split
  · intro c hc
    rcases List.mem_append.mp hc with hc | hc
    · exact h c hc
    · exact isHostChar_of_mem_writeNumber hc
  · exact h

theorem isHostChar_foldl_step {basic n : Nat} (label : List Char) {s : Writing}
    (h : ∀ c ∈ s.written, isHostChar c = true) :
    ∀ c ∈ (label.foldl (Writing.step basic n) s).written, isHostChar c = true := by
  induction label generalizing s with
  | nil => exact h
  | cons d label ih => exact ih (isHostChar_step h d)

theorem isHostChar_run {label : List Char} {basic : Nat} {s : Writing} {start : Nat} (ns : List Nat)
    (h : ∀ c ∈ s.written, isHostChar c = true) :
    ∀ c ∈ (Writing.run label basic s start ns).written, isHostChar c = true := by
  induction ns generalizing s start with
  | nil => exact h
  | cons n ns ih =>
    unfold Writing.run
    exact ih (isHostChar_foldl_step label h)

/-- A label without refused characters is written in characters that a host may hold. -/
theorem isHostChar_encode {label : List Char} (h : ∀ c ∈ label, isRefused c = false) :
    ∀ c ∈ encode label, isHostChar c = true := by
  have hbasic : ∀ c ∈ label.filter (·.toNat < 128), isHostChar c = true := by
    intro c hc
    obtain ⟨hmem, hascii⟩ := List.mem_filter.mp hc
    exact isHostChar_iff.mpr ⟨hascii, h c hmem⟩
  refine isHostChar_run _ fun c hc => ?_
  dsimp only at hc
  split at hc
  · cases hc
  · rcases List.mem_append.mp hc with hc | hc
    · exact hbasic c hc
    · cases List.mem_singleton.mp hc
      decide

theorem isSome_value?_of_mem_readNumber? {bias n weight k m : Nat} {cs r : List Char}
    (h : readNumber? bias cs n weight k = some (m, r)) :
    ∀ c ∈ cs, (value? c).isSome = true ∨ c ∈ r := by
  induction cs generalizing n weight k with
  | nil => cases h
  | cons d t ih =>
    intro c hc
    rw [readNumber?] at h
    cases hd : value? d with
    | none =>
      rw [hd] at h
      cases h
    | some v =>
      rw [hd] at h
      dsimp only at h
      split at h
      · cases h
      split at h
      · cases h
        rcases List.mem_cons.mp hc with rfl | hc
        · exact Or.inl (hd ▸ rfl)
        · exact Or.inr hc
      split at h
      · cases h
      · rcases List.mem_cons.mp hc with rfl | hc
        · exact Or.inl (hd ▸ rfl)
        · exact ih h c hc

/-- Insertions are spelled by digits alone, and what was in place stays in the label. -/
theorem insertions?_spec {cs label full : List Char} {n i bias : Nat}
    (h : insertions? cs label n i bias = some full) :
    (∀ c ∈ cs, (value? c).isSome = true) ∧ ∀ c ∈ label, c ∈ full := by
  fun_induction insertions? cs label n i bias with
  | case1 =>
    rename_i hempty
    cases h
    refine ⟨fun c hc => ?_, fun c hc => hc⟩
    rw [List.isEmpty_iff.mp hempty] at hc
    cases hc
  | case2 => cases h
  | case3 cs label n i bias hne j r hread count n' hvalid hlt ih =>
    obtain ⟨hdigits, hlabel⟩ := ih h
    refine ⟨fun c hc => ?_, fun c hc => hlabel c ?_⟩
    · rcases isSome_value?_of_mem_readNumber? hread c hc with hc | hc
      · exact hc
      · exact hdigits c hc
    · have hle : j % count ≤ label.length := Nat.le_of_lt_succ (Nat.mod_lt j (Nat.succ_pos _))
      exact (List.mem_insertIdx hle).mpr (Or.inr hc)
  | case4 => cases h

/-- The characters of a spelling: digits, the delimiter, and characters of the label. -/
theorem mem_of_decode? {cs full : List Char} (h : decode? cs = some full) {c : Char} (hc : c ∈ cs) :
    (value? c).isSome = true ∨ c = '-' ∨ c ∈ full := by
  unfold decode? at h
  rw [List.span_eq_takeWhile_dropWhile] at h
  split at h
  next digits d basic hspan =>
    obtain ⟨hdigits, hbasic⟩ := Prod.mk.inj hspan
    split at h
    · exact Or.inl ((insertions?_spec h).1 c hc)
    obtain ⟨hspelled, hkept⟩ := insertions?_spec h
    have hsplit : cs.reverse = digits ++ d :: basic := by
      rw [← hdigits, ← hbasic, List.takeWhile_append_dropWhile]
    -- the text is read from its end, so that the digits stand in front of the last delimiter
    rcases List.mem_append.mp (hsplit ▸ List.mem_reverse.mpr hc) with hc | hc
    · exact Or.inl (hspelled c (List.mem_reverse.mpr hc))
    rcases List.mem_cons.mp hc with hc | hc
    · have hd := List.head?_dropWhile_not (fun x : Char => decide (x ≠ '-')) cs.reverse
      rw [hbasic] at hd
      exact Or.inr (Or.inl (hc.trans (of_not_not (of_decide_eq_false hd))))
    · exact Or.inr (Or.inr (hkept c (List.mem_reverse.mpr hc)))
  next => exact Or.inl ((insertions?_spec h).1 c hc)

end Punycode

/-! ### Labels -/

theorem isAscii_of_isHostChar {c : Char} (h : isHostChar c = true) : isAscii c = true :=
  (isHostChar_iff.mp h).1

theorem not_isRefused_of_isValidFull {cs : List Char} (h : isValidFull cs = true) {c : Char}
    (hc : c ∈ cs) : isRefused c = false := by
  simp only [isValidFull, Bool.and_eq_true, Bool.not_eq_true', List.any_eq_false] at h
  exact Bool.eq_false_iff.mpr (h.1.1 c hc)

theorem isHostChar_asciiMark {c : Char} (h : c ∈ asciiMark) : isHostChar c = true :=
  List.all_eq_true.mp (by decide : asciiMark.all isHostChar = true) c h

/-- What the label of a marked text is. -/
theorem ofMarked?_spec {digits : List Char} {l : Label} (h : Label.ofMarked? digits = some l) :
    l.ascii = asciiMark ++ digits ∧ Punycode.decode? digits = some l.full ∧
      isValidFull l.full = true := by
  unfold Label.ofMarked? at h
  split at h
  · cases h
  obtain ⟨full, hfull, h⟩ := Option.bind_eq_some_iff.mp h
  split at h
  next hvalid =>
    cases h
    simp only [Bool.and_eq_true] at hvalid
    exact ⟨rfl, hfull, hvalid.1.2⟩
  next => cases h

/-- **A label is written in characters that a host may hold.** -/
theorem isHostChar_of_mem_ascii {cs : List Char} {l : Label} (h : Label.ofMapped? cs = some l)
    {c : Char} (hc : c ∈ l.ascii) : isHostChar c = true := by
  unfold Label.ofMapped? at h
  split at h
  · split at h
    next hascii =>
      obtain ⟨heq, hdecode, hvalid⟩ := ofMarked?_spec h
      rw [heq] at hc
      rcases List.mem_append.mp hc with hc | hc
      · exact isHostChar_asciiMark hc
      rcases Punycode.mem_of_decode? hdecode hc with hd | rfl | hd
      · exact Punycode.isHostChar_of_value? hd
      · decide
      · refine isHostChar_iff.mpr ⟨?_, not_isRefused_of_isValidFull hvalid hd⟩
        exact List.all_eq_true.mp hascii c (List.mem_of_mem_drop hc)
    next => cases h
  split at h
  · cases h
  next hvalid =>
    have hrefused : ∀ c ∈ cs, isRefused c = false :=
      fun c hc => not_isRefused_of_isValidFull (by simpa using hvalid) hc
    split at h
    next hascii =>
      cases h
      exact isHostChar_iff.mpr ⟨List.all_eq_true.mp hascii c hc, hrefused c hc⟩
    next =>
      split at h
      · cases h
      · cases h
        rcases List.mem_append.mp hc with hc | hc
        · exact isHostChar_asciiMark hc
        · exact Punycode.isHostChar_encode hrefused c hc

/-- A label of ASCII characters is written as it is. -/
theorem ascii_eq_of_all_isAscii {cs : List Char} (hcs : cs.all isAscii = true) {l : Label}
    (h : Label.ofMapped? cs = some l) : l.ascii = cs := by
  unfold Label.ofMapped? at h
  split at h
  next hmark =>
    rw [(ofMarked?_spec h).1]
    exact (List.prefix_iff_eq_append.mp (List.isPrefixOf_iff_prefix.mp hmark))
  split at h
  · cases h
  · cases h
    rfl

/-! ### Names -/

theorem labels?_eq_some_iff {cs : List Char} {labels : List Label} :
    labels? cs = some labels ↔
      ∃ folded, fold? cs = some folded ∧
        List.Forall₂ (fun piece l => Label.ofMapped? piece = some l) (Text.split '.' folded) labels ∧
        directionsFit labels = true := by
  unfold labels?
  constructor
  · intro h
    obtain ⟨folded, hfolded, h⟩ := Option.bind_eq_some_iff.mp h
    obtain ⟨labels', hlabels, h⟩ := Option.bind_eq_some_iff.mp h
    split at h
    next hfit =>
      cases h
      exact ⟨folded, hfolded, Text.mapM_eq_some_iff.mp hlabels, hfit⟩
    next => cases h
  · rintro ⟨folded, hfolded, hlabels, hfit⟩
    refine Option.bind_eq_some_iff.mpr ⟨folded, hfolded, ?_⟩
    refine Option.bind_eq_some_iff.mpr ⟨labels, Text.mapM_eq_some_iff.mpr hlabels, ?_⟩
    rw [if_pos hfit]

theorem toAscii?_eq_some_iff {cs a : List Char} :
    toAscii? cs = some a ↔
      ∃ labels, labels? cs = some labels ∧ ['.'].intercalate (labels.map Label.ascii) = a :=
  Option.map_eq_some_iff

/-- **A name in ASCII consists of characters that a host may hold.** -/
theorem isHostChar_of_toAscii? {cs a : List Char} (h : toAscii? cs = some a) {c : Char}
    (hc : c ∈ a) : isHostChar c = true := by
  obtain ⟨labels, hlabels, rfl⟩ := toAscii?_eq_some_iff.mp h
  obtain ⟨folded, -, hpieces, -⟩ := labels?_eq_some_iff.mp hlabels
  rcases Text.mem_of_mem_intercalate hc with rfl | ⟨p, hp, hc⟩
  · decide
  obtain ⟨l, hl, rfl⟩ := List.mem_map.mp hp
  obtain ⟨piece, -, hpiece⟩ := Text.exists_of_mem_forall₂ hpieces hl
  exact isHostChar_of_mem_ascii hpiece hc

/-! ### Names of ASCII characters -/

theorem isAscii_iff {c : Char} : isAscii c = true ↔ c.toNat < 128 :=
  decide_eq_true_iff

theorem isAscii_lower {c : Char} (h : isAscii c = true) : isAscii (lower c) = true :=
  Text.of_forall_ascii (p := fun c => isAscii (lower c) = true) (by decide) (isAscii_iff.mp h)

theorem lower_lower {c : Char} (h : isAscii c = true) : lower (lower c) = lower c :=
  Text.of_forall_ascii (p := fun c => lower (lower c) = lower c) (by decide) (isAscii_iff.mp h)

theorem fold?_of_all_isAscii {cs : List Char} (h : cs.all isAscii = true) :
    fold? cs = some (cs.map lower) := by
  rw [fold?, if_pos h]

theorem map_ascii_of_all_isAscii {pieces : List (List Char)} {labels : List Label}
    (h : List.Forall₂ (fun piece l => Label.ofMapped? piece = some l) pieces labels)
    (hall : ∀ p ∈ pieces, p.all isAscii = true) : labels.map Label.ascii = pieces := by
  induction h with
  | nil => rfl
  | cons hl _ ih =>
    rw [List.map_cons, ascii_eq_of_all_isAscii (hall _ List.mem_cons_self) hl,
      ih fun p hp => hall p (List.mem_cons_of_mem _ hp)]

theorem all_isAscii_of_mem_split {cs p : List Char} (h : cs.all isAscii = true)
    (hp : p ∈ Text.split '.' cs) : p.all isAscii = true :=
  List.all_eq_true.mpr fun c hc => List.all_eq_true.mp h c (Text.mem_of_mem_splitOn hp hc)

/-- A name of ASCII characters is put in lower case. -/
theorem eq_of_toAscii?_of_all_isAscii {cs a : List Char} (hcs : cs.all isAscii = true)
    (h : toAscii? cs = some a) : a = cs.map lower := by
  obtain ⟨labels, hlabels, rfl⟩ := toAscii?_eq_some_iff.mp h
  obtain ⟨folded, hfolded, hpieces, -⟩ := labels?_eq_some_iff.mp hlabels
  cases Option.some.inj ((fold?_of_all_isAscii hcs).symm.trans hfolded)
  have hall : (cs.map lower).all isAscii = true := by
    rw [List.all_map]
    exact List.all_eq_true.mpr fun c hc => isAscii_lower (List.all_eq_true.mp hcs c hc)
  rw [map_ascii_of_all_isAscii hpieces fun p hp => all_isAscii_of_mem_split hall hp,
    List.intercalate_splitOn]

theorem map_lower_map_lower {cs : List Char} (h : cs.all isAscii = true) :
    (cs.map lower).map lower = cs.map lower := by
  rw [List.map_map]
  exact List.map_congr_left fun c hc => lower_lower (List.all_eq_true.mp h c hc)

/-- **A name that came from ASCII characters stays as it is.** -/
theorem toAscii?_of_toAscii?_of_all_isAscii {cs a : List Char} (hcs : cs.all isAscii = true)
    (h : toAscii? cs = some a) : toAscii? a = some a := by
  have ha := eq_of_toAscii?_of_all_isAscii hcs h
  obtain ⟨labels, hlabels, hjoin⟩ := toAscii?_eq_some_iff.mp h
  obtain ⟨folded, hfolded, hpieces, hfit⟩ := labels?_eq_some_iff.mp hlabels
  have hall : a.all isAscii = true :=
    List.all_eq_true.mpr fun c hc => isAscii_of_isHostChar (isHostChar_of_toAscii? h hc)
  have hfold : fold? a = some folded := by
    rw [fold?_of_all_isAscii hall, ha, map_lower_map_lower hcs, ← hfolded, fold?_of_all_isAscii hcs]
  exact toAscii?_eq_some_iff.mpr
    ⟨labels, labels?_eq_some_iff.mpr ⟨folded, hfold, hpieces, hfit⟩, hjoin⟩

/-! ### Plain names -/

theorem isValidFull_of_all_isHostChar {cs : List Char} (h : cs.all isHostChar = true) :
    isValidFull cs = true := by
  have hall : ∀ c ∈ cs, isAscii c = true ∧ isRefused c = false :=
    fun c hc => isHostChar_iff.mp (List.all_eq_true.mp h c hc)
  have hrefused : cs.any isRefused = false :=
    List.any_eq_false.mpr fun c hc => Bool.eq_false_iff.mp (hall c hc).2
  have hascii : cs.all isAscii = true := List.all_eq_true.mpr fun c hc => (hall c hc).1
  have hmark : startsWithMark cs = false := by
    cases cs with
    | nil => rfl
    | cons c r =>
      unfold startsWithMark
      dsimp only
      rw [(hall c List.mem_cons_self).1]
      rfl
  unfold isValidFull
  rw [hrefused, hmark, hascii]
  rfl

theorem ofMapped?_of_all_isHostChar {cs : List Char} (h : cs.all isHostChar = true)
    (hmark : asciiMark.isPrefixOf cs = false) : Label.ofMapped? cs = some ⟨cs, cs⟩ := by
  have hascii : cs.all isAscii = true :=
    List.all_eq_true.mpr fun c hc => isAscii_of_isHostChar (List.all_eq_true.mp h c hc)
  unfold Label.ofMapped?
  rw [hmark, isValidFull_of_all_isHostChar h, hascii]
  rfl

theorem directionsFit_of_all_isAscii {labels : List Label}
    (h : ∀ l ∈ labels, l.full.all isAscii = true) : directionsFit labels = true := by
  have hnone : (labels.any fun l => l.full.any turnsDirection) = false := by
    refine List.any_eq_false.mpr fun l hl => Bool.eq_false_iff.mp (List.any_eq_false.mpr fun c hc => ?_)
    unfold turnsDirection
    rw [List.all_eq_true.mp (h l hl) c hc]
    exact Bool.false_ne_true
  unfold directionsFit
  rw [hnone]
  rfl

/-- A name in lower case of characters that a host may hold is in ASCII already, if no label of it is
marked. -/
theorem toAscii?_of_all_isHostChar {cs : List Char} (h : cs.all isHostChar = true)
    (hlower : ∀ c ∈ cs, lower c = c)
    (hmark : ∀ p ∈ Text.split '.' cs, asciiMark.isPrefixOf p = false) : toAscii? cs = some cs := by
  have hascii : cs.all isAscii = true :=
    List.all_eq_true.mpr fun c hc => isAscii_of_isHostChar (List.all_eq_true.mp h c hc)
  have hfold : fold? cs = some cs := by
    rw [fold?_of_all_isAscii hascii, List.map_congr_left hlower, List.map_id']
  have hpieces : List.Forall₂ (fun piece l => Label.ofMapped? piece = some l) (Text.split '.' cs)
      ((Text.split '.' cs).map fun p => ⟨p, p⟩) := by
    rw [List.forall₂_map_right_iff, List.forall₂_same]
    intro p hp
    refine ofMapped?_of_all_isHostChar (List.all_eq_true.mpr fun c hc => ?_) (hmark p hp)
    exact List.all_eq_true.mp h c (Text.mem_of_mem_splitOn hp hc)
  have hfit : directionsFit ((Text.split '.' cs).map fun p => ⟨p, p⟩) = true := by
    refine directionsFit_of_all_isAscii fun l hl => ?_
    obtain ⟨p, hp, rfl⟩ := List.mem_map.mp hl
    exact all_isAscii_of_mem_split hascii hp
  refine toAscii?_eq_some_iff.mpr ⟨_, labels?_eq_some_iff.mpr ⟨cs, hfold, hpieces, hfit⟩, ?_⟩
  rw [List.map_map]
  exact (congrArg _ (List.map_id' _)).trans (List.intercalate_splitOn '.')

end DnsConsole.Domain
