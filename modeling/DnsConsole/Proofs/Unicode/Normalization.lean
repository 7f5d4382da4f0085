import DnsConsole.Unicode.Normalization
import Mathlib.Data.List.Lemmas

/-!
# Characters that normalization leaves alone

A character that decomposes to itself and is in no composition is still there when a text is decomposed,
put in order and composed again (`mem_composed`): decomposing and ordering lose no character, and a
character is lost by composing only as one of the two that compose.

That a character is in no composition is a matter of the table.  What is found in a map of ranges is the
value of one of its words (`RangeMap.exists_of_find?`), so that it can be checked line by line
(`isApart_bracket`).
-/

namespace DnsConsole.Unicode

/-! ### Looking up in a map of ranges -/

namespace RangeMap

variable {α : Type}

theorem spec_of_search {rows : Array (RangeRow α)} {n lo hi : Nat} {row : RangeRow α}
    (h : search rows n lo hi = some row) : row ∈ rows ∧ row.first ≤ n ∧ n ≤ row.last := by
  fun_induction search rows n lo hi with
  | case1 => cases h
  | case2 lo hi hlt middle hmiddle hbelow ih => exact ih h
  | case3 lo hi hlt middle hmiddle hbelow habove ih => exact ih h
  | case4 lo hi hlt middle hmiddle hbelow habove =>
    cases h
    exact ⟨Array.mem_of_getElem? hmiddle, Nat.le_of_not_lt hbelow, Nat.le_of_not_lt habove⟩
  | case5 => cases h

/-- What is found is the value of a word whose range holds the code point. -/
theorem exists_of_find? {value : List Char → α} {lines : List String} {n : Nat} {v : α}
    (h : (ofLines value lines).find? n = some v) :
    ∃ line ∈ lines, ∃ word ∈ words line.toList, (readRow value word).first ≤ n ∧
      n ≤ (readRow value word).last ∧ (readRow value word).value = v := by
  obtain ⟨row, hrow, rfl⟩ := Option.map_eq_some_iff.mp h
  obtain ⟨hmem, hfirst, hlast⟩ := spec_of_search hrow
  obtain ⟨word, hword, rfl⟩ := List.mem_map.mp (List.mem_toArray.mp hmem)
  obtain ⟨line, hline, hword⟩ := List.mem_flatMap.mp hword
  exact ⟨line, hline, word, hword, hfirst, hlast, rfl⟩

/-- What holds of the words of a line is checked on its characters. -/
theorem all_words_of_eq {p : List Char → Bool} {line : String} {cs : List Char}
    (hline : line = String.ofList cs) (h : (words cs).all p = true) :
    (words line.toList).all p = true := by
  rw [hline, String.toList_ofList]
  exact h

end RangeMap

/-! ### Compositions -/

/-- A character that composes with none in front of it and none behind it. -/
structure IsApart (c : Char) : Prop where
  front : ∀ d, composePair? c d = none
  back : ∀ d, composePair? d c = none

/-- Whether a word of the table of compositions says nothing of a character. -/
def isSilentOn (c : Char) (word : List Char) : Bool :=
  let row := RangeMap.readRow readCompositions word
  !(decide (row.first ≤ c.toNat) && decide (c.toNat ≤ row.last)) && row.value.all (·.1 != c)

theorem hangulSyllable?_ascii {a b : Char} (h : a.toNat < 128 ∨ b.toNat < 128) :
    hangulSyllable? a b = none := by
  unfold hangulSyllable?
  dsimp only
  rw [if_neg (by omega), if_neg (by omega)]

/-- A character that the table says nothing of is in no composition. -/
theorem isApart_of_isSilentOn {c : Char} (hascii : c.toNat < 128)
    (h : ∀ line ∈ compositionLines, (RangeMap.words line.toList).all (isSilentOn c) = true) :
    IsApart c := by
  have hsilent : ∀ line ∈ compositionLines, ∀ word ∈ RangeMap.words line.toList,
      isSilentOn c word = true := fun line hline => List.all_eq_true.mp (h line hline)
  constructor
  · intro d
    unfold composePair?
    rw [hangulSyllable?_ascii (Or.inl hascii)]
    cases hfind : compositions.find? c.toNat with
    | none => rfl
    | some pairs =>
      obtain ⟨line, hline, word, hword, hfirst, hlast, -⟩ := RangeMap.exists_of_find? hfind
      have hword := hsilent line hline word hword
      simp [isSilentOn, hfirst, hlast] at hword
  · intro d
    unfold composePair?
    rw [hangulSyllable?_ascii (Or.inr hascii)]
    cases hfind : compositions.find? d.toNat with
    | none => rfl
    | some pairs =>
      obtain ⟨line, hline, word, hword, -, -, rfl⟩ := RangeMap.exists_of_find? hfind
      have hword := hsilent line hline word hword
      simp only [isSilentOn, Bool.and_eq_true, List.all_eq_true] at hword
      refine List.lookup_eq_none_iff.mpr fun p hp => ?_
      have hne := hword.2 p hp
      simp only [bne_iff_ne] at hne ⊢
      exact hne.symm

set_option maxRecDepth 4000 in
/-- An opening bracket is in no composition. -/
theorem isApart_bracket : IsApart '[' := by
  refine isApart_of_isSilentOn (by decide) ?_
  unfold compositionLines
  repeat refine List.forall_mem_cons.mpr ⟨RangeMap.all_words_of_eq rfl (by decide +kernel), ?_⟩
  exact List.forall_mem_nil _

/-! ### Ordering -/

theorem mem_insertMark {item x : Char × Nat} {done : List (Char × Nat)} :
    x ∈ insertMark item done ↔ x = item ∨ x ∈ done := by
  induction done with
  | nil => simp [insertMark]
  | cons last rest ih =>
    unfold insertMark
    split
    · rw [List.mem_cons, List.mem_cons, ih]
      exact or_left_comm
    · exact List.mem_cons

theorem mem_insertOrdered {item x : Char × Nat} {done : List (Char × Nat)} :
    x ∈ canonicalOrder.insertOrdered item done ↔ x = item ∨ x ∈ done := by
  unfold canonicalOrder.insertOrdered
  split
  · exact List.mem_cons
  · exact mem_insertMark

/-- Ordering loses no character. -/
theorem mem_canonicalOrder {cs : List Char} {c : Char} (h : c ∈ cs) :
    (c, combiningClass c) ∈ canonicalOrder cs := by
  have hfold : ∀ (cs : List Char) (done : List (Char × Nat)), c ∈ cs ∨ (c, combiningClass c) ∈ done →
      (c, combiningClass c) ∈
        cs.foldl (fun done d => canonicalOrder.insertOrdered (d, combiningClass d) done) done := by
    intro cs
    induction cs with
    | nil => exact fun done h => h.resolve_left List.not_mem_nil
    | cons d cs ih =>
      intro done h
      refine ih _ ?_
      rw [mem_insertOrdered]
      rcases h with h | h
      · rcases List.mem_cons.mp h with rfl | h
        · exact Or.inr (Or.inl rfl)
        · exact Or.inl h
      · exact Or.inr (Or.inr h)
  exact List.mem_reverse.mpr (hfold cs [] (Or.inl h))

/-! ### Composing -/

/-- One more character composes with the last starter, or it goes in front of what there is. -/
theorem add_cases (s : Composing) (item : Char × Nat) :
    (∃ starter d, s.starter = some starter ∧ composePair? starter item.1 = some d ∧
      s.add item = { s with starter := some d }) ∨ (s.add item).flushed = item.1 :: s.flushed := by
  unfold Composing.add
  dsimp only
  split
  next d hcomposite =>
    refine Or.inl ?_
    cases hstarter : s.starter with
    | none =>
      rw [hstarter] at hcomposite
      cases hcomposite
    | some starter =>
      rw [hstarter] at hcomposite
      dsimp only at hcomposite
      split at hcomposite
      · cases hcomposite
      · exact ⟨starter, d, rfl, hcomposite, rfl⟩
  next =>
    refine Or.inr ?_
    split
    · rfl
    · rfl

/-- A character that is in no composition stays among what there is. -/
theorem mem_flushed_add {c : Char} (hc : IsApart c) {s : Composing} {item : Char × Nat}
    (h : c = item.1 ∨ c ∈ s.flushed) : c ∈ (s.add item).flushed := by
  rcases add_cases s item with ⟨starter, d, hstarter, hpair, hadd⟩ | hadd
  · have hitem : c ≠ item.1 := by
      rintro rfl
      cases (hc.back starter).symm.trans hpair
    have hne : c ≠ starter := by
      rintro rfl
      cases (hc.front item.1).symm.trans hpair
    have hmem := h.resolve_left hitem
    rw [hadd]
    unfold Composing.flushed at hmem ⊢
    rw [hstarter] at hmem
    simp only [Option.toList_some, List.mem_append, List.mem_singleton] at hmem ⊢
    rcases hmem with (hmem | hmem) | hmem
    · exact Or.inl (Or.inl hmem)
    · exact absurd hmem hne
    · exact Or.inr hmem
  · rw [hadd]
    exact List.mem_cons.mpr h

theorem mem_foldl_add {c : Char} (hc : IsApart c) {items : List (Char × Nat)} {s : Composing}
    (h : c ∈ items.map Prod.fst ∨ c ∈ s.flushed) : c ∈ (items.foldl Composing.add s).flushed := by
  induction items generalizing s with
  | nil => exact h.resolve_left List.not_mem_nil
  | cons item items ih =>
    refine ih ?_
    rcases h with h | h
    · rcases List.mem_cons.mp h with h | h
      · exact Or.inr (mem_flushed_add hc (Or.inl h))
      · exact Or.inl h
    · exact Or.inr (mem_flushed_add hc (Or.inr h))

/-- **Normalizing leaves a character alone that decomposes to itself and is in no composition.** -/
theorem mem_composed {cs : List Char} {c : Char} (hc : IsApart c) (hself : c ∈ decompose c)
    (h : c ∈ cs) : c ∈ composed cs := by
  have hordered := mem_canonicalOrder (List.mem_flatMap.mpr ⟨c, h, hself⟩)
  exact List.mem_reverse.mpr (mem_foldl_add hc (Or.inl (List.mem_map.mpr ⟨_, hordered, rfl⟩)))

end DnsConsole.Unicode
