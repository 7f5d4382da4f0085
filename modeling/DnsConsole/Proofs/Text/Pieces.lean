import DnsConsole.Text.Pieces
import Mathlib.Data.List.Forall2
import Mathlib.Data.List.TakeDrop

/-!
# Pieces of a text

The pieces of a text hold its characters and no separator (`mem_of_mem_splitOn`, `not_mem_of_mem_splitOn`), two
texts of two parts each are compared by where they are cut (`append_cons_eq_append_cons_iff`), what stands
in front of a character that ends it is cut off there (`span_append`), and a list is read piece by piece
when all of its pieces are (`mapM_eq_some_iff`).
-/

namespace DnsConsole.Text

/-! ### Members of pieces -/

theorem mem_of_mem_intercalate {sep c : Char} {pieces : List (List Char)}
    (h : c ∈ [sep].intercalate pieces) : c = sep ∨ ∃ p ∈ pieces, c ∈ p := by
  induction pieces with
  | nil => cases h
  | cons p ps ih =>
    cases ps with
    | nil =>
      rw [List.intercalate_singleton] at h
      exact Or.inr ⟨p, List.mem_cons_self, h⟩
    | cons q qs =>
      rw [List.intercalate_cons_cons, List.mem_append, List.mem_append] at h
      rcases h with (h | h) | h
      · exact Or.inr ⟨p, List.mem_cons_self, h⟩
      · exact Or.inl (List.mem_singleton.mp h)
      rcases ih h with h | ⟨x, hx, hc⟩
      · exact Or.inl h
      · exact Or.inr ⟨x, List.mem_cons_of_mem p hx, hc⟩

theorem mem_intercalate_of_mem {sep c : Char} {pieces : List (List Char)} {p : List Char}
    (hp : p ∈ pieces) (hc : c ∈ p) : c ∈ [sep].intercalate pieces := by
  induction pieces with
  | nil => cases hp
  | cons q ps ih =>
    cases ps with
    | nil =>
      rw [List.intercalate_singleton]
      exact List.mem_singleton.mp hp ▸ hc
    | cons r rs =>
      rw [List.intercalate_cons_cons, List.append_assoc]
      rcases List.mem_cons.mp hp with rfl | hp
      · exact List.mem_append_left _ hc
      · exact List.mem_append_right _ (List.mem_append_right _ (ih hp))

theorem not_mem_of_mem_splitOn {sep : Char} {cs p : List Char} (hp : p ∈ cs.splitOn sep) : sep ∉ p := by
  induction cs generalizing p with
  | nil =>
    obtain rfl := List.mem_singleton.mp hp
    exact List.not_mem_nil
  | cons c r ih =>
    obtain ⟨q, qs, hr⟩ := List.exists_cons_of_ne_nil (List.splitOn_ne_nil sep r)
    rw [List.splitOn_cons_eq_if_modifyHead, hr, List.modifyHead_cons] at hp
    by_cases hc : c = sep
    · rw [if_pos (beq_iff_eq.mpr hc)] at hp
      rcases List.mem_cons.mp hp with rfl | hp
      · exact List.not_mem_nil
      · exact ih (hr ▸ hp)
    · rw [if_neg fun h => hc (beq_iff_eq.mp h)] at hp
      rcases List.mem_cons.mp hp with rfl | hp
      · have hq := ih (hr ▸ List.mem_cons_self)
        exact fun hmem => (List.mem_cons.mp hmem).elim (fun h => hc h.symm) hq
      · exact ih (hr ▸ List.mem_cons_of_mem q hp)

theorem mem_of_mem_splitOn {sep c : Char} {cs p : List Char} (hp : p ∈ cs.splitOn sep) (hc : c ∈ p) :
    c ∈ cs := by
  have hmem : c ∈ [sep].intercalate (cs.splitOn sep) := mem_intercalate_of_mem hp hc
  rwa [List.intercalate_splitOn] at hmem

/-! ### Cutting -/

theorem cut_of_not_mem {sep : Char} {cs : List Char} (h : sep ∉ cs) : cut sep cs = (cs, none) := by
  induction cs with
  | nil => rfl
  | cons c r ih =>
    have hc : c ≠ sep := fun hc => h (List.mem_cons.mpr (Or.inl hc.symm))
    rw [cut, if_neg hc, ih fun hr => h (List.mem_cons_of_mem c hr)]

theorem cut_append {sep : Char} {cs : List Char} (h : sep ∉ cs) (r : List Char) :
    cut sep (cs ++ sep :: r) = (cs, some r) := by
  induction cs with
  | nil => simp [cut]
  | cons c t ih =>
    have hc : c ≠ sep := fun hc => h (List.mem_cons.mpr (Or.inl hc.symm))
    rw [List.cons_append, cut, if_neg hc, ih fun ht => h (List.mem_cons_of_mem c ht)]

/-- Every text is uncut, or cut at its first separator. -/
theorem cut_cases (sep : Char) (cs : List Char) :
    (sep ∉ cs ∧ cut sep cs = (cs, none)) ∨
      ∃ a r, sep ∉ a ∧ cs = a ++ sep :: r ∧ cut sep cs = (a, some r) := by
  by_cases h : sep ∈ cs
  · obtain ⟨a, r, rfl, ha⟩ := List.eq_append_cons_of_mem h
    exact Or.inr ⟨a, r, ha, rfl, cut_append ha r⟩
  · exact Or.inl ⟨h, cut_of_not_mem h⟩

/-- A text is cut where two parts were put together exactly if the first holds no separator. -/
theorem cut_append_iff {sep : Char} {cs r : List Char} :
    cut sep (cs ++ sep :: r) = (cs, some r) ↔ sep ∉ cs := by
  refine ⟨fun h => ?_, fun h => cut_append h r⟩
  rcases cut_cases sep (cs ++ sep :: r) with ⟨hnone, -⟩ | ⟨a, t, ha, -, hcut⟩
  · exact absurd (List.mem_append_right cs List.mem_cons_self) hnone
  · obtain ⟨rfl, -⟩ := Prod.mk.inj (h.symm.trans hcut)
    exact ha

/-- Two texts that are put together from two parts each are the same if the parts are, or if the one is
cut at a later separator than the other. -/
theorem append_cons_eq_append_cons_iff {sep : Char} {a b c d : List Char} :
    a ++ sep :: b = c ++ sep :: d ↔
      (a = c ∧ b = d) ∨ (∃ r, c = a ++ sep :: r ∧ b = r ++ sep :: d) ∨
        ∃ r, a = c ++ sep :: r ∧ d = r ++ sep :: b := by
  constructor
  · intro h
    rcases List.append_eq_append_iff.mp h with ⟨t, rfl, ht⟩ | ⟨t, rfl, ht⟩
    · cases t with
      | nil => exact Or.inl ⟨(List.append_nil a).symm, (List.cons.inj ht).2⟩
      | cons x r =>
        obtain ⟨rfl, hr⟩ := List.cons.inj ht
        exact Or.inr (Or.inl ⟨r, rfl, hr⟩)
    · cases t with
      | nil => exact Or.inl ⟨List.append_nil c, (List.cons.inj ht).2.symm⟩
      | cons x r =>
        obtain ⟨rfl, hr⟩ := List.cons.inj ht
        exact Or.inr (Or.inr ⟨r, rfl, hr⟩)
  · rintro (⟨rfl, rfl⟩ | ⟨r, rfl, rfl⟩ | ⟨r, rfl, rfl⟩)
    · rfl
    · simp
    · simp

/-! ### The front of a text -/

/-- Nothing is dropped in front of a first member that does not satisfy `p`. -/
theorem dropWhile_eq_self {α : Type} {p : α → Bool} {r : List α}
    (h : ∀ x ∈ r.head?, p x = false) : r.dropWhile p = r := by
  cases r with
  | nil => rfl
  | cons x r => exact List.dropWhile_cons_of_neg (Bool.eq_false_iff.mp (h x rfl))

/-- The longest front of members that satisfy `p` ends where the first other member starts. -/
theorem span_append {α : Type} {p : α → Bool} {a r : List α} (ha : ∀ x ∈ a, p x = true)
    (hr : ∀ x ∈ r.head?, p x = false) : (a ++ r).span p = (a, r) := by
  rw [List.span_eq_takeWhile_dropWhile, List.takeWhile_append_of_pos ha,
    List.dropWhile_append_of_pos ha, dropWhile_eq_self hr]
  cases r with
  | nil => rw [List.takeWhile_nil, List.append_nil]
  | cons x r =>
    rw [List.takeWhile_cons_of_neg (Bool.eq_false_iff.mp (hr x rfl)), List.append_nil]

theorem span_of_all {α : Type} {p : α → Bool} {a : List α} (ha : ∀ x ∈ a, p x = true) :
    a.span p = (a, []) := by
  have happend := span_append ha (r := []) fun x hx => by cases hx
  rwa [List.append_nil] at happend

/-! ### Reading every piece -/

theorem mapM_eq_some_iff {α β : Type} {f : α → Option β} {l : List α} {l' : List β} :
    l.mapM f = some l' ↔ List.Forall₂ (fun a b => f a = some b) l l' := by
  induction l generalizing l' with
  | nil =>
    rw [List.mapM_nil, List.forall₂_nil_left_iff]
    exact ⟨fun h => (Option.some.inj h).symm, fun h => congrArg some h.symm⟩
  | cons a l ih =>
    rw [List.mapM_cons, List.forall₂_cons_left_iff]
    constructor
    · intro h
      obtain ⟨b, hb, h⟩ := Option.bind_eq_some_iff.mp h
      obtain ⟨bs, hbs, h⟩ := Option.bind_eq_some_iff.mp h
      exact ⟨b, bs, hb, ih.mp hbs, (Option.some.inj h).symm⟩
    · rintro ⟨b, bs, hb, hbs, rfl⟩
      exact Option.bind_eq_some_iff.mpr ⟨b, hb, Option.bind_eq_some_iff.mpr ⟨bs, ih.mpr hbs, rfl⟩⟩

theorem exists_of_mem_forall₂ {α β : Type} {R : α → β → Prop} {l : List α} {l' : List β}
    (h : List.Forall₂ R l l') {b : β} (hb : b ∈ l') : ∃ a ∈ l, R a b := by
  induction h with
  | nil => cases hb
  | cons hab _ ih =>
    rcases List.mem_cons.mp hb with rfl | hb
    · exact ⟨_, List.mem_cons_self, hab⟩
    · obtain ⟨a, ha, hR⟩ := ih hb
      exact ⟨a, List.mem_cons_of_mem _ ha, hR⟩

end DnsConsole.Text
