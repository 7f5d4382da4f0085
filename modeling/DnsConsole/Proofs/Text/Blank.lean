import DnsConsole.Proofs.Text.Pieces
import DnsConsole.Text.Pieces
import Mathlib.Data.List.DropRight
import Mathlib.Data.List.TakeWhile

/-!
# Trimmed texts

Nothing is left of a text by trimming it exactly if all of its characters are blank
(`trimChars_eq_nil_iff`).  What is left has no blank at either end (`trimmed_trimChars`), and the texts
without a blank at either end are those that trimming leaves as they are (`trimChars_eq_self_iff`).
Blanks that are put around a text are lost by trimming it (`trimChars_pad`).
-/

namespace DnsConsole.Text

theorem trimEnd_eq_nil_iff {cs : List Char} : trimEnd cs = [] ↔ ∀ c ∈ cs, isBlank c = true := by
  unfold trimEnd
  rw [List.reverse_eq_nil_iff, List.dropWhile_eq_nil_iff]
  simp only [List.mem_reverse]

/-- Nothing is left of a text exactly if it is blank. -/
theorem trimChars_eq_nil_iff {cs : List Char} :
    trimChars cs = [] ↔ ∀ c ∈ cs, isBlank c = true := by
  unfold trimChars
  rw [trimEnd_eq_nil_iff]
  induction cs with
  | nil => rfl
  | cons c cs ih =>
    by_cases hc : isBlank c = true
    · rw [List.dropWhile_cons_of_pos hc, ih, List.forall_mem_cons]
      exact ⟨fun h => ⟨hc, h⟩, fun h => h.2⟩
    · rw [List.dropWhile_cons_of_neg hc]

/-! ### Blanks around a text -/

theorem trimEnd_append {v : List Char} (hv : ∀ c ∈ v, isBlank c = true) (cs : List Char) :
    trimEnd (cs ++ v) = trimEnd cs := by
  have hreverse : ∀ c ∈ v.reverse, isBlank c = true := fun c hc => hv c (List.mem_reverse.mp hc)
  unfold trimEnd
  rw [List.reverse_append, List.dropWhile_append_of_pos hreverse]

/-- Blanks around a text are lost. -/
theorem trimChars_pad {w v : List Char} (hw : ∀ c ∈ w, isBlank c = true)
    (hv : ∀ c ∈ v, isBlank c = true) (cs : List Char) :
    trimChars (w ++ cs ++ v) = trimChars cs := by
  unfold trimChars
  rw [List.append_assoc, List.dropWhile_append_of_pos hw, List.dropWhile_append]
  split
  -- of a blank text the blanks behind it are dropped from the front
  next hempty =>
    rw [List.isEmpty_iff.mp hempty, List.dropWhile_eq_nil_iff.mpr hv]
  next => exact trimEnd_append hv _

/-! ### Texts without blanks at their ends -/

/-- A text without a blank at either end. -/
structure Trimmed (cs : List Char) : Prop where
  front : ∀ c ∈ cs.head?, isBlank c = false
  back : ∀ c ∈ cs.getLast?, isBlank c = false

theorem trimmed_of_not_blank {cs : List Char} (h : ∀ c ∈ cs, isBlank c = false) : Trimmed cs where
  front c hc := h c (List.mem_of_mem_head? hc)
  back c hc := h c (List.mem_of_mem_getLast? hc)

theorem not_isBlank_of_head?_dropWhile {cs : List Char} {c : Char}
    (h : c ∈ (cs.dropWhile isBlank).head?) : isBlank c = false := by
  have hhead := List.head?_dropWhile_not isBlank cs
  rw [Option.mem_def.mp h] at hhead
  simpa using hhead

theorem trimEnd_prefix (cs : List Char) : trimEnd cs <+: cs :=
  List.rdropWhile_prefix isBlank cs

/-- What is left by trimming has no blank at either end. -/
theorem trimmed_trimChars (cs : List Char) : Trimmed (trimChars cs) where
  front c hc := by
    obtain ⟨dropped, hdropped⟩ := trimEnd_prefix (cs.dropWhile isBlank)
    have hfront : c ∈ (cs.dropWhile isBlank).head? := by
      rw [← hdropped, ← trimChars, List.head?_append, Option.mem_def.mp hc]
      rfl
    exact not_isBlank_of_head?_dropWhile hfront
  back c hc := by
    rw [trimChars, trimEnd, List.getLast?_reverse] at hc
    exact not_isBlank_of_head?_dropWhile hc

/-- Trimming leaves exactly the texts without a blank at either end as they are. -/
theorem trimChars_eq_self_iff {cs : List Char} : trimChars cs = cs ↔ Trimmed cs := by
  refine ⟨fun h => h ▸ trimmed_trimChars cs, fun h => ?_⟩
  have hback : ∀ c ∈ cs.reverse.head?, isBlank c = false := by
    rw [List.head?_reverse]
    exact h.back
  rw [trimChars, trimEnd, dropWhile_eq_self h.front, dropWhile_eq_self hback,
    List.reverse_reverse]

end DnsConsole.Text
