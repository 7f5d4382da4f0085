import DnsConsole.Proofs.Domain.Ascii
import DnsConsole.Proofs.Unicode.Normalization

/-!
# Refused characters in a domain name

A name with a refused character cannot be brought into ASCII if the character comes through mapping and
normalizing, as a bracket does (`toAscii?_of_bracket`): it is then still there when the labels are
checked, and a label that holds it is no label, marked or not.
-/

namespace DnsConsole.Domain

/-- A refused character that mapping and normalizing leave alone. -/
structure IsLasting (c : Char) : Prop where
  ascii : isAscii c = true
  lower : lower c = c
  apart : Unicode.IsApart c
  refused : isRefused c = true

theorem isLasting_bracket : IsLasting '[' where
  ascii := by decide
  lower := by decide
  apart := Unicode.isApart_bracket
  refused := by decide

/-- No label holds a refused character. -/
theorem not_isRefused_of_ofMapped? {cs : List Char} {l : Label} (h : Label.ofMapped? cs = some l)
    {c : Char} (hc : c ∈ cs) : isRefused c = false := by
  by_cases hascii : cs.all isAscii = true
  · rw [← ascii_eq_of_all_isAscii hascii h] at hc
    exact (isHostChar_iff.mp (isHostChar_of_mem_ascii h hc)).2
  · unfold Label.ofMapped? at h
    rw [if_neg hascii] at h
    split at h
    · cases h
    split at h
    · cases h
    next hvalid => exact not_isRefused_of_isValidFull (by simpa using hvalid) hc

variable {c : Char} {cs : List Char}

theorem mem_fold? (hc : IsLasting c) (hmem : c ∈ cs) {folded : List Char}
    (h : fold? cs = some folded) : c ∈ folded := by
  unfold fold? at h
  split at h
  · cases h
    exact List.mem_map.mpr ⟨c, hmem, hc.lower⟩
  obtain ⟨parts, hparts, rfl⟩ := Option.map_eq_some_iff.mp h
  obtain ⟨part, hpart, heq⟩ :=
    Text.exists_of_mem_forall₂ (Text.mapM_eq_some_iff.mp hparts).flip hmem
  rw [if_pos hc.ascii, hc.lower] at heq
  cases heq
  have hself : c ∈ Unicode.decompose c := by
    have hlt : c.toNat < 0xC0 := Nat.lt_trans (isAscii_iff.mp hc.ascii) (by decide)
    rw [Unicode.decompose, if_pos hlt]
    exact List.mem_singleton_self c
  exact Unicode.mem_composed hc.apart hself
    (List.mem_flatten.mpr ⟨[c], hpart, List.mem_singleton_self c⟩)

/-- **A refused character that comes through mapping and normalizing makes a name unreadable.** -/
theorem toAscii?_of_isLasting (hc : IsLasting c) (hmem : c ∈ cs) : toAscii? cs = none := by
  refine Option.eq_none_iff_forall_ne_some.mpr fun name h => ?_
  obtain ⟨labels, hlabels, -⟩ := toAscii?_eq_some_iff.mp h
  obtain ⟨folded, hfolded, hpieces, -⟩ := labels?_eq_some_iff.mp hlabels
  have hkept := mem_fold? hc hmem hfolded
  have hfolded : ['.'].intercalate (Text.split '.' folded) = folded := List.intercalate_splitOn '.'
  rw [← hfolded] at hkept
  have hrefused := hc.refused
  rcases Text.mem_of_mem_intercalate hkept with rfl | ⟨piece, hpiece, hkept⟩
  · cases hrefused
  · obtain ⟨l, -, hl⟩ := Text.exists_of_mem_forall₂ hpieces.flip hpiece
    cases (not_isRefused_of_ofMapped? hl hkept).symm.trans hrefused

theorem toAscii?_of_bracket (h : '[' ∈ cs) : toAscii? cs = none :=
  toAscii?_of_isLasting isLasting_bracket h

end DnsConsole.Domain
