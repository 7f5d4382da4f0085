import DnsConsole.Proofs.Url.Ipv4
import DnsConsole.Proofs.Url.Ipv6
import DnsConsole.Url.Host

/-!
# Hosts as text

The host of a URL with a special scheme is settled: it is a name in ASCII that is no address, an IPv4
address, or an IPv6 address of eight groups (`Host.settled_of_parseSpecial`).  The text of a settled
host is read back as the host (`Host.parseSpecial_text`), where a name must be one that is in ASCII as
it stands, and it holds no character that would end it in a URL (`Host.mem_text`).
-/

namespace DnsConsole.Url.Host

open Domain (isHostChar)

/-- A host as it comes out of a URL with a special scheme. -/
inductive Settled : Host → Prop
  | domain {name : List Char} (hne : name ≠ []) (hascii : ∃ cs, Domain.toAscii? cs = some name)
    (hnumeric : Ipv4.isNumeric name = false) : Settled (.domain name)
  | ipv4 (a : Ipv4) : Settled (.ipv4 a)
  | ipv6 {a : Ipv6} (h : a.Valid) : Settled (.ipv6 a)

/-- A host whose name, if it is one, is in ASCII as it stands. -/
def Stable (host : Host) : Prop :=
  ∀ name, host = .domain name → Domain.toAscii? name = some name

/-! ### Hosts that are read -/

theorem settled_of_bracketed {cs : List Char} {host : Host} (h : bracketed cs = .ok host) :
    host.Settled := by
  unfold bracketed at h
  split at h
  · split at h
    next a ha =>
      cases h
      exact .ipv6 (Ipv6.valid_of_parse? ha)
    next => cases h
  · cases h

theorem settled_of_ofAscii {name : List Char} (hascii : ∃ cs, Domain.toAscii? cs = some name)
    {host : Host} (h : ofAscii name = .ok host) : host.Settled := by
  unfold ofAscii at h
  split at h
  · cases h
  next hne =>
    split at h
    · split at h
      next a _ =>
        cases h
        exact .ipv4 a
      next => cases h
    next hnumeric =>
      cases h
      refine .domain (fun hnil => hne ?_) hascii (Bool.eq_false_iff.mpr hnumeric)
      rw [hnil]
      rfl

theorem settled_of_parseSpecial {cs : List Char} {host : Host} (h : parseSpecial cs = .ok host) :
    host.Settled := by
  unfold parseSpecial at h
  split at h
  · exact settled_of_bracketed h
  · split at h
    next name hname =>
      obtain ⟨text, -, htext⟩ := Option.bind_eq_some_iff.mp hname
      exact settled_of_ofAscii ⟨text, htext⟩ h
    next => cases h

/-! ### Characters -/

theorem isHostChar_of_hexDigit {c : Char} (h : Text.Hex.isDigit c = true) : isHostChar c = true := by
  have hlt : c.toNat < 128 := by
    unfold Text.Hex.isDigit Text.Hex.value? at h
    split at h
    next hc => exact Nat.lt_of_le_of_lt (UInt32.le_iff_toNat_le.mp hc.2) (by decide)
    split at h
    next hc => exact Nat.lt_of_le_of_lt (UInt32.le_iff_toNat_le.mp hc.2) (by decide)
    split at h
    next hc => exact Nat.lt_of_le_of_lt (UInt32.le_iff_toNat_le.mp hc.2) (by decide)
    next => cases h
  exact Text.of_forall_ascii (p := fun c => Text.Hex.isDigit c = true → isHostChar c = true)
    (by decide) hlt h

theorem isHostChar_of_mem_ipv4 {a : Ipv4} {c : Char} (hc : c ∈ a.text) : isHostChar c = true := by
  rcases Ipv4.mem_text hc with rfl | hc
  · decide
  · exact Ipv4.isHostChar_of_isDigit hc

/-- The characters of the text of a host. -/
theorem mem_text {host : Host} (h : host.Settled) {c : Char} (hc : c ∈ host.text) :
    isHostChar c = true ∨ c = ':' ∨ c = '[' ∨ c = ']' := by
  cases h with
  | domain _ hascii _ =>
    obtain ⟨cs, hcs⟩ := hascii
    exact Or.inl (Domain.isHostChar_of_toAscii? hcs hc)
  | ipv4 a => exact Or.inl (isHostChar_of_mem_ipv4 hc)
  | ipv6 _ =>
    rcases List.mem_cons.mp hc with rfl | hc
    · exact Or.inr (Or.inr (Or.inl rfl))
    rcases List.mem_append.mp hc with hc | hc
    · rcases Ipv6.mem_text hc with rfl | hc
      · exact Or.inr (Or.inl rfl)
      · exact Or.inl (isHostChar_of_hexDigit hc)
    · exact Or.inr (Or.inr (Or.inr (List.mem_singleton.mp hc)))

theorem text_ne_nil {host : Host} (h : host.Settled) : host.text ≠ [] := by
  cases h with
  | domain hne _ _ => exact hne
  | ipv4 a => exact Ipv4.text_ne_nil a
  | ipv6 _ => exact List.cons_ne_nil _ _

/-! ### Reading the text of a host -/

theorem not_mem_of_isHostChar {cs : List Char} (h : ∀ c ∈ cs, isHostChar c = true) {c : Char}
    (hc : isHostChar c = false) : c ∉ cs := by
  intro hmem
  cases hc.symm.trans (h c hmem)

theorem parseSpecial_of_isHostChar {name : List Char} (h : ∀ c ∈ name, isHostChar c = true)
    (hascii : Domain.toAscii? name = some name) : parseSpecial name = ofAscii name := by
  have hdecode : Text.Percent.decodeText? name = some name :=
    Text.Percent.decodeText?_ascii
      (fun c hc => Domain.isAscii_iff.mp (Domain.isAscii_of_isHostChar (h c hc)))
      (not_mem_of_isHostChar h rfl)
  unfold parseSpecial
  split
  next r => exact absurd List.mem_cons_self (not_mem_of_isHostChar h (c := '[') rfl)
  next =>
    rw [hdecode, Option.bind_some, hascii]

/-- **The text of a host stands for it.** -/
theorem parseSpecial_text {host : Host} (h : host.Settled) (hstable : host.Stable) :
    parseSpecial host.text = .ok host := by
  cases h with
  | @domain name hne hascii hnumeric =>
    change parseSpecial name = _
    have hname := hstable name rfl
    rw [parseSpecial_of_isHostChar (fun c hc => Domain.isHostChar_of_toAscii? hname hc) hname, ofAscii,
      if_neg (by rwa [List.isEmpty_iff]), hnumeric]
    rfl
  | ipv4 a =>
    change parseSpecial a.text = _
    rw [parseSpecial_of_isHostChar (fun c hc => isHostChar_of_mem_ipv4 hc) (Ipv4.toAscii?_text a),
      ofAscii, if_neg (by rw [List.isEmpty_iff]; exact Ipv4.text_ne_nil a),
      if_pos (Ipv4.isNumeric_text a), Ipv4.parse?_text]
  | @ipv6 a hvalid =>
    change bracketed (a.text ++ [']']) = _
    unfold bracketed
    rw [List.getLast?_concat, List.dropLast_concat, Ipv6.parse?_text hvalid]
    rfl

end DnsConsole.Url.Host
