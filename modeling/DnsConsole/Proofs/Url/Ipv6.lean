import DnsConsole.Proofs.Text.Numerals
import DnsConsole.Proofs.Text.Pieces
import DnsConsole.Url.Ipv6
import Mathlib.Data.List.TakeWhile

/-!
# IPv6 addresses as text

Every address that is read has eight groups of sixteen bits (`Ipv6.valid_of_parse?`), and the text of
such an address is read back as the address (`Ipv6.parse?_text`): the gap stands for a run of zero
groups, and as many of them are put back.
-/

namespace DnsConsole.Url.Ipv6

open Text.Hex (digits)

/-- Groups of sixteen bits. -/
def Fits (gs : List Nat) : Prop :=
  ∀ g ∈ gs, g < 65536

/-- An address of eight groups of sixteen bits. -/
structure Valid (a : Ipv6) : Prop where
  length : a.groups.length = 8
  fits : Fits a.groups

theorem Fits.append {gs gs' : List Nat} (h : Fits gs) (h' : Fits gs') : Fits (gs ++ gs') := by
  intro g hg
  rcases List.mem_append.mp hg with hg | hg
  · exact h g hg
  · exact h' g hg

theorem Fits.replicate_zero (n : Nat) : Fits (List.replicate n 0) := by
  intro g hg
  rw [List.eq_of_mem_replicate hg]
  decide

/-! ### What is read -/

theorem byte?_lt {cs : List Char} {n : Nat} (h : byte? cs = some n) : n < 256 := by
  unfold byte? at h
  split at h
  · cases h
  next m _ =>
    split at h
    next hlt =>
      cases h
      exact hlt
    next => cases h
  · cases h

theorem ipv4Groups?_spec {cs : List Char} {gs : List Nat} (h : ipv4Groups? cs = some gs) :
    gs.length = 2 ∧ Fits gs := by
  unfold ipv4Groups? at h
  split at h
  next a b c d hbytes =>
    have hlt : ∀ n ∈ [a, b, c, d], n < 256 := fun n hn => by
      obtain ⟨p, -, hp⟩ := Text.exists_of_mem_forall₂ (Text.mapM_eq_some_iff.mp hbytes) hn
      exact byte?_lt hp
    have ha := hlt a (by simp)
    have hb := hlt b (by simp)
    have hc := hlt c (by simp)
    have hd := hlt d (by simp)
    cases h
    refine ⟨rfl, fun g hg => ?_⟩
    rcases List.mem_cons.mp hg with rfl | hg
    · omega
    · cases List.mem_singleton.mp hg
      omega
  next => cases h

theorem length_groupDigits_le (cs : List Char) : (groupDigits cs).length ≤ 4 :=
  Nat.le_trans (List.takeWhile_prefix _).length_le (List.length_take_le 4 cs)

theorem group_lt {cs : List Char} {g : Nat} (h : Text.Hex.read? 0 (groupDigits cs) = some g) :
    g < 65536 := by
  have hlt := Text.Hex.read?_lt h
  have hpow : 16 ^ (groupDigits cs).length ≤ 16 ^ 4 :=
    Nat.pow_le_pow_right (by decide) (length_groupDigits_le cs)
  omega

theorem count_push (s : Reading) (g : Nat) : (s.push g).count = s.count + 1 := by
  simp only [Reading.count, Reading.push, List.length_append, List.length_singleton]
  omega

theorem Fits.push {s : Reading} (h : Fits s.groups) {g : Nat} (hg : g < 65536) :
    Fits (s.push g).groups := by
  refine h.append fun x hx => ?_
  rwa [List.mem_singleton.mp hx]

/-- The groups that are read have sixteen bits, and there are not too many of them. -/
theorem readGroups?_spec {s s' : Reading} {cs : List Char} (h : readGroups? s cs = some s')
    (hcount : s.count ≤ 8) (hfits : Fits s.groups) : s'.count ≤ 8 ∧ Fits s'.groups := by
  fun_induction readGroups? s cs with
  | case1 s =>
    cases h
    exact ⟨hcount, hfits⟩
  | case2 => cases h
  | case3 => cases h
  | case4 s r hne hgap ih =>
    refine ih h ?_ hfits
    have hnone : s.gap = none := by simpa using hgap
    simp only [Reading.count, hnone, Option.toList_none, Option.toList_some, List.length_nil,
      List.length_singleton] at *
    omega
  | case5 s c r hne hcolon ds hrest =>
    obtain ⟨g, hg, rfl⟩ := Option.map_eq_some_iff.mp h
    exact ⟨by rw [count_push]; omega, hfits.push (group_lt hg)⟩
  | case6 => cases h
  | case7 s c r hne hcolon ds t hroom =>
    obtain ⟨gs, hgs, rfl⟩ := Option.map_eq_some_iff.mp h
    obtain ⟨hlength, hgs⟩ := ipv4Groups?_spec hgs
    refine ⟨?_, hfits.append hgs⟩
    simp only [Reading.count, List.length_append] at *
    omega
  | case8 s c r hne hcolon ds d t hrest hdot hmore hlt ih =>
    obtain ⟨g, hg, h⟩ := Option.bind_eq_some_iff.mp h
    exact ih g h (by rw [count_push]; omega) (hfits.push (group_lt hg))
  | case9 => cases h

theorem address?_valid {s : Reading} {a : Ipv6} (h : s.address? = some a) (hcount : s.count ≤ 8)
    (hfits : Fits s.groups) : a.Valid := by
  unfold Reading.address? at h
  cases hgap : s.gap with
  | none =>
    rw [hgap] at h
    dsimp only at h
    split at h
    next hlength =>
      cases h
      exact ⟨hlength, hfits⟩
    next => cases h
  | some n =>
    rw [hgap] at h
    cases h
    have hlength : s.groups.length + 1 ≤ 8 := by
      rw [Reading.count, hgap] at hcount
      exact hcount
    refine ⟨?_, ?_⟩
    · simp only [List.length_append, List.length_take, List.length_replicate, List.length_drop]
      omega
    · refine Fits.append (Fits.append (fun g hg => ?_) (Fits.replicate_zero _)) fun g hg => ?_
      · exact hfits g (List.mem_of_mem_take hg)
      · exact hfits g (List.mem_of_mem_drop hg)

/-- **An address that is read has eight groups of sixteen bits.** -/
theorem valid_of_parse? {cs : List Char} {a : Ipv6} (h : parse? cs = some a) : a.Valid := by
  have hnil : Fits [] := fun g hg => by cases hg
  unfold parse? at h
  obtain ⟨s, hs, ha⟩ := Option.bind_eq_some_iff.mp h
  split at hs
  · obtain ⟨hcount, hfits⟩ := readGroups?_spec hs (by decide) hnil
    exact address?_valid ha hcount hfits
  · cases hs
  · obtain ⟨hcount, hfits⟩ := readGroups?_spec hs (by decide) hnil
    exact address?_valid ha hcount hfits

/-! ### The groups of a text -/

theorem head_digits (g : Nat) (t : List Char) :
    ∃ c r, digits g ++ t = c :: r ∧ Text.Hex.isDigit c = true := by
  cases hd : digits g with
  | nil => exact absurd hd (Text.Hex.digits_ne_nil g)
  | cons c r =>
    refine ⟨c, r ++ t, rfl, Text.Hex.isDigit_of_mem_digits (n := g) ?_⟩
    rw [hd]
    exact List.mem_cons_self

theorem groupDigits_digits {g : Nat} (hg : g < 65536) {t : List Char}
    (ht : ∀ c ∈ t.head?, Text.Hex.isDigit c = false) : groupDigits (digits g ++ t) = digits g := by
  have hlength : (digits g).length ≤ 4 := Text.Hex.length_digits_le (by decide) hg
  have htail : (t.take (4 - (digits g).length)).takeWhile Text.Hex.isDigit = [] := by
    cases t with
    | nil => simp
    | cons c r =>
      cases h : 4 - (digits g).length with
      | zero => rfl
      | succ n =>
        rw [List.take_succ_cons, List.takeWhile_cons_of_neg (Bool.eq_false_iff.mp (ht c rfl))]
  unfold groupDigits
  rw [List.take_append, List.take_of_length_le hlength, List.takeWhile_append_of_pos
    fun c hc => Text.Hex.isDigit_of_mem_digits hc, htail, List.append_nil]

theorem readGroups?_cons {s : Reading} {c : Char} {r : List Char} (hcount : s.count ≠ 8)
    (hc : c ≠ ':') :
    readGroups? s (c :: r) =
      match (c :: r).drop (groupDigits (c :: r)).length with
      | [] => (Text.Hex.read? 0 (groupDigits (c :: r))).map s.push
      | d :: t =>
        if d = '.' then
          if (groupDigits (c :: r)).isEmpty ∨ 6 < s.count then none
          else (ipv4Groups? (c :: r)).map fun gs => { s with groups := s.groups ++ gs }
        else if d = ':' ∧ !t.isEmpty then
          (Text.Hex.read? 0 (groupDigits (c :: r))).bind fun group => readGroups? (s.push group) t
        else none := by
  rw [readGroups?, if_neg hcount, if_neg hc]
  dsimp only
  split
  next h => rw [h]
  next d t h => rw [h]

theorem ne_colon_of_isDigit {c : Char} (h : Text.Hex.isDigit c = true) : c ≠ ':' := by
  rintro rfl
  cases h

theorem readGroups?_digits {s : Reading} (hcount : s.count < 8) {g : Nat} (hg : g < 65536) :
    readGroups? s (digits g) = some (s.push g) := by
  have hgroup := groupDigits_digits hg (t := []) (by simp)
  obtain ⟨c, r, hcr, hc⟩ := head_digits g []
  rw [List.append_nil] at hgroup hcr
  rw [hcr] at hgroup ⊢
  rw [readGroups?_cons (Nat.ne_of_lt hcount) (ne_colon_of_isDigit hc), hgroup, ← hcr,
    List.drop_length, Text.Hex.read?_digits]
  rfl

theorem readGroups?_digits_colon {s : Reading} (hcount : s.count < 8) {g : Nat} (hg : g < 65536)
    {t : List Char} (ht : t ≠ []) :
    readGroups? s (digits g ++ ':' :: t) = readGroups? (s.push g) t := by
  have hgroup := groupDigits_digits hg (t := ':' :: t) fun c hc => by
    cases hc
    rfl
  obtain ⟨c, r, hcr, hc⟩ := head_digits g (':' :: t)
  rw [hcr] at hgroup ⊢
  rw [readGroups?_cons (Nat.ne_of_lt hcount) (ne_colon_of_isDigit hc), hgroup, ← hcr,
    List.drop_left, Text.Hex.read?_digits]
  dsimp only
  rw [if_neg (by decide), if_pos ⟨rfl, by rw [List.isEmpty_eq_false_iff.mpr ht]; rfl⟩]
  rfl

/-- A reading with more groups. -/
def Reading.extend (s : Reading) (gs : List Nat) : Reading :=
  { s with groups := s.groups ++ gs }

theorem extend_nil (s : Reading) : s.extend [] = s := by
  unfold Reading.extend
  rw [List.append_nil]

theorem extend_push (s : Reading) (g : Nat) (gs : List Nat) :
    (s.push g).extend gs = s.extend (g :: gs) := by
  unfold Reading.extend Reading.push
  rw [List.append_assoc, List.singleton_append]

theorem groupsText_singleton (g : Nat) : groupsText [g] = digits g :=
  List.intercalate_singleton

theorem groupsText_cons_cons (g g' : Nat) (gs : List Nat) :
    groupsText (g :: g' :: gs) = digits g ++ ':' :: groupsText (g' :: gs) := rfl

theorem groupsText_ne_nil {gs : List Nat} (h : gs ≠ []) : groupsText gs ≠ [] := by
  match gs, h with
  | [g], _ =>
    rw [groupsText_singleton]
    exact Text.Hex.digits_ne_nil g
  | g :: g' :: gs, _ =>
    rw [groupsText_cons_cons]
    exact List.append_ne_nil_of_right_ne_nil _ (List.cons_ne_nil _ _)

/-- Groups with colons between them are read. -/
theorem readGroups?_groupsText {s : Reading} {gs : List Nat} (hgs : Fits gs)
    (hcount : s.count + gs.length ≤ 8) : readGroups? s (groupsText gs) = some (s.extend gs) := by
  induction gs generalizing s with
  | nil =>
    rw [extend_nil, groupsText, List.map_nil, List.intercalate_nil, readGroups?]
  | cons g gs ih =>
    rw [List.length_cons] at hcount
    have hg := hgs g List.mem_cons_self
    cases gs with
    | nil =>
      rw [groupsText_singleton, ← extend_push, extend_nil]
      exact readGroups?_digits (by omega) hg
    | cons g' gs =>
      rw [groupsText_cons_cons, readGroups?_digits_colon (by omega) hg
        (groupsText_ne_nil (List.cons_ne_nil _ _)), ← extend_push]
      exact ih (fun x hx => hgs x (List.mem_cons_of_mem g hx)) (by rw [count_push]; omega)

/-- Groups with a colon behind each of them are read. -/
theorem readGroups?_groupsText_colon {s : Reading} {gs : List Nat} (hne : gs ≠ []) (hgs : Fits gs)
    (hcount : s.count + gs.length ≤ 8) {t : List Char} (ht : t ≠ []) :
    readGroups? s (groupsText gs ++ ':' :: t) = readGroups? (s.extend gs) t := by
  induction gs generalizing s with
  | nil => exact absurd rfl hne
  | cons g gs ih =>
    rw [List.length_cons] at hcount
    have hg := hgs g List.mem_cons_self
    cases gs with
    | nil =>
      rw [groupsText_singleton, ← extend_push, extend_nil]
      exact readGroups?_digits_colon (by omega) hg ht
    | cons g' gs =>
      rw [groupsText_cons_cons, List.append_assoc, List.cons_append,
        readGroups?_digits_colon (by omega) hg (by simp), ← extend_push]
      exact ih (List.cons_ne_nil _ _) (fun x hx => hgs x (List.mem_cons_of_mem g hx))
        (by rw [count_push]; omega)

/-! ### The gap -/

/-- A run of zeros of a list: its start and its length. -/
def IsRun (gs : List Nat) (run : Nat × Nat) : Prop :=
  ∃ before after, gs = before ++ (List.replicate run.2 0 ++ after) ∧ before.length = run.1

theorem takeWhile_zero_eq (gs : List Nat) :
    gs.takeWhile (· == 0) = List.replicate (gs.takeWhile (· == 0)).length 0 := by
  refine List.eq_replicate_iff.mpr ⟨rfl, fun g hg => ?_⟩
  exact beq_iff_eq.mp (List.mem_takeWhile_imp (p := (· == 0)) hg)

theorem isRun_longestZeros (before gs : List Nat) {best : Nat × Nat}
    (h : IsRun (before ++ gs) best) :
    IsRun (before ++ gs) (longestZeros best before.length gs) := by
  induction gs generalizing before best with
  | nil => exact h
  | cons g gs ih =>
    have hstep : ∀ run, IsRun (before ++ g :: gs) run →
        IsRun (before ++ g :: gs) (longestZeros run (before.length + 1) gs) := by
      intro run hrun
      rw [← List.singleton_append, ← List.append_assoc] at hrun
      have hnext := ih (before ++ [g]) hrun
      rwa [List.append_assoc, List.singleton_append, List.length_append, List.length_singleton]
        at hnext
    rw [longestZeros]
    refine hstep _ ?_
    split
    · refine ⟨before, (g :: gs).dropWhile (· == 0), ?_, rfl⟩
      rw [← takeWhile_zero_eq, List.takeWhile_append_dropWhile]
    · exact h

theorem parse?_of_ne_colon {cs : List Char} (h : ∀ c ∈ cs.head?, c ≠ ':') :
    parse? cs = (readGroups? ⟨[], none⟩ cs).bind Reading.address? := by
  unfold parse?
  split
  next h' => exact absurd rfl (h ':' rfl)
  next h' => exact absurd rfl (h ':' rfl)
  next => rfl

theorem head_groupsText {gs : List Nat} (hne : gs ≠ []) (t : List Char) :
    ∀ c ∈ (groupsText gs ++ t).head?, c ≠ ':' := by
  intro c hc
  have hdigits : ∃ g u, groupsText gs ++ t = digits g ++ u := by
    match gs, hne with
    | [g], _ => exact ⟨g, t, by rw [groupsText_singleton]⟩
    | g :: g' :: gs, _ => exact ⟨g, _, by rw [groupsText_cons_cons, List.append_assoc]⟩
  obtain ⟨g, u, hgu⟩ := hdigits
  obtain ⟨d, r, hdr, hd⟩ := head_digits g u
  rw [hgu, hdr] at hc
  cases hc
  exact ne_colon_of_isDigit hd

/-- Groups with a gap between them are read, and zeros are put into the gap. -/
theorem parse?_gap {before after : List Nat} (hbefore : Fits before) (hafter : Fits after)
    {length : Nat} (hpos : 0 < length) (htotal : before.length + (length + after.length) = 8) :
    parse? (groupsText before ++ ':' :: ':' :: groupsText after) =
      some ⟨before ++ (List.replicate length 0 ++ after)⟩ := by
  have hcount : (Reading.mk before (some before.length)).count + after.length ≤ 8 := by
    simp only [Reading.count, Option.toList_some, List.length_singleton]
    omega
  have hreading : readGroups? ⟨before, some before.length⟩ (groupsText after) =
      some ⟨before ++ after, some before.length⟩ :=
    readGroups?_groupsText hafter hcount
  have haddress : Reading.address? ⟨before ++ after, some before.length⟩ =
      some ⟨before ++ (List.replicate length 0 ++ after)⟩ := by
    have hlength : 8 - (before ++ after).length = length := by
      rw [List.length_append]
      omega
    unfold Reading.address?
    dsimp only
    rw [hlength, List.take_left, List.drop_left, List.append_assoc]
  -- without groups in front the gap is read by `parse?` itself, else behind the colon of the last one
  by_cases hne : before = []
  · subst hne
    change (readGroups? ⟨[], some 0⟩ (groupsText after)).bind Reading.address? = _
    rw [show readGroups? ⟨[], some 0⟩ (groupsText after) = some ⟨[] ++ after, some 0⟩ from hreading]
    exact haddress
  · have hroom : (Reading.mk [] none).count + before.length ≤ 8 := by
      simp only [Reading.count, Option.toList_none, List.length_nil]
      omega
    rw [parse?_of_ne_colon (head_groupsText hne _),
      readGroups?_groupsText_colon hne hbefore hroom (List.cons_ne_nil _ _)]
    have hcount : (Reading.extend ⟨[], none⟩ before).count ≠ 8 := by
      simp only [Reading.extend, Reading.count, Option.toList_none, List.length_nil, List.nil_append]
      omega
    rw [readGroups?, if_neg hcount, if_pos rfl, if_neg (by exact Bool.false_ne_true)]
    change (readGroups? ⟨before, some before.length⟩ (groupsText after)).bind _ = _
    rw [hreading]
    exact haddress

/-- **The text of an address stands for it.** -/
theorem parse?_text {a : Ipv6} (h : a.Valid) : parse? a.text = some a := by
  obtain ⟨before, after, hgroups, hbefore⟩ : IsRun a.groups (longestZeros (0, 0) 0 a.groups) :=
    isRun_longestZeros [] a.groups ⟨[], a.groups, rfl, rfl⟩
  have hlength := h.length
  have hfits := h.fits
  unfold text
  generalize longestZeros (0, 0) 0 a.groups = run at hgroups hbefore ⊢
  obtain ⟨start, length⟩ := run
  dsimp only at hgroups hbefore ⊢
  split
  next hlong =>
    have hpre : a.groups.take start = before := by
      rw [hgroups, ← hbefore, List.take_left]
    have hpost : a.groups.drop (start + length) = after := by
      rw [hgroups, ← hbefore, ← List.drop_drop, List.drop_left,
        List.drop_left' List.length_replicate]
    have htotal : before.length + (length + after.length) = 8 := by
      rw [hgroups, List.length_append, List.length_append, List.length_replicate] at hlength
      exact hlength
    have hparse := parse?_gap (fun g hg => hfits g (List.mem_of_mem_take (hpre ▸ hg)))
      (fun g hg => hfits g (List.mem_of_mem_drop (hpost ▸ hg))) (Nat.lt_of_lt_of_le Nat.two_pos hlong)
      htotal
    rw [hpre, hpost, List.append_assoc]
    exact hparse.trans (congrArg (fun gs => some (Ipv6.mk gs)) hgroups.symm)
  next =>
    have hne : a.groups ≠ [] := by
      intro hnil
      rw [hnil] at hlength
      cases hlength
    have hhead := head_groupsText hne []
    rw [List.append_nil] at hhead
    rw [parse?_of_ne_colon hhead, readGroups?_groupsText hfits (by rw [hlength]; decide)]
    change Reading.address? ⟨[] ++ a.groups, none⟩ = some a
    rw [List.nil_append, Reading.address?, if_pos hlength]

theorem mem_groupsText {gs : List Nat} {c : Char} (h : c ∈ groupsText gs) :
    c = ':' ∨ Text.Hex.isDigit c = true := by
  rcases Text.mem_of_mem_intercalate h with h | ⟨p, hp, hc⟩
  · exact Or.inl h
  · obtain ⟨g, -, rfl⟩ := List.mem_map.mp hp
    exact Or.inr (Text.Hex.isDigit_of_mem_digits hc)

theorem mem_text {a : Ipv6} {c : Char} (h : c ∈ a.text) : c = ':' ∨ Text.Hex.isDigit c = true := by
  unfold text at h
  dsimp only at h
  split at h
  · rcases List.mem_append.mp h with h | h
    · rcases List.mem_append.mp h with h | h
      · exact mem_groupsText h
      · exact Or.inl (by simpa using h)
    · exact mem_groupsText h
  · exact mem_groupsText h

end DnsConsole.Url.Ipv6
