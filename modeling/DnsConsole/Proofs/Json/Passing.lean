import DnsConsole.Proofs.Json.Digits

/-!
# Passing over values of alike texts

Whatever is passed over is passed over without regard to its digits: white space, numbers, words, keys
and values nested to any depth.  The main statement is `agree_skipValue`: of alike texts, either the
values end in the same fault, or both are well formed and what follows them is alike.

A value starts where no digit stands in front, since it follows a bracket, a comma, a colon or white
space; what follows a value may stand behind a digit, which asks less of alike texts
(`Alike.weaken`).
-/

namespace DnsConsole.Json

open Text.Decimal (isDigit)

/-! ### First characters -/

/-- Two characters that are the same, or both digits. -/
def SameKind (c c' : Char) : Prop :=
  isDigit c = isDigit c' ∧ (isDigit c = false → c = c')

theorem SameKind.symm {c c' : Char} (h : SameKind c c') : SameKind c' c :=
  ⟨h.1.symm, fun hd => (h.2 (h.1.trans hd)).symm⟩

theorem SameKind.eq {c c' x : Char} (h : SameKind c c') (hc : c = x) (hx : isDigit x = false) :
    c' = x := by
  subst hc
  exact (h.2 hx).symm

theorem SameKind.iff {c c' x : Char} (h : SameKind c c') (hx : isDigit x = false) :
    c = x ↔ c' = x :=
  ⟨fun hc => h.eq hc hx, fun hc => h.symm.eq hc hx⟩

theorem SameKind.ne {c c' x : Char} (h : SameKind c c') (hc : c ≠ x) (hx : isDigit x = false) :
    c' ≠ x :=
  mt (h.iff hx).mpr hc

/-- Characters of one kind start an exponent, or neither does. -/
theorem SameKind.exponent_iff {c c' : Char} (h : SameKind c c') :
    (c = 'e' ∨ c = 'E') ↔ (c' = 'e' ∨ c' = 'E') :=
  or_congr (h.iff rfl) (h.iff rfl)

/-- Characters of one kind start a number, or neither does. -/
theorem SameKind.number_iff {c c' : Char} (h : SameKind c c') :
    (c = '-' ∨ isDigit c = true) ↔ (c' = '-' ∨ isDigit c' = true) :=
  or_congr (h.iff rfl) (by rw [h.1])

/-- Where two readers choose between the same ways, it is enough to follow each way. -/
theorem rel_ite {α : Type} {rel : α → α → Prop} {p p' : Prop} [Decidable p] [Decidable p']
    {x x' y y' : α} (hp : p ↔ p') (hx : p → rel x x') (hy : ¬ p → rel y y') :
    rel (if p then x else y) (if p' then x' else y') := by
  by_cases h : p
  · rw [if_pos h, if_pos (hp.mp h)]
    exact hx h
  · rw [if_neg h, if_neg (mt hp.mpr h)]
    exact hy h

/-- The first characters of alike texts, outside escapes. -/
theorem Alike.uncons {b : Bool} {cs cs' : List Char} (h : Alike (.plain b) cs cs') :
    (cs = [] ∧ cs' = []) ∨
    ∃ c c' r r', cs = c :: r ∧ cs' = c' :: r' ∧ SameKind c c' ∧
      (b = false → (c = '0' ↔ c' = '0')) ∧ (c ≠ '\\' → Alike (.plain (isDigit c)) r r') := by
  rcases h.cases with h | ⟨c, r, r', rfl, rfl, hr⟩ | ⟨c, c', r, r', rfl, rfl, hc, hc', -, hzero, hr⟩
  · exact Or.inl h
  · refine Or.inr ⟨c, c, r, r', rfl, rfl, ⟨rfl, fun _ => rfl⟩, fun _ => Iff.rfl, fun hb => ?_⟩
    rwa [next_plain_of_ne hb] at hr
  · refine Or.inr ⟨c, c', r, r', rfl, rfl, ⟨hc.trans hc'.symm, fun h => ?_⟩, fun hb => ?_, fun _ => ?_⟩
    · cases hc.symm.trans h
    · exact hzero (congrArg Front.plain hb)
    · rwa [hc]

theorem startsWithDigit_of_alike {b : Bool} {cs cs' : List Char} (h : Alike (.plain b) cs cs') :
    startsWithDigit cs = startsWithDigit cs' := by
  rcases h.uncons with ⟨rfl, rfl⟩ | ⟨c, c', r, r', rfl, rfl, hk, -, -⟩
  · rfl
  · exact hk.1

theorem isDigit_of_isSpace {c : Char} (h : isSpace c = true) : isDigit c = false ∧ c ≠ '\\' := by
  simp only [isSpace, Bool.or_eq_true, beq_iff_eq] at h
  rcases h with ((rfl | rfl) | rfl) | rfl <;> decide

theorem alike_skipSpace {b : Bool} {cs cs' : List Char} (h : Alike (.plain b) cs cs') :
    Alike (.plain b) (skipSpace cs) (skipSpace cs') := by
  induction cs generalizing b cs' with
  | nil =>
    cases h
    exact .nil _
  | cons c r ih =>
    rcases h.uncons with ⟨hn, -⟩ | ⟨d, c', t, r', hd, rfl, hk, -, hr⟩
    · cases hn
    · cases hd
      cases hc : isSpace c with
      | false =>
        have hc' : isSpace c' = false := by
          refine Bool.eq_false_iff.mpr fun hs => ?_
          rw [hk.2 (hk.1.trans (isDigit_of_isSpace hs).1), hs] at hc
          cases hc
        rwa [skipSpace, List.dropWhile_cons_of_neg (Bool.eq_false_iff.mp hc), skipSpace,
          List.dropWhile_cons_of_neg (Bool.eq_false_iff.mp hc')]
      | true =>
        obtain ⟨hdigit, hb⟩ := isDigit_of_isSpace hc
        cases hk.2 hdigit
        have ht := ih (hr hb)
        rw [hdigit] at ht
        rw [skipSpace, List.dropWhile_cons_of_pos hc, skipSpace, List.dropWhile_cons_of_pos hc]
        cases b with
        | false => exact ht
        | true => exact ht.weaken

/-! ### Numbers -/

theorem skipDigits_of_isDigit {c : Char} (h : isDigit c = true) (r : List Char) :
    skipDigits (c :: r) = skipDigits r :=
  List.dropWhile_cons_of_pos h

theorem skipDigits_of_not_isDigit {c : Char} (h : isDigit c = false) (r : List Char) :
    skipDigits (c :: r) = c :: r :=
  List.dropWhile_cons_of_neg (Bool.eq_false_iff.mp h)

theorem alike_skipDigits {b : Bool} {cs cs' : List Char} (h : Alike (.plain b) cs cs') :
    Alike (.plain true) (skipDigits cs) (skipDigits cs') := by
  induction cs generalizing b cs' with
  | nil =>
    cases h
    exact .nil _
  | cons c r ih =>
    rcases h.uncons with ⟨hn, -⟩ | ⟨d, c', t, r', hd, rfl, hk, -, hr⟩
    · cases hn
    · cases hd
      cases hc : isDigit c with
      | false =>
        have hc' := hk.1.symm.trans hc
        rw [skipDigits_of_not_isDigit hc, skipDigits_of_not_isDigit hc']
        exact h.weaken
      | true =>
        have hc' := hk.1.symm.trans hc
        rw [skipDigits_of_isDigit hc, skipDigits_of_isDigit hc']
        exact ih (hr (ne_of_isDigit hc rfl))

theorem skipSign_of_ne {c : Char} (hplus : c ≠ '+') (hminus : c ≠ '-') (r : List Char) :
    skipSign (c :: r) = c :: r := by
  unfold skipSign
  split <;> simp_all

theorem alike_skipSign {b : Bool} {cs cs' : List Char} (h : Alike (.plain b) cs cs') :
    Alike (.plain true) (skipSign cs) (skipSign cs') := by
  rcases h.uncons with ⟨rfl, rfl⟩ | ⟨c, c', r, r', rfl, rfl, hk, -, hr⟩
  · exact .nil _
  · by_cases hplus : c = '+'
    · cases hk.eq hplus rfl
      subst hplus
      exact (hr (by decide)).weaken
    · by_cases hminus : c = '-'
      · cases hk.eq hminus rfl
        subst hminus
        exact (hr (by decide)).weaken
      · rw [skipSign_of_ne hplus hminus, skipSign_of_ne (hk.ne hplus rfl)
          (hk.ne hminus rfl)]
        exact h.weaken

theorem agree_skipExponent {b : Bool} {cs cs' : List Char} (h : Alike (.plain b) cs cs') :
    Agree Eq (Alike (.plain true)) (skipExponent cs) (skipExponent cs') := by
  rcases h.uncons with ⟨rfl, rfl⟩ | ⟨c, c', r, r', rfl, rfl, hk, -, hr⟩
  · exact .ok (.nil _)
  · unfold skipExponent
    dsimp only
    refine rel_ite hk.exponent_iff (fun hc => ?_) fun _ => .ok h.weaken
    have hs := alike_skipSign (hr (by rcases hc with rfl | rfl <;> decide))
    rw [← startsWithDigit_of_alike hs]
    split
    · exact .ok (alike_skipDigits hs)
    · exact agree_fault hs _ _

theorem skipFraction_of_ne {c : Char} (h : c ≠ '.') (r : List Char) :
    skipFraction (c :: r) = skipExponent (c :: r) := by
  unfold skipFraction
  split <;> simp_all

theorem agree_skipFraction {b : Bool} {cs cs' : List Char} (h : Alike (.plain b) cs cs') :
    Agree Eq (Alike (.plain true)) (skipFraction cs) (skipFraction cs') := by
  rcases h.uncons with ⟨rfl, rfl⟩ | ⟨c, c', r, r', rfl, rfl, hk, -, hr⟩
  · exact .ok (.nil _)
  · by_cases hc : c = '.'
    · cases hk.eq hc rfl
      subst hc
      have hr := hr (by decide)
      simp only [skipFraction]
      rw [← startsWithDigit_of_alike hr]
      split
      · exact agree_skipExponent (alike_skipDigits hr)
      · exact agree_fault hr _ _
    · rw [skipFraction_of_ne hc, skipFraction_of_ne (hk.ne hc rfl)]
      exact agree_skipExponent h

theorem skipUnsigned_of_ne {c : Char} (h : c ≠ '0') (r : List Char) :
    skipUnsigned (c :: r) =
      if isDigit c then skipFraction (skipDigits r) else fault .invalidNumber (c :: r) 1 := by
  unfold skipUnsigned
  split <;> simp_all

theorem agree_skipUnsigned {cs cs' : List Char} (h : Alike (.plain false) cs cs') :
    Agree Eq (Alike (.plain true)) (skipUnsigned cs) (skipUnsigned cs') := by
  rcases h.uncons with ⟨rfl, rfl⟩ | ⟨c, c', r, r', rfl, rfl, hk, hzero, hr⟩
  · exact .refl_fault _
  · by_cases hc : c = '0'
    · cases (hzero rfl).mp hc
      subst hc
      have hr := hr (by decide)
      simp only [skipUnsigned]
      rw [← startsWithDigit_of_alike hr]
      split
      · exact agree_fault hr _ _
      · exact agree_skipFraction hr
    · rw [skipUnsigned_of_ne hc, skipUnsigned_of_ne (fun h => hc ((hzero rfl).mpr h)), ← hk.1]
      split
      next hd => exact agree_skipFraction (alike_skipDigits (hr (ne_of_isDigit hd rfl)))
      next => exact agree_fault h _ _

theorem skipNumber_of_ne {c : Char} (h : c ≠ '-') (r : List Char) :
    skipNumber (c :: r) = skipUnsigned (c :: r) := by
  unfold skipNumber
  split <;> simp_all

theorem agree_skipNumber {cs cs' : List Char} (h : Alike (.plain false) cs cs') :
    Agree Eq (Alike (.plain true)) (skipNumber cs) (skipNumber cs') := by
  rcases h.uncons with ⟨rfl, rfl⟩ | ⟨c, c', r, r', rfl, rfl, hk, -, hr⟩
  · exact .refl_fault _
  · by_cases hc : c = '-'
    · cases hk.eq hc rfl
      subst hc
      exact agree_skipUnsigned (hr (by decide))
    · rw [skipNumber_of_ne hc, skipNumber_of_ne (hk.ne hc rfl)]
      exact agree_skipUnsigned h

/-! ### Values without parts -/

/-- A character of a word: no digit and no backslash. -/
def isWordChar (c : Char) : Bool :=
  !isDigit c && c != '\\'

/-- A word is read the same way everywhere. -/
theorem agree_skipWord {word : List Char} (hword : word.all isWordChar = true)
    {cs cs' : List Char} (h : Alike (.plain false) cs cs') :
    Agree Eq (Alike (.plain false)) (skipWord word cs) (skipWord word cs') := by
  induction word generalizing cs cs' with
  | nil => exact .ok h
  | cons w ws ih =>
    obtain ⟨hword, hws⟩ := Bool.and_eq_true_iff.mp (List.all_cons ▸ hword)
    obtain ⟨hw, hb⟩ : isDigit w = false ∧ w ≠ '\\' := by simpa [isWordChar] using hword
    rcases h.uncons with ⟨rfl, rfl⟩ | ⟨c, c', r, r', rfl, rfl, hk, -, hr⟩
    · exact .refl_fault _
    · unfold skipWord
      refine rel_ite (hk.iff hw) (fun hc => ?_) fun _ => agree_fault h _ _
      have hr := hr (hc ▸ hb)
      rw [hc, hw] at hr
      exact ih hws hr

theorem Agree.weaken {b : Bool} {x x' : Except Fault (List Char)}
    (h : Agree Eq (Alike (.plain b)) x x') : Agree Eq (Alike (.plain true)) x x' :=
  h.mono (fun _ _ hf => hf) fun _ _ ha => ha.weaken

theorem agree_skipScalar {cs cs' : List Char} (h : Alike (.plain false) cs cs') :
    Agree Eq (Alike (.plain true)) (skipScalar cs) (skipScalar cs') := by
  rcases h.uncons with ⟨rfl, rfl⟩ | ⟨c, c', r, r', rfl, rfl, hk, -, hr⟩
  · exact .refl_fault _
  · unfold skipScalar
    dsimp only
    refine rel_ite (hk.iff rfl) (fun hn => ?_) fun _ => ?_
    · subst hn
      exact (agree_skipWord (by decide) (hr (by decide))).weaken
    refine rel_ite (hk.iff rfl) (fun ht => ?_) fun _ => ?_
    · subst ht
      exact (agree_skipWord (by decide) (hr (by decide))).weaken
    refine rel_ite (hk.iff rfl) (fun hf => ?_) fun _ => ?_
    · subst hf
      exact (agree_skipWord (by decide) (hr (by decide))).weaken
    refine rel_ite (hk.iff rfl) (fun hq => ?_) fun _ => ?_
    · subst hq
      exact (agree_skipText (hr (by decide))).weaken
    exact rel_ite hk.number_iff (fun _ => agree_skipNumber h) fun _ => agree_fault h _ _

/-! ### Keys -/

theorem agree_skipColon {b : Bool} {cs cs' : List Char} (h : Alike (.plain b) cs cs') :
    Agree Eq (Alike (.plain false)) (skipColon cs) (skipColon cs') := by
  have h := alike_skipSpace h
  unfold skipColon
  rcases h.uncons with ⟨hs, hs'⟩ | ⟨c, c', r, r', hs, hs', hk, -, hr⟩
  · rw [hs, hs']
    exact .refl_fault _
  · rw [hs, hs'] at h ⊢
    dsimp only
    refine rel_ite (hk.iff rfl) (fun hc => ?_) fun _ => agree_fault h _ _
    subst hc
    exact .ok (hr (by decide))

theorem agree_skipKey {b : Bool} {cs cs' : List Char} (h : Alike (.plain b) cs cs') :
    Agree Eq (Alike (.plain false)) (skipKey cs) (skipKey cs') := by
  have h := alike_skipSpace h
  unfold skipKey
  rcases h.uncons with ⟨hs, hs'⟩ | ⟨c, c', r, r', hs, hs', hk, -, hr⟩
  · rw [hs, hs']
    exact .refl_fault _
  · rw [hs, hs'] at h ⊢
    dsimp only
    refine rel_ite (hk.iff rfl) (fun hc => ?_) fun _ => agree_fault h _ _
    subst hc
    refine (agree_skipText (hr (by decide))).elim (fun _ _ hf => .fault hf) ?_
    exact fun _ _ _ ht => agree_skipColon ht

/-! ### Nested values -/

theorem agree_skipLead (frame : Frame) {cs cs' : List Char} (h : Alike (.plain false) cs cs') :
    Agree Eq (Alike (.plain false)) (skipLead frame cs) (skipLead frame cs') := by
  cases frame with
  | list => exact .ok h
  | object => exact agree_skipKey h

theorem skipFrom_value (stack : List Frame) (cs : List Char) :
    skipFrom .value stack cs =
      match skipSpace cs with
      | [] => fault (.endOf .value) [] 0
      | c :: r =>
        if c = '[' then skipFrom (.first .list) stack r
        else if c = '{' then skipFrom (.first .object) stack r
        else
          match skipScalar (c :: r) with
          | .error f => .error f
          | .ok rest => skipFrom .next stack rest := by
  rw [skipFrom]
  split
  next hs => rw [hs]
  next c r hs =>
    dsimp only
    rw [hs]
    dsimp only
    cases skipScalar (c :: r) <;> rfl

theorem skipFrom_first (frame : Frame) (stack : List Frame) (cs : List Char) :
    skipFrom (.first frame) stack cs =
      match skipSpace cs with
      | [] => fault (.endOf frame.place) [] 0
      | c :: r =>
        if c = frame.close then skipFrom .next stack r
        else
          match skipLead frame (c :: r) with
          | .error f => .error f
          | .ok rest => skipFrom .value (frame :: stack) rest := by
  rw [skipFrom]
  split
  next hs => rw [hs]
  next c r hs =>
    dsimp only
    rw [hs]
    dsimp only
    cases skipLead frame (c :: r) <;> rfl

theorem skipFrom_next_cons (frame : Frame) (stack : List Frame) (cs : List Char) :
    skipFrom .next (frame :: stack) cs =
      match skipSpace cs with
      | [] => fault (.endOf frame.place) [] 0
      | c :: r =>
        if c = ',' then
          match skipLead frame r with
          | .error f => .error f
          | .ok rest => skipFrom .value (frame :: stack) rest
        else if c = frame.close then skipFrom .next stack r
        else fault (match frame with
          | .list => .expectedCommaOrBracket
          | .object => .expectedCommaOrBrace) (c :: r) 1 := by
  rw [skipFrom]
  split
  next hs => rw [hs]
  next c r hs =>
    dsimp only
    rw [hs]
    dsimp only
    cases skipLead frame r <;> cases frame <;> rfl

/-- Whether a digit may stand in front of what is due. -/
def Due.behindDigit : Due → Bool
  | .next => true
  | _ => false

theorem isDigit_close (frame : Frame) : isDigit frame.close = false ∧ frame.close ≠ '\\' := by
  cases frame <;> decide

theorem agree_skipFrom (due : Due) (stack : List Frame) {cs cs' : List Char}
    (h : Alike (.plain due.behindDigit) cs cs') :
    Agree Eq (Alike (.plain true)) (skipFrom due stack cs) (skipFrom due stack cs') := by
  -- by the measure of `skipFrom`: what each step leaves is alike, with a digit in front at most where
  -- a value has just ended
  match due, h with
  | .value, h =>
    have hsp := alike_skipSpace h
    rw [skipFrom_value, skipFrom_value]
    rcases hsp.uncons with ⟨hs, hs'⟩ | ⟨c, c', r, r', hs, hs', hk, -, hr⟩
    · rw [hs, hs']
      exact .refl_fault _
    have hlt := length_lt_of_skipSpace hs
    rw [hs, hs'] at hsp ⊢
    dsimp only
    refine rel_ite (hk.iff rfl) (fun hlist => ?_) fun _ => ?_
    · subst hlist
      exact agree_skipFrom (.first .list) stack (hr (by decide))
    refine rel_ite (hk.iff rfl) (fun hobject => ?_) fun _ => ?_
    · subst hobject
      exact agree_skipFrom (.first .object) stack (hr (by decide))
    refine (agree_skipScalar hsp).elim (fun _ _ hf => .fault hf) fun t t' hx ht => ?_
    have hlength := length_of_skipScalar hx
    exact agree_skipFrom .next stack ht
  | .first frame, h =>
    have hsp := alike_skipSpace h
    rw [skipFrom_first, skipFrom_first]
    rcases hsp.uncons with ⟨hs, hs'⟩ | ⟨c, c', r, r', hs, hs', hk, -, hr⟩
    · rw [hs, hs']
      exact .refl_fault _
    have hlt := length_lt_of_skipSpace hs
    rw [hs, hs'] at hsp ⊢
    dsimp only
    obtain ⟨hclose, hb⟩ := isDigit_close frame
    refine rel_ite (hk.iff hclose) (fun hc => ?_) fun _ => ?_
    · exact agree_skipFrom .next stack (hr (hc ▸ hb)).weaken
    refine (agree_skipLead frame hsp).elim (fun _ _ hf => .fault hf) fun t t' hx ht => ?_
    have hlength := length_of_skipLead hx
    exact agree_skipFrom .value (frame :: stack) ht
  | .next, h =>
    have hsp := alike_skipSpace h
    cases stack with
    | nil =>
      rw [skipFrom, skipFrom]
      exact .ok h
    | cons frame stack =>
      rw [skipFrom_next_cons, skipFrom_next_cons]
      rcases hsp.uncons with ⟨hs, hs'⟩ | ⟨c, c', r, r', hs, hs', hk, -, hr⟩
      · rw [hs, hs']
        exact .refl_fault _
      have hlt := length_lt_of_skipSpace hs
      rw [hs, hs'] at hsp ⊢
      dsimp only
      refine rel_ite (hk.iff rfl) (fun hcomma => ?_) fun _ => ?_
      · subst hcomma
        refine (agree_skipLead frame (hr (by decide))).elim (fun _ _ hf => .fault hf) ?_
        intro t t' hx ht
        have hlength := length_of_skipLead hx
        exact agree_skipFrom .value (frame :: stack) ht
      obtain ⟨hclose, hb⟩ := isDigit_close frame
      refine rel_ite (hk.iff hclose) (fun hc => ?_) fun _ => agree_fault hsp _ _
      exact agree_skipFrom .next stack (hr (hc ▸ hb)).weaken
termination_by (cs.length, due.rank)
decreasing_by
  all_goals simp only [List.length_cons, Due.rank, Prod.lex_def] at *
  all_goals omega

/-- **A value is passed over without regard to its digits.** -/
theorem agree_skipValue {cs cs' : List Char} (h : Alike (.plain false) cs cs') :
    Agree Eq (Alike (.plain true)) (skipValue cs) (skipValue cs') :=
  agree_skipFrom .value [] h

end DnsConsole.Json
