import DnsConsole.Json.Record

/-!
# Texts that differ in their digits

A body can be read without learning which digits it holds, up to three exceptions: the digits of a
Unicode escape decide what is read, a `0` in front of a number ends it, and a value that is kept is
made of its digits.  `Alike` relates two texts that are the same but for digits which are none of the
first two kinds.  `Agree` relates what is read of them.

The main statement is `agree_readText`: of alike texts, strings are read alike as far as their
characters other than digits go.  A string that is only passed over tells no digit at all
(`agree_skipText`).
-/

namespace DnsConsole.Json

open Text.Decimal (isDigit)

/-! ### Alike texts -/

/-- What stands in front of a place: no escape is open, and a digit is in front or not; a backslash;
or a Unicode escape of which one digit is due, and `more` behind that. -/
inductive Front
  | plain (digit : Bool)
  | escape
  | unicode (more : Nat)
  deriving DecidableEq

namespace Front

/-- What stands in front of the next place, where no Unicode escape goes on. -/
def step (c : Char) : Front :=
  if c = '\\' then .escape else .plain (isDigit c)

/-- What stands in front of the next place. -/
def next (c : Char) : Front → Front
  | plain _ => step c
  | escape => if c = 'u' then .unicode 3 else .plain (isDigit c)
  | unicode 0 => if Text.Hex.isDigit c then .plain false else step c
  | unicode (more + 1) => if Text.Hex.isDigit c then .unicode more else step c

/-- Whether a place lies inside a Unicode escape. -/
def isUnicode : Front → Bool
  | unicode _ => true
  | _ => false

/-- What stands behind a text. -/
def behind (f : Front) (cs : List Char) : Front :=
  cs.foldl (fun f c => f.next c) f

end Front

/-- Two texts that are the same but for their digits: outside Unicode escapes a digit may stand for
another one, but the first digit of a number is zero in both or in neither. -/
inductive Alike : Front → List Char → List Char → Prop
  | nil (f : Front) : Alike f [] []
  | same {f : Front} (c : Char) {r r' : List Char} (h : Alike (f.next c) r r') :
    Alike f (c :: r) (c :: r')
  | digit {f : Front} {c c' : Char} {r r' : List Char} (hf : f.isUnicode = false)
    (hc : isDigit c = true) (hc' : isDigit c' = true) (hzero : f = .plain false → (c = '0' ↔ c' = '0'))
    (h : Alike (.plain true) r r') : Alike f (c :: r) (c' :: r')

theorem Alike.refl (f : Front) (cs : List Char) : Alike f cs cs := by
  induction cs generalizing f with
  | nil => exact .nil f
  | cons c r ih => exact .same c (ih _)

/-- A place behind a digit asks least of alike texts. -/
theorem Alike.weaken {b : Bool} {cs cs' : List Char} (h : Alike (.plain b) cs cs') :
    Alike (.plain true) cs cs' := by
  cases h with
  | nil => exact .nil _
  | same c h => exact .same c h
  | digit hf hc hc' hzero h => exact .digit rfl hc hc' (fun h => by cases h) h

theorem Alike.append {r r' : List Char} (a : List Char) {f : Front}
    (h : Alike (f.behind a) r r') : Alike f (a ++ r) (a ++ r') := by
  induction a generalizing f with
  | nil => exact h
  | cons c a ih => exact .same c (ih h)

theorem Alike.digits {d d' r r' : List Char} (h : Alike (.plain true) r r')
    (hlength : d.length = d'.length) (hd : ∀ c ∈ d, isDigit c = true)
    (hd' : ∀ c ∈ d', isDigit c = true) : Alike (.plain true) (d ++ r) (d' ++ r') := by
  induction d generalizing d' with
  | nil =>
    cases List.length_eq_zero_iff.mp hlength.symm
    exact h
  | cons c d ih =>
    cases d' with
    | nil => cases hlength
    | cons c' d' =>
      refine .digit rfl (hd c List.mem_cons_self) (hd' c' List.mem_cons_self) (fun h => by cases h) ?_
      refine ih (Nat.succ_inj.mp hlength) (fun x hx => hd x ?_) fun x hx => hd' x ?_
      · exact List.mem_cons_of_mem c hx
      · exact List.mem_cons_of_mem c' hx

/-- Texts with other digits at one place are alike, if the place lies in no Unicode escape and the
digits start with no zero. -/
theorem Alike.block {a b d d' : List Char} (ha : ((Front.plain false).behind a).isUnicode = false)
    (hlength : d.length = d'.length) (hd : ∀ c ∈ d, isDigit c = true)
    (hd' : ∀ c ∈ d', isDigit c = true) (hzero : d.head? ≠ some '0') (hzero' : d'.head? ≠ some '0') :
    Alike (.plain false) (a ++ (d ++ b)) (a ++ (d' ++ b)) := by
  refine .append a ?_
  cases d with
  | nil =>
    cases List.length_eq_zero_iff.mp hlength.symm
    exact .refl _ _
  | cons c d =>
    cases d' with
    | nil => cases hlength
    | cons c' d' =>
      have hc : c ≠ '0' := fun h => hzero (congrArg some h)
      have hc' : c' ≠ '0' := fun h => hzero' (congrArg some h)
      refine .digit ha (hd c List.mem_cons_self) (hd' c' List.mem_cons_self)
        (fun _ => iff_of_false hc hc') ?_
      refine (Alike.refl _ b).digits (Nat.succ_inj.mp hlength) (fun x hx => hd x ?_)
        fun x hx => hd' x ?_
      · exact List.mem_cons_of_mem c hx
      · exact List.mem_cons_of_mem c' hx

/-! ### Characters of alike texts -/

theorem utf8Size_of_isDigit {c : Char} (h : isDigit c = true) : c.utf8Size = 1 := by
  have hle : c.val ≤ 57 := by
    simp only [isDigit, Bool.and_eq_true, decide_eq_true_eq] at h
    exact h.2
  unfold Char.utf8Size
  rw [if_pos]
  exact Nat.le_trans (UInt32.le_iff_toNat_le.mp hle) (by decide)

theorem ne_of_isDigit {c d : Char} (h : isDigit c = true) (hd : isDigit d = false) : c ≠ d := by
  rintro rfl
  cases h.symm.trans hd

theorem size_eq_of_alike {f : Front} {cs cs' : List Char} (h : Alike f cs cs') :
    Text.Utf8.size cs = Text.Utf8.size cs' := by
  induction h with
  | nil => rfl
  | same c _ ih => rw [Text.Utf8.size_cons, Text.Utf8.size_cons, ih]
  | digit _ hc hc' _ _ ih =>
    rw [Text.Utf8.size_cons, Text.Utf8.size_cons, ih, utf8Size_of_isDigit hc,
      utf8Size_of_isDigit hc']

/-- The fault at the same place of alike texts is the same. -/
theorem before_eq_of_alike {f : Front} {cs cs' : List Char} (h : Alike f cs cs') (cause : Cause)
    (bytes : Nat) : Fault.before cause cs bytes = Fault.before cause cs' bytes := by
  unfold Fault.before
  rw [size_eq_of_alike h]

/-- The next characters of alike texts: none, the same one, or two digits. -/
theorem Alike.cases {f : Front} {cs cs' : List Char} (h : Alike f cs cs') :
    (cs = [] ∧ cs' = []) ∨
    (∃ c r r', cs = c :: r ∧ cs' = c :: r' ∧ Alike (f.next c) r r') ∨
    ∃ c c' r r', cs = c :: r ∧ cs' = c' :: r' ∧ isDigit c = true ∧ isDigit c' = true ∧
      f.isUnicode = false ∧ (f = .plain false → (c = '0' ↔ c' = '0')) ∧ Alike (.plain true) r r' := by
  cases h with
  | nil => exact Or.inl ⟨rfl, rfl⟩
  | same c h => exact Or.inr (Or.inl ⟨c, _, _, rfl, rfl, h⟩)
  | digit hf hc hc' hzero h =>
    exact Or.inr (Or.inr ⟨_, _, _, _, rfl, rfl, hc, hc', hf, hzero, h⟩)

/-! ### Readings that agree -/

/-- Two readings end in faults that are related, or both give results that are related. -/
inductive Agree {α : Type} (same : Fault → Fault → Prop) (rel : α → α → Prop) :
    Except Fault α → Except Fault α → Prop
  | fault {f f' : Fault} (h : same f f') : Agree same rel (.error f) (.error f')
  | ok {a a' : α} (h : rel a a') : Agree same rel (.ok a) (.ok a')

instance : Std.Refl (@Eq Fault) :=
  ⟨fun _ => rfl⟩

section Agree

variable {α : Type} {same same' : Fault → Fault → Prop} {rel rel' : α → α → Prop}
  {x x' : Except Fault α}

/-- Whatever goes on from two readings that agree is followed from their faults and from their
results. -/
@[elab_as_elim]
theorem Agree.elim {motive : Except Fault α → Except Fault α → Prop} (h : Agree same rel x x')
    (fault : ∀ f f', same f f' → motive (.error f) (.error f'))
    (ok : ∀ a a', x = .ok a → rel a a' → motive (.ok a) (.ok a')) : motive x x' := by
  cases h with
  | fault h => exact fault _ _ h
  | ok h => exact ok _ _ rfl h

theorem Agree.mono (h : Agree same rel x x') (hf : ∀ f f', same f f' → same' f f')
    (ha : ∀ a a', rel a a' → rel' a a') : Agree same' rel' x x' := by
  cases h with
  | fault h => exact .fault (hf _ _ h)
  | ok h => exact .ok (ha _ _ h)

variable [Std.Refl same]

theorem Agree.refl_fault (f : Fault) : Agree same rel (.error f) (.error f) :=
  .fault (Std.Refl.refl f)

/-- Alike texts have the same fault at the same place. -/
theorem agree_fault {f : Front} {cs cs' : List Char} (h : Alike f cs cs') (cause : Cause)
    (bytes : Nat) : Agree same rel (fault cause cs bytes) (fault cause cs' bytes) := by
  unfold Json.fault
  rw [before_eq_of_alike h]
  exact .refl_fault _

end Agree

/-! ### Escapes -/

/-- Whether a text starts with so many hexadecimal digits. -/
def startsWithHex : Nat → List Char → Bool
  | 0, _ => true
  | _ + 1, [] => false
  | n + 1, c :: r => Text.Hex.isDigit c && startsWithHex n r

theorem readHex_eq (cs : List Char) :
    readHex cs = if startsWithHex 4 cs then
      .ok ((Text.Hex.read? 0 (cs.take 4)).getD 0, cs.drop 4) else badHex cs := by
  match cs with
  | [] | [_] | [_, _] | [_, _, _] => simp [readHex, startsWithHex]
  | a :: b :: c :: d :: r =>
    simp only [readHex, startsWithHex, Text.Hex.isDigit, Text.Hex.read?, List.take_succ_cons,
      List.take_zero, List.drop_succ_cons, List.drop_zero]
    cases Text.Hex.value? a with
    | none => rfl
    | some _ =>
      cases Text.Hex.value? b with
      | none => rfl
      | some _ =>
        cases Text.Hex.value? c with
        | none => rfl
        | some _ => cases Text.Hex.value? d <;> rfl

/-- Inside a Unicode escape alike texts are the same. -/
theorem startsWithHex_of_alike {cs cs' : List Char} (n : Nat) (h : Alike (.unicode n) cs cs') :
    (startsWithHex (n + 1) cs = false ∧ startsWithHex (n + 1) cs' = false) ∨
      (startsWithHex (n + 1) cs = true ∧ startsWithHex (n + 1) cs' = true ∧
        cs.take (n + 1) = cs'.take (n + 1) ∧
        Alike (.plain false) (cs.drop (n + 1)) (cs'.drop (n + 1))) := by
  induction n generalizing cs cs' with
  | zero =>
    rcases h.cases with ⟨rfl, rfl⟩ | ⟨c, r, r', rfl, rfl, hr⟩ | ⟨c, c', r, r', -, -, -, -, hf, -, -⟩
    · exact Or.inl ⟨rfl, rfl⟩
    · cases hc : Text.Hex.isDigit c with
      | false => exact Or.inl ⟨by simp [startsWithHex, hc], by simp [startsWithHex, hc]⟩
      | true =>
        rw [Front.next, if_pos hc] at hr
        exact Or.inr ⟨by simp [startsWithHex, hc], by simp [startsWithHex, hc], rfl, hr⟩
    · cases hf
  | succ n ih =>
    rcases h.cases with ⟨rfl, rfl⟩ | ⟨c, r, r', rfl, rfl, hr⟩ | ⟨c, c', r, r', -, -, -, -, hf, -, -⟩
    · exact Or.inl ⟨rfl, rfl⟩
    · cases hc : Text.Hex.isDigit c with
      | false => exact Or.inl ⟨by simp [startsWithHex, hc], by simp [startsWithHex, hc]⟩
      | true =>
        rw [Front.next, if_pos hc] at hr
        rcases ih hr with ⟨h1, h2⟩ | ⟨h1, h2, htake, hdrop⟩
        · exact Or.inl ⟨by simp [startsWithHex, hc, h1], by simp [startsWithHex, hc, h2]⟩
        · refine Or.inr ⟨by simp [startsWithHex, hc, h1], by simp [startsWithHex, hc, h2], ?_, hdrop⟩
          rw [List.take_succ_cons, List.take_succ_cons, htake]
    · cases hf

/-- Readings of escapes of alike texts give the same, and alike rests. -/
def SameThenAlike {α : Type} (x y : α × List Char) : Prop :=
  x.1 = y.1 ∧ Alike (.plain false) x.2 y.2

theorem agree_readHex {cs cs' : List Char} (h : Alike (.unicode 3) cs cs') :
    Agree Eq SameThenAlike (readHex cs) (readHex cs') := by
  rw [readHex_eq, readHex_eq]
  rcases startsWithHex_of_alike 3 h with ⟨h1, h2⟩ | ⟨h1, h2, htake, hdrop⟩
  · rw [h1, h2]
    unfold badHex
    simp only [Bool.false_eq_true, if_false]
    rw [size_eq_of_alike h]
    split
    · exact .refl_fault _
    · exact agree_fault h _ _
  · rw [h1, h2, htake]
    exact .ok ⟨rfl, hdrop⟩

theorem readLowSurrogate_of_ne {high : Nat} {c : Char} {r : List Char} (h : c ≠ '\\') :
    readLowSurrogate high (c :: r) = fault .unfinishedPair (c :: r) 1 := by
  unfold readLowSurrogate
  split <;> simp_all

theorem readLowSurrogate_backslash_of_ne {high : Nat} {c : Char} {r : List Char} (h : c ≠ 'u') :
    readLowSurrogate high ('\\' :: c :: r) = fault .unfinishedPair (c :: r) 1 := by
  unfold readLowSurrogate
  split <;> simp_all

theorem agree_readLowSurrogate (high : Nat) {cs cs' : List Char} (h : Alike (.plain false) cs cs') :
    Agree Eq SameThenAlike (readLowSurrogate high cs) (readLowSurrogate high cs') := by
  rcases h.cases with ⟨rfl, rfl⟩ | ⟨c, r, r', rfl, rfl, hr⟩ |
    ⟨c, c', r, r', rfl, rfl, hc, hc', -, -, -⟩
  · exact .refl_fault _
  · by_cases hb : c = '\\'
    · subst hb
      rcases hr.cases with ⟨rfl, rfl⟩ | ⟨d, t, t', rfl, rfl, ht⟩ |
        ⟨d, d', t, t', rfl, rfl, hd, hd', -, -, -⟩
      · exact .refl_fault _
      · by_cases hu : d = 'u'
        · subst hu
          simp only [readLowSurrogate]
          refine (agree_readHex ht).elim (fun _ _ hf => .fault hf) ?_
          rintro ⟨n, u⟩ ⟨n', u'⟩ - ⟨hn, hu⟩
          cases hn
          dsimp only
          split
          · exact .ok ⟨rfl, hu⟩
          · exact agree_fault hu _ _
        · rw [readLowSurrogate_backslash_of_ne hu, readLowSurrogate_backslash_of_ne hu]
          exact agree_fault hr _ _
      · rw [readLowSurrogate_backslash_of_ne (ne_of_isDigit hd rfl),
          readLowSurrogate_backslash_of_ne (ne_of_isDigit hd' rfl)]
        exact agree_fault hr _ _
    · rw [readLowSurrogate_of_ne hb, readLowSurrogate_of_ne hb]
      exact agree_fault h _ _
  · rw [readLowSurrogate_of_ne (ne_of_isDigit hc rfl), readLowSurrogate_of_ne (ne_of_isDigit hc' rfl)]
    exact agree_fault h _ _

theorem agree_readUnicode {cs cs' : List Char} (h : Alike (.unicode 3) cs cs') :
    Agree Eq SameThenAlike (readUnicode cs) (readUnicode cs') := by
  unfold readUnicode
  refine (agree_readHex h).elim (fun _ _ hf => .fault hf) ?_
  rintro ⟨n, r⟩ ⟨n', r'⟩ - ⟨hn, hr⟩
  cases hn
  dsimp only
  split
  · exact agree_fault hr _ _
  · split
    · exact agree_readLowSurrogate n hr
    · exact .ok ⟨rfl, hr⟩

theorem readEscape_of_ne {c : Char} {r : List Char} (h : c ≠ 'u') :
    readEscape (c :: r) =
      match shortEscape? c with
      | some d => .ok (d, r)
      | none => fault .invalidEscape (c :: r) 1 := by
  cases hs : shortEscape? c <;> simp [readEscape, hs]

theorem skipEscape_of_ne {c : Char} {r : List Char} (h : c ≠ 'u') :
    skipEscape (c :: r) =
      match shortEscape? c with
      | some _ => .ok r
      | none => fault .invalidEscape (c :: r) 1 := by
  cases hs : shortEscape? c <;> simp [skipEscape, hs]

theorem shortEscape?_of_isDigit {c : Char} (h : isDigit c = true) : shortEscape? c = none := by
  unfold shortEscape?
  split <;> first | rfl | cases h

theorem next_escape {c d : Char} (hu : c ≠ 'u') (h : shortEscape? c = some d) :
    Front.escape.next c = .plain false := by
  have hc : isDigit c = false := by
    refine Bool.eq_false_iff.mpr fun hc => ?_
    rw [shortEscape?_of_isDigit hc] at h
    cases h
  rw [Front.next, if_neg hu, hc]

theorem agree_readEscape {cs cs' : List Char} (h : Alike .escape cs cs') :
    Agree Eq SameThenAlike (readEscape cs) (readEscape cs') := by
  rcases h.cases with ⟨rfl, rfl⟩ | ⟨c, r, r', rfl, rfl, hr⟩ |
    ⟨c, c', r, r', rfl, rfl, hc, hc', -, -, -⟩
  · exact .refl_fault _
  · by_cases hu : c = 'u'
    · subst hu
      exact agree_readUnicode hr
    · rw [readEscape_of_ne hu, readEscape_of_ne hu]
      cases hs : shortEscape? c with
      | none => exact agree_fault h _ _
      | some d =>
        rw [next_escape hu hs] at hr
        exact .ok ⟨rfl, hr⟩
  · rw [readEscape_of_ne (ne_of_isDigit hc rfl), readEscape_of_ne (ne_of_isDigit hc' rfl),
      shortEscape?_of_isDigit hc, shortEscape?_of_isDigit hc']
    exact agree_fault h _ _

theorem agree_skipEscape {cs cs' : List Char} (h : Alike .escape cs cs') :
    Agree Eq (Alike (.plain false)) (skipEscape cs) (skipEscape cs') := by
  rcases h.cases with ⟨rfl, rfl⟩ | ⟨c, r, r', rfl, rfl, hr⟩ |
    ⟨c, c', r, r', rfl, rfl, hc, hc', -, -, -⟩
  · exact .refl_fault _
  · by_cases hu : c = 'u'
    · subst hu
      simp only [skipEscape]
      exact (agree_readHex hr).elim (fun _ _ hf => .fault hf) fun _ _ _ ht => .ok ht.2
    · rw [skipEscape_of_ne hu, skipEscape_of_ne hu]
      cases hs : shortEscape? c with
      | none => exact agree_fault h _ _
      | some d =>
        rw [next_escape hu hs] at hr
        exact .ok hr
  · rw [skipEscape_of_ne (ne_of_isDigit hc rfl), skipEscape_of_ne (ne_of_isDigit hc' rfl),
      shortEscape?_of_isDigit hc, shortEscape?_of_isDigit hc']
    exact agree_fault h _ _

/-! ### Strings -/

/-- A text with every digit replaced by the same one. -/
def masked (cs : List Char) : List Char :=
  cs.map fun c => if isDigit c then '0' else c

theorem masked_cons (c : Char) (cs : List Char) :
    masked (c :: cs) = (if isDigit c then '0' else c) :: masked cs := rfl

/-- A text without digits is known from its masked form. -/
theorem eq_of_masked_eq {cs cs' : List Char} (h : masked cs = masked cs')
    (hcs : ∀ c ∈ cs, isDigit c = false) : cs = cs' := by
  induction cs generalizing cs' with
  | nil => exact (List.map_eq_nil_iff.mp h.symm).symm
  | cons c r ih =>
    cases cs' with
    | nil => cases h
    | cons c' r' =>
      rw [masked_cons, masked_cons, hcs c List.mem_cons_self] at h
      obtain ⟨hc, hr⟩ := List.cons.inj h
      have hrest := ih hr fun x hx => hcs x (List.mem_cons_of_mem c hx)
      have hc' : isDigit c' = false := by
        refine Bool.eq_false_iff.mpr fun hd => ?_
        rw [hd] at hc
        have hdigit := hcs c List.mem_cons_self
        rw [show c = '0' from hc] at hdigit
        cases hdigit
      rw [hc'] at hc
      rw [hrest, show c = c' from hc]

/-- Readings of strings give texts that are the same but for digits, and alike rests. -/
def SameMasked (x y : List Char × List Char) : Prop :=
  masked x.1 = masked y.1 ∧ Alike (.plain false) x.2 y.2

theorem readText_quote (r : List Char) : readText ('"' :: r) = .ok ([], r) := by
  rw [readText, if_pos rfl]

theorem readText_backslash (r : List Char) :
    readText ('\\' :: r) =
      match readEscape r with
      | .error f => .error f
      | .ok (d, r') =>
        match readText r' with
        | .error f => .error f
        | .ok (text, rest) => .ok (d :: text, rest) := by
  rw [readText, if_neg (by decide), if_pos rfl]
  split
  next h => rw [h]
  next d r' h => cases ht : readText r' <;> simp only [h, ht]

theorem readText_of_ne {c : Char} (hq : c ≠ '"') (hb : c ≠ '\\') (r : List Char) :
    readText (c :: r) =
      if c.toNat < 0x20 then fault .controlCharacter (c :: r) 1
      else
        match readText r with
        | .error f => .error f
        | .ok (text, rest) => .ok (c :: text, rest) := by
  cases ht : readText r <;> rw [readText, if_neg hq, if_neg hb, ht]

theorem skipText_quote (r : List Char) : skipText ('"' :: r) = .ok r := by
  rw [skipText, if_pos rfl]

theorem skipText_backslash (r : List Char) :
    skipText ('\\' :: r) =
      match skipEscape r with
      | .error f => .error f
      | .ok r' => skipText r' := by
  rw [skipText, if_neg (by decide), if_pos rfl]
  split
  next h => rw [h]
  next r' h => simp only [h]

theorem skipText_of_ne {c : Char} (hq : c ≠ '"') (hb : c ≠ '\\') (r : List Char) :
    skipText (c :: r) =
      if c.toNat < 0x20 then fault .controlCharacter (c :: r) 0 else skipText r := by
  rw [skipText, if_neg hq, if_neg hb]

theorem not_control_of_isDigit {c : Char} (h : isDigit c = true) : ¬ c.toNat < 0x20 := by
  simp only [isDigit, Bool.and_eq_true, decide_eq_true_eq] at h
  have hle : 48 ≤ c.toNat := UInt32.le_iff_toNat_le.mp h.1
  omega

theorem next_plain_of_ne {c : Char} (hb : c ≠ '\\') (b : Bool) :
    (Front.plain b).next c = .plain (isDigit c) := by
  rw [Front.next, Front.step, if_neg hb]

/-- **Strings of alike texts are the same but for their digits.** -/
theorem agree_readText {b : Bool} {cs cs' : List Char} (h : Alike (.plain b) cs cs') :
    Agree Eq SameMasked (readText cs) (readText cs') := by
  -- by the length of the text, since an escape takes more than one character
  rcases h.cases with ⟨rfl, rfl⟩ | ⟨c, r, r', rfl, rfl, hr⟩ |
    ⟨c, c', r, r', rfl, rfl, hc, hc', -, -, hr⟩
  · rw [readText]
    exact .refl_fault _
  · by_cases hq : c = '"'
    · subst hq
      rw [readText_quote, readText_quote]
      exact .ok ⟨rfl, hr⟩
    · by_cases hb : c = '\\'
      · subst hb
        rw [readText_backslash, readText_backslash]
        refine (agree_readEscape hr).elim (fun _ _ hf => .fault hf) ?_
        rintro ⟨d, t⟩ ⟨d', t'⟩ hx ⟨hd, ht⟩
        have hlt := length_of_readEscape hx
        cases hd
        dsimp only
        refine (agree_readText ht).elim (fun _ _ hf => .fault hf) ?_
        rintro _ _ - ⟨hm, hu⟩
        exact .ok ⟨congrArg (List.cons _) hm, hu⟩
      · rw [readText_of_ne hq hb, readText_of_ne hq hb]
        rw [next_plain_of_ne hb] at hr
        split
        · exact agree_fault h _ _
        · refine (agree_readText hr).elim (fun _ _ hf => .fault hf) ?_
          rintro _ _ - ⟨hm, hu⟩
          exact .ok ⟨congrArg (List.cons _) hm, hu⟩
  · rw [readText_of_ne (ne_of_isDigit hc rfl) (ne_of_isDigit hc rfl),
      readText_of_ne (ne_of_isDigit hc' rfl) (ne_of_isDigit hc' rfl),
      if_neg (not_control_of_isDigit hc), if_neg (not_control_of_isDigit hc')]
    refine (agree_readText hr).elim (fun _ _ hf => .fault hf) ?_
    rintro ⟨text, t⟩ ⟨text', t'⟩ - ⟨hm, ht⟩
    refine .ok ⟨?_, ht⟩
    rw [masked_cons, masked_cons, hc, hc']
    exact congrArg (List.cons _) hm
termination_by cs.length
decreasing_by
  all_goals subst_vars; rw [List.length_cons]; omega

theorem agree_skipText {b : Bool} {cs cs' : List Char} (h : Alike (.plain b) cs cs') :
    Agree Eq (Alike (.plain false)) (skipText cs) (skipText cs') := by
  rcases h.cases with ⟨rfl, rfl⟩ | ⟨c, r, r', rfl, rfl, hr⟩ |
    ⟨c, c', r, r', rfl, rfl, hc, hc', -, -, hr⟩
  · rw [skipText]
    exact .refl_fault _
  · by_cases hq : c = '"'
    · subst hq
      rw [skipText_quote, skipText_quote]
      exact .ok hr
    · by_cases hb : c = '\\'
      · subst hb
        rw [skipText_backslash, skipText_backslash]
        refine (agree_skipEscape hr).elim (fun _ _ hf => .fault hf) fun t t' hx ht => ?_
        have hlt := length_of_skipEscape hx
        exact agree_skipText ht
      · rw [skipText_of_ne hq hb, skipText_of_ne hq hb]
        rw [next_plain_of_ne hb] at hr
        split
        · exact agree_fault h _ _
        · exact agree_skipText hr
  · rw [skipText_of_ne (ne_of_isDigit hc rfl) (ne_of_isDigit hc rfl),
      skipText_of_ne (ne_of_isDigit hc' rfl) (ne_of_isDigit hc' rfl),
      if_neg (not_control_of_isDigit hc), if_neg (not_control_of_isDigit hc')]
    exact agree_skipText hr
termination_by cs.length
decreasing_by
  all_goals subst_vars; rw [List.length_cons]; omega

end DnsConsole.Json
