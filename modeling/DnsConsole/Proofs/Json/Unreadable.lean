import DnsConsole.Proofs.Json.Passing

/-!
# What an unreadable body tells of its digits

The fault of a body that cannot be read depends on the digits of the body only where it shows them: the
number or the text that stands in place of a record or of its field, or the statement that a number is
out of range (`Cause.showsValue`).  The main statement is `Schema.DigitBlind.error_eq`: where one of two
alike bodies ends in any other error, both end in the same one.

Whether the form of a number is wrong, and where, is first told apart from its value (`numberFault?`,
`follows_readNumber`); the form is the same for alike texts.
-/

namespace DnsConsole.Json

open Number (Binary64)
open Text.Decimal (isDigit value)

/-! ### The form of numbers -/

/-- What is wrong with an exponent, behind its letter. -/
def exponentFault? (cs : List Char) : Option Fault :=
  match skipSign cs with
  | [] => some (.before (.endOf .value) [] 0)
  | c :: r => if isDigit c then none else some (.before .invalidNumber (c :: r) 1)

/-- What is wrong with an exponent, if there is one. -/
def scaledFault? : List Char → Option Fault
  | [] => none
  | c :: r => if c = 'e' ∨ c = 'E' then exponentFault? r else none

/-- What is wrong with decimals and exponent, behind the point. -/
def fractionFault? : List Char → Option Fault
  | [] => some (.before (.endOf .value) [] 0)
  | c :: r =>
    if isDigit c then scaledFault? (skipDigits r) else some (.before .invalidNumber (c :: r) 1)

/-- What is wrong with a number behind its whole part. -/
def restFault? : List Char → Option Fault
  | [] => none
  | c :: r => if c = '.' then fractionFault? r else scaledFault? (c :: r)

/-- What is wrong with a number without its sign. -/
def unsignedFault? : List Char → Option Fault
  | [] => some (.before (.endOf .value) [] 0)
  | c :: r =>
    if c = '0' then
      if startsWithDigit r then some (.before .invalidNumber r 1) else restFault? r
    else if isDigit c then restFault? (skipDigits r)
    else some (.before .invalidNumber (c :: r) 1)

/-- What is wrong with the form of a number. -/
def numberFault? : List Char → Option Fault
  | [] => some (.before (.endOf .value) [] 0)
  | c :: r => if c = '-' then unsignedFault? r else unsignedFault? (c :: r)

/-- A reading ends in the fault of the form; where the form is right, it can only end in a number that
is too large. -/
def Follows (form : Option Fault) (x : Reading NumberValue) : Prop :=
  match form with
  | some f => x = .error f
  | none => ∀ f, x = .error f → f.cause = .numberTooLarge

theorem follows_ok (v : NumberValue) (r : List Char) : Follows none (.ok (v, r)) := by
  intro f h
  cases h

theorem follows_tooLarge (r : List Char) (n : Nat) : Follows none (fault .numberTooLarge r n) := by
  intro f h
  cases h
  rfl

theorem follows_floatValue (negative : Bool) (n : Nat) (e : Int) (cs : List Char) :
    Follows none (floatValue negative n e cs) := by
  unfold floatValue
  cases Binary64.ofDecimal? n e with
  | none => exact follows_tooLarge cs 0
  | some x => exact follows_ok _ cs

theorem follows_readExponent (negative : Bool) (n : Nat) (start : Int) (cs : List Char) :
    Follows (exponentFault? cs) (readExponent negative n start cs) := by
  unfold exponentFault? readExponent
  cases skipSign cs with
  | nil => exact rfl
  | cons c r =>
    dsimp only
    by_cases hc : isDigit c = true
    · rw [if_pos hc, if_pos hc]
      rcases exponentDigits (value c) r with ⟨_ | m, rest⟩
      · dsimp only
        split
        · exact follows_tooLarge rest 0
        · exact follows_ok _ _
      · exact follows_floatValue negative n _ rest
    · rw [if_neg hc, if_neg hc]
      exact rfl

theorem readScaled_of_ne {c : Char} (he : c ≠ 'e') (hE : c ≠ 'E') (negative : Bool) (n : Nat)
    (e : Int) (r : List Char) :
    readScaled negative n e (c :: r) = floatValue negative n e (c :: r) := by
  unfold readScaled
  split <;> simp_all

theorem follows_readScaled (negative : Bool) (n : Nat) (e : Int) (cs : List Char) :
    Follows (scaledFault? cs) (readScaled negative n e cs) := by
  cases cs with
  | nil => exact follows_floatValue negative n e []
  | cons c r =>
    unfold scaledFault?
    dsimp only
    by_cases he : c = 'e'
    · subst he
      exact follows_readExponent negative n e r
    · by_cases hE : c = 'E'
      · subst hE
        exact follows_readExponent negative n e r
      · rw [if_neg (not_or.mpr ⟨he, hE⟩), readScaled_of_ne he hE]
        exact follows_floatValue negative n e (c :: r)

theorem skipDigits_digits64 (n : Nat) (cs : List Char) :
    skipDigits (digits64 n cs).2 = skipDigits cs := by
  fun_induction digits64 n cs with
  | case1 => rfl
  | case2 n c r hc ih => rw [ih, skipDigits_of_isDigit hc.1]
  | case3 => rfl

theorem follows_readFraction (negative : Bool) (n : Nat) (e : Int) (cs : List Char) :
    Follows (fractionFault? cs) (readFraction negative n e cs) := by
  cases cs with
  | nil => exact rfl
  | cons c r =>
    unfold fractionFault? readFraction
    dsimp only
    by_cases hc : isDigit c = true
    · rw [if_pos hc, if_pos (show startsWithDigit (c :: r) = true from hc), skipDigits_digits64,
        skipDigits_of_isDigit hc]
      exact follows_readScaled negative _ _ _
    · rw [if_neg hc, if_neg (show ¬ startsWithDigit (c :: r) = true from hc)]
      exact rfl

theorem follows_readRest_of_ne {cs : List Char}
    (h : ∀ c ∈ cs.head?, c ≠ '.' ∧ c ≠ 'e' ∧ c ≠ 'E') (negative : Bool) (n : Nat) :
    Follows none (readRest negative n cs) := by
  unfold readRest
  split
  · exact absurd rfl (h '.' rfl).1
  · exact absurd rfl (h 'e' rfl).2.1
  · exact absurd rfl (h 'E' rfl).2.2
  · split
    · exact follows_ok _ _
    · split
      · exact follows_ok _ _
      · exact follows_floatValue true n 0 _

theorem follows_readRest (negative : Bool) (n : Nat) (cs : List Char) :
    Follows (restFault? cs) (readRest negative n cs) := by
  cases cs with
  | nil => exact follows_readRest_of_ne (by simp) negative n
  | cons c r =>
    unfold restFault? scaledFault?
    dsimp only
    by_cases hpoint : c = '.'
    · subst hpoint
      exact follows_readFraction negative n 0 r
    rw [if_neg hpoint]
    by_cases he : c = 'e'
    · subst he
      exact follows_readExponent negative n 0 r
    by_cases hE : c = 'E'
    · subst hE
      exact follows_readExponent negative n 0 r
    rw [if_neg (not_or.mpr ⟨he, hE⟩)]
    refine follows_readRest_of_ne (fun d hd => ?_) negative n
    cases hd
    exact ⟨hpoint, he, hE⟩

theorem follows_readLong (negative : Bool) (n : Nat) (cs : List Char) :
    Follows (restFault? (skipDigits cs)) (readLong negative n cs) := by
  unfold readLong
  dsimp only
  split
  next r h =>
    rw [h]
    exact follows_readFraction negative n _ r
  next r h =>
    have hrest : restFault? (skipDigits cs) = scaledFault? (skipDigits cs) := by
      cases hs : skipDigits cs with
      | nil => rfl
      | cons c t =>
        rw [restFault?, if_neg]
        rintro rfl
        exact h t hs
    rw [hrest]
    exact follows_readScaled negative n _ _

theorem readUnsigned_of_ne {c : Char} (h : c ≠ '0') (negative : Bool) (r : List Char) :
    readUnsigned negative (c :: r) =
      if isDigit c then
        if startsWithDigit (digits64 (value c) r).2 then
          readLong negative (digits64 (value c) r).1 (digits64 (value c) r).2
        else readRest negative (digits64 (value c) r).1 (digits64 (value c) r).2
      else fault .invalidNumber (c :: r) 1 := by
  unfold readUnsigned
  split <;> simp_all

theorem skipDigits_of_not_startsWithDigit {cs : List Char} (h : ¬ startsWithDigit cs = true) :
    skipDigits cs = cs := by
  cases cs with
  | nil => rfl
  | cons c r => exact skipDigits_of_not_isDigit (Bool.eq_false_iff.mpr h) r

theorem follows_readUnsigned (negative : Bool) (cs : List Char) :
    Follows (unsignedFault? cs) (readUnsigned negative cs) := by
  cases cs with
  | nil => exact rfl
  | cons c r =>
    unfold unsignedFault?
    dsimp only
    by_cases hzero : c = '0'
    · subst hzero
      rw [if_pos rfl, readUnsigned]
      split
      · exact rfl
      · exact follows_readRest negative 0 r
    rw [if_neg hzero, readUnsigned_of_ne hzero]
    by_cases hc : isDigit c = true
    · rw [if_pos hc, if_pos hc, ← skipDigits_digits64 (value c) r]
      split
      next => exact follows_readLong negative _ _
      next h =>
        rw [skipDigits_of_not_startsWithDigit h]
        exact follows_readRest negative _ _
    · rw [if_neg hc, if_neg hc]
      exact rfl

theorem readNumber_of_ne {c : Char} (h : c ≠ '-') (r : List Char) :
    readNumber (c :: r) = readUnsigned false (c :: r) := by
  unfold readNumber
  split <;> simp_all

/-- **What is wrong with the form of a number is told without its value.** -/
theorem follows_readNumber (cs : List Char) : Follows (numberFault? cs) (readNumber cs) := by
  cases cs with
  | nil => exact rfl
  | cons c r =>
    unfold numberFault?
    dsimp only
    by_cases hc : c = '-'
    · subst hc
      exact follows_readUnsigned true r
    · rw [if_neg hc, readNumber_of_ne hc]
      exact follows_readUnsigned false (c :: r)

/-! ### The form of alike numbers -/

theorem exponentFault?_of_alike {b : Bool} {cs cs' : List Char} (h : Alike (.plain b) cs cs') :
    exponentFault? cs = exponentFault? cs' := by
  have hs := alike_skipSign h
  unfold exponentFault?
  rcases hs.uncons with ⟨hn, hn'⟩ | ⟨c, c', r, r', hn, hn', hk, -, -⟩
  · rw [hn, hn']
  · rw [hn, hn'] at hs ⊢
    dsimp only
    rw [hk.1, before_eq_of_alike hs]

theorem scaledFault?_of_alike {b : Bool} {cs cs' : List Char} (h : Alike (.plain b) cs cs') :
    scaledFault? cs = scaledFault? cs' := by
  rcases h.uncons with ⟨rfl, rfl⟩ | ⟨c, c', r, r', rfl, rfl, hk, -, hr⟩
  · rfl
  · unfold scaledFault?
    dsimp only
    refine rel_ite hk.exponent_iff (fun hc => ?_) fun _ => rfl
    exact exponentFault?_of_alike (hr (by rcases hc with rfl | rfl <;> decide))

theorem fractionFault?_of_alike {b : Bool} {cs cs' : List Char} (h : Alike (.plain b) cs cs') :
    fractionFault? cs = fractionFault? cs' := by
  rcases h.uncons with ⟨rfl, rfl⟩ | ⟨c, c', r, r', rfl, rfl, hk, -, hr⟩
  · rfl
  · unfold fractionFault?
    dsimp only
    rw [← hk.1, before_eq_of_alike h]
    split
    next hc => exact scaledFault?_of_alike (alike_skipDigits (hr (ne_of_isDigit hc rfl)))
    next => rfl

theorem restFault?_of_alike {b : Bool} {cs cs' : List Char} (h : Alike (.plain b) cs cs') :
    restFault? cs = restFault? cs' := by
  rcases h.uncons with ⟨rfl, rfl⟩ | ⟨c, c', r, r', rfl, rfl, hk, -, hr⟩
  · rfl
  · unfold restFault?
    dsimp only
    refine rel_ite (hk.iff rfl) (fun hc => ?_) fun _ => scaledFault?_of_alike h
    exact fractionFault?_of_alike (hr (by rw [hc]; decide))

theorem unsignedFault?_of_alike {cs cs' : List Char} (h : Alike (.plain false) cs cs') :
    unsignedFault? cs = unsignedFault? cs' := by
  rcases h.uncons with ⟨rfl, rfl⟩ | ⟨c, c', r, r', rfl, rfl, hk, hzero, hr⟩
  · rfl
  · unfold unsignedFault?
    dsimp only
    refine rel_ite (hzero rfl) (fun hc => ?_) fun _ => ?_
    · have hr := hr (by rw [hc]; decide)
      rw [startsWithDigit_of_alike hr, before_eq_of_alike hr, restFault?_of_alike hr]
    · rw [← hk.1, before_eq_of_alike h]
      split
      next hd => exact restFault?_of_alike (alike_skipDigits (hr (ne_of_isDigit hd rfl)))
      next => rfl

theorem numberFault?_of_alike {cs cs' : List Char} (h : Alike (.plain false) cs cs') :
    numberFault? cs = numberFault? cs' := by
  rcases h.uncons with ⟨rfl, rfl⟩ | ⟨c, c', r, r', rfl, rfl, hk, -, hr⟩
  · rfl
  · unfold numberFault?
    dsimp only
    refine rel_ite (hk.iff rfl) (fun hc => ?_) fun _ => unsignedFault?_of_alike h
    subst hc
    exact unsignedFault?_of_alike (hr (by decide))

/-! ### Faults that show a value -/

/-- Whether a cause tells of a value in the body: it shows a number or a text, or it says that a number
is out of range. -/
def Cause.showsValue : Cause → Bool
  | .wrongType (.integer _) _ | .wrongType (.float ..) _ | .wrongType (.text _) _ => true
  | .wrongInteger .. | .numberTooLarge => true
  | _ => false

/-- Two faults that are the same, or both show a value. -/
def SameOrShown (f f' : Fault) : Prop :=
  f = f' ∨ (f.cause.showsValue = true ∧ f'.cause.showsValue = true)

instance : Std.Refl SameOrShown :=
  ⟨fun _ => Or.inl rfl⟩

/-! ### Values of the wrong kind -/

/-- The faults of words in the wrong place are the same. -/
theorem wordMismatch_of_alike {word : List Char} (hword : word.all isWordChar = true)
    {r r' : List Char} (h : Alike (.plain false) r r') (found : Found) (expected : String) :
    SameOrShown
      (match skipWord word r with
        | .error f => f
        | .ok rest => .before (.wrongType found expected) rest 0)
      (match skipWord word r' with
        | .error f => f
        | .ok rest => .before (.wrongType found expected) rest 0) := by
  refine (agree_skipWord hword h).elim (fun _ _ hf => Or.inl hf) ?_
  exact fun _ _ _ ht => Or.inl (before_eq_of_alike ht _ _)

/-- The fault of a number in the wrong place. -/
def numberMismatch (expected : String) (cs : List Char) : Fault :=
  match readNumber cs with
  | .error f => f
  | .ok (.integer n, rest) => .before (.wrongType (.integer n) expected) rest 0
  | .ok (.float negative x, rest) => .before (.wrongType (.float negative x) expected) rest 0

/-- A number in the wrong place is shown, unless its form is wrong. -/
theorem numberMismatch_eq (expected : String) (cs : List Char) :
    numberFault? cs = some (numberMismatch expected cs) ∨
      numberFault? cs = none ∧ (numberMismatch expected cs).cause.showsValue = true := by
  have h := follows_readNumber cs
  unfold numberMismatch
  cases hform : numberFault? cs with
  | some f =>
    rw [hform] at h
    rw [show readNumber cs = .error f from h]
    exact Or.inl rfl
  | none =>
    rw [hform] at h
    refine Or.inr ⟨rfl, ?_⟩
    cases hn : readNumber cs with
    | error f =>
      have hcause := h f hn
      dsimp only
      rw [hcause]
      rfl
    | ok x =>
      obtain ⟨_ | _, rest⟩ := x
      · rfl
      · rfl

theorem numberMismatch_of_alike {cs cs' : List Char} (h : Alike (.plain false) cs cs')
    (expected : String) :
    SameOrShown (numberMismatch expected cs) (numberMismatch expected cs') := by
  have hform := numberFault?_of_alike h
  rcases numberMismatch_eq expected cs with h1 | ⟨h1, hshow⟩
  · rcases numberMismatch_eq expected cs' with h2 | ⟨h2, -⟩
    · exact Or.inl (Option.some.inj (h1.symm.trans (hform.trans h2)))
    · cases h1.symm.trans (hform.trans h2)
  · rcases numberMismatch_eq expected cs' with h2 | ⟨-, hshow'⟩
    · cases h1.symm.trans (hform.trans h2)
    · exact Or.inr ⟨hshow, hshow'⟩

theorem mismatch_of_alike {cs cs' : List Char} (h : Alike (.plain false) cs cs')
    (expected : String) : SameOrShown (mismatch expected cs) (mismatch expected cs') := by
  rcases h.uncons with ⟨rfl, rfl⟩ | ⟨c, c', r, r', rfl, rfl, hk, -, hr⟩
  · exact Or.inl rfl
  unfold mismatch
  dsimp only
  refine rel_ite (hk.iff rfl) (fun hn => ?_) fun _ => ?_
  · subst hn
    exact wordMismatch_of_alike (by decide) (hr (by decide)) .null expected
  refine rel_ite (hk.iff rfl) (fun ht => ?_) fun _ => ?_
  · subst ht
    exact wordMismatch_of_alike (by decide) (hr (by decide)) (.bool true) expected
  refine rel_ite (hk.iff rfl) (fun hf => ?_) fun _ => ?_
  · subst hf
    exact wordMismatch_of_alike (by decide) (hr (by decide)) (.bool false) expected
  refine rel_ite (hk.iff rfl) (fun hq => ?_) fun _ => ?_
  · subst hq
    refine (agree_readText (hr (by decide))).elim (fun _ _ hf => Or.inl hf) ?_
    exact fun _ _ _ _ => Or.inr ⟨rfl, rfl⟩
  refine rel_ite hk.number_iff (fun _ => numberMismatch_of_alike h expected) fun _ => ?_
  refine rel_ite (hk.iff rfl) (fun _ => Or.inl (before_eq_of_alike h _ _)) fun _ => ?_
  refine rel_ite (hk.iff rfl) (fun _ => Or.inl (before_eq_of_alike h _ _)) fun _ => ?_
  exact Or.inl (before_eq_of_alike h _ _)

/-! ### Records -/

/-- Two results are followed by alike texts. -/
def AlikeRests {α : Type} (x y : α × List Char) : Prop :=
  Alike (.plain true) x.2 y.2

theorem agree_readTextField {cs cs' : List Char} (h : Alike (.plain false) cs cs') :
    Agree SameOrShown AlikeRests (readTextField cs) (readTextField cs') := by
  have h := alike_skipSpace h
  unfold readTextField
  rcases h.uncons with ⟨hs, hs'⟩ | ⟨c, c', r, r', hs, hs', hk, -, hr⟩
  · rw [hs, hs']
    exact .refl_fault _
  · rw [hs, hs'] at h ⊢
    dsimp only
    refine rel_ite (hk.iff rfl) (fun hq => ?_) fun _ => .fault (mismatch_of_alike h _)
    subst hq
    exact (agree_readText (hr (by decide))).mono (fun _ _ => Or.inl) fun _ _ h => h.2.weaken

namespace Schema

variable {α : Type} (s : Schema α)

/-- One member of an object, behind the opening quote of its key: the field's value, if it has been
seen by the end of the member. -/
def readMember (found : Option α) (cs : List Char) : Reading (Option α) :=
  match readText cs with
  | .error f => .error f
  | .ok (key, rest) =>
    if key = s.key.toList then
      match found with
      | some _ => fault (.duplicateField s.key) (behindEnd rest) 0
      | none =>
        match skipColon rest with
        | .error f => .error f
        | .ok rest =>
          match s.read rest with
          | .error f => .error f
          | .ok (v, rest) => .ok (some v, rest)
    else
      match skipColon rest with
      | .error f => .error f
      | .ok rest =>
        match skipValue rest with
        | .error f => .error f
        | .ok rest => .ok (found, rest)

theorem readMembers_eq (found : Option α) (start : Bool) (cs : List Char) :
    s.readMembers found start cs =
      match skipSpace cs with
      | [] => fault (.endOf .object) [] 0
      | c :: r =>
        if c = '}' then
          match found with
          | some v => .ok (v, r)
          | none => fault (.missingField s.key) r 0
        else if !start ∧ c ≠ ',' then fault .expectedCommaOrBrace (c :: r) 1
        else
          match if start then c :: r else skipSpace r with
          | [] => fault (.endOf .value) [] 0
          | d :: t =>
            if d = '"' then
              match s.readMember found t with
              | .error f => .error f
              | .ok (found, rest) => s.readMembers found false rest
            else if d = '}' then fault .trailingComma (d :: t) 1
            else fault .keyNotText (d :: t) 1 := by
  rw [readMembers]
  split
  next hs => rw [hs]
  next c r hs =>
    dsimp only
    rw [hs]
    dsimp only
    split
    · rfl
    split
    · rfl
    split
    next hm => rw [hm]
    next d t hm =>
      rw [hm]
      dsimp only
      split
      · unfold readMember
        cases readText t with
        | error f => rfl
        | ok x =>
          obtain ⟨key, rest⟩ := x
          dsimp only
          split
          · cases found with
            | some v => rfl
            | none =>
              dsimp only
              cases skipColon rest with
              | error f => rfl
              | ok rest =>
                dsimp only
                cases s.read rest <;> rfl
          · cases skipColon rest with
            | error f => rfl
            | ok rest =>
              dsimp only
              cases skipValue rest <;> rfl
      · rfl

theorem length_of_readMember {found found' : Option α} {cs r : List Char}
    (h : s.readMember found cs = .ok (found', r)) : r.length < cs.length := by
  unfold readMember at h
  split at h
  · cases h
  next key rest hk =>
    have hkey := length_of_readText hk
    split at h
    · split at h
      · cases h
      · split at h
        · cases h
        next rest' hc =>
          have hcolon := length_of_skipColon hc
          split at h
          · cases h
          next v rest'' hv =>
            have hvalue := s.read_le hv
            cases h
            omega
    · split at h
      · cases h
      next rest' hc =>
        have hcolon := length_of_skipColon hc
        split at h
        · cases h
        next rest'' hv =>
          have hvalue := length_of_skipValue hv
          cases h
          omega

/-- A record whose key has no digit and whose field tells of digits only where it shows them. -/
structure DigitBlind : Prop where
  key : (s.key.toList.all fun c => !isDigit c) = true
  read : ∀ {cs cs' : List Char}, Alike (.plain false) cs cs' →
    Agree SameOrShown AlikeRests (s.read cs) (s.read cs')

variable {s}

theorem DigitBlind.not_isDigit (hs : s.DigitBlind) {c : Char} (hc : c ∈ s.key.toList) :
    isDigit c = false := by
  simpa using List.all_eq_true.mp hs.key c hc

/-- Members that are alike find the field in both or in neither. -/
def SameFound (x y : Option α × List Char) : Prop :=
  x.1.isSome = y.1.isSome ∧ AlikeRests x y

theorem alike_behindEnd {cs cs' : List Char} (h : Alike (.plain false) cs cs') :
    Alike (.plain false) (behindEnd cs) (behindEnd cs') := by
  have h := alike_skipSpace h
  unfold behindEnd
  rcases h.uncons with ⟨hs, hs'⟩ | ⟨c, c', r, r', hs, hs', hk, -, hr⟩
  · rw [hs, hs']
    exact .nil _
  · rw [hs, hs'] at h ⊢
    dsimp only
    refine rel_ite (hk.iff rfl) (fun hc => ?_) fun _ => h
    subst hc
    exact hr (by decide)

theorem DigitBlind.readMember (hs : s.DigitBlind) {found found' : Option α}
    (hfound : found.isSome = found'.isSome) {cs cs' : List Char} (h : Alike (.plain false) cs cs') :
    Agree SameOrShown SameFound (s.readMember found cs) (s.readMember found' cs') := by
  unfold Schema.readMember
  refine (agree_readText h).elim (fun _ _ hf => .fault (Or.inl hf)) ?_
  rintro ⟨key, r⟩ ⟨key', r'⟩ - ⟨hkeys, hr⟩
  dsimp only at hkeys hr ⊢
  -- the key of the field has no digit, so that its masked form tells it
  by_cases hkey : key = s.key.toList
  · have hkey' : key' = s.key.toList :=
      (eq_of_masked_eq (hkey ▸ hkeys) fun _ => hs.not_isDigit).symm
    rw [if_pos hkey, if_pos hkey']
    cases found with
    | some v =>
      cases found' with
      | none => cases hfound
      | some v' => exact agree_fault (alike_behindEnd hr) _ _
    | none =>
      cases found' with
      | some v' => cases hfound
      | none =>
        refine (agree_skipColon hr).elim (fun _ _ hf => .fault (Or.inl hf)) fun t t' _ ht => ?_
        dsimp only
        exact (hs.read ht).elim (fun _ _ hf => .fault hf) fun _ _ _ hu => .ok ⟨rfl, hu⟩
  · have hkey' : key' ≠ s.key.toList := by
      rintro rfl
      exact hkey (eq_of_masked_eq hkeys.symm fun _ => hs.not_isDigit).symm
    rw [if_neg hkey, if_neg hkey']
    refine (agree_skipColon hr).elim (fun _ _ hf => .fault (Or.inl hf)) fun t t' _ ht => ?_
    dsimp only
    refine (agree_skipValue ht).elim (fun _ _ hf => .fault (Or.inl hf)) ?_
    exact fun _ _ _ hu => .ok ⟨hfound, hu⟩

/-- The text in front of which a member starts. -/
theorem alike_memberStart {b start : Bool} {c c' : Char} {r r' : List Char}
    (h : Alike (.plain b) (c :: r) (c' :: r')) (hr : c ≠ '\\' → Alike (.plain (isDigit c)) r r')
    (hc : start = false → c = ',') :
    Alike (.plain true) (if start then c :: r else skipSpace r)
      (if start then c' :: r' else skipSpace r') := by
  cases start with
  | true => exact h.weaken
  | false =>
    cases hc rfl
    exact (alike_skipSpace (hr (by decide))).weaken

theorem length_memberStart {start : Bool} {c d : Char} {r t : List Char}
    (h : (if start then c :: r else skipSpace r) = d :: t) : t.length < r.length + 1 := by
  cases start with
  | true =>
    cases h
    exact Nat.lt_succ_self _
  | false =>
    have hlt := length_lt_of_skipSpace (show skipSpace r = d :: t from h)
    omega

theorem DigitBlind.readMembers (hs : s.DigitBlind) {found found' : Option α}
    (hfound : found.isSome = found'.isSome) (start : Bool) {cs cs' : List Char}
    (h : Alike (.plain true) cs cs') :
    Agree SameOrShown AlikeRests (s.readMembers found start cs) (s.readMembers found' start cs') := by
  have hsp := alike_skipSpace h
  rw [readMembers_eq, readMembers_eq]
  rcases hsp.uncons with ⟨hn, hn'⟩ | ⟨c, c', r, r', hn, hn', hk, -, hr⟩
  · rw [hn, hn']
    exact .refl_fault _
  have hlt := length_lt_of_skipSpace hn
  rw [hn, hn'] at hsp ⊢
  dsimp only
  refine rel_ite (hk.iff rfl) (fun hend => ?_) fun _ => ?_
  · subst hend
    have hr := hr (by decide)
    cases found with
    | some v =>
      cases found' with
      | none => cases hfound
      | some v' => exact .ok hr.weaken
    | none =>
      cases found' with
      | some v' => cases hfound
      | none => exact agree_fault hr _ _
  -- a member follows the opening brace, or a comma
  have hfollows : (!start ∧ c ≠ ',') ↔ (!start ∧ c' ≠ ',') :=
    and_congr Iff.rfl (not_congr (hk.iff rfl))
  refine rel_ite hfollows (fun _ => agree_fault hsp _ _) fun hcomma => ?_
  have hfirst : start = false → c = ',' :=
    fun hstart => Decidable.byContradiction fun hc => hcomma ⟨congrArg Bool.not hstart, hc⟩
  have hm := alike_memberStart hsp hr hfirst
  rcases hm.uncons with ⟨hn, hn'⟩ | ⟨d, d', t, t', hn, hn', hk, -, ht⟩
  · rw [hn, hn']
    exact .refl_fault _
  have hlt' := length_memberStart hn
  rw [hn, hn'] at hm ⊢
  dsimp only
  refine rel_ite (hk.iff rfl) (fun hq => ?_) fun _ => ?_
  · subst hq
    refine (hs.readMember hfound (ht (by decide))).elim (fun _ _ hf => .fault hf) ?_
    rintro ⟨v, u⟩ ⟨v', u'⟩ hx ⟨hv, hu⟩
    have hlength := s.length_of_readMember hx
    exact hs.readMembers hv false hu
  exact rel_ite (hk.iff rfl) (fun _ => agree_fault hm _ _) fun _ => agree_fault hm _ _
termination_by cs.length
decreasing_by omega

theorem head_eq_of_alike {b : Bool} {cs cs' : List Char} (h : Alike (.plain b) cs cs') {x : Char}
    (hx : isDigit x = false) : cs.head? = some x ↔ cs'.head? = some x := by
  rcases h.uncons with ⟨rfl, rfl⟩ | ⟨c, c', r, r', rfl, rfl, hk, -, -⟩
  · exact Iff.rfl
  · rw [List.head?_cons, List.head?_cons, Option.some_inj, Option.some_inj]
    exact ⟨fun hc => hk.eq hc hx, fun hc => hk.symm.eq hc hx⟩

theorem agree_skipListEnd {b : Bool} {cs cs' : List Char} (h : Alike (.plain b) cs cs') :
    Agree Eq (Alike (.plain false)) (skipListEnd cs) (skipListEnd cs') := by
  have h := alike_skipSpace h
  unfold skipListEnd
  rcases h.uncons with ⟨hs, hs'⟩ | ⟨c, c', r, r', hs, hs', hk, -, hr⟩
  · rw [hs, hs']
    exact .refl_fault _
  rw [hs, hs'] at h ⊢
  dsimp only
  refine rel_ite (hk.iff rfl) (fun hclose => ?_) fun _ => ?_
  · subst hclose
    exact .ok (hr (by decide))
  refine rel_ite (hk.iff rfl) (fun hcomma => ?_) fun _ => agree_fault h _ _
  subst hcomma
  have hr := alike_skipSpace (hr (by decide))
  simp only [head_eq_of_alike hr (x := ']') rfl]
  exact agree_fault hr _ _

theorem DigitBlind.readElement (hs : s.DigitBlind) {cs cs' : List Char}
    (h : Alike (.plain false) cs cs') :
    Agree SameOrShown AlikeRests (s.readElement cs) (s.readElement cs') := by
  have h := alike_skipSpace h
  unfold Schema.readElement
  rcases h.uncons with ⟨hn, hn'⟩ | ⟨c, c', r, r', hn, hn', hk, -, hr⟩
  · rw [hn, hn']
    exact .refl_fault _
  rw [hn, hn'] at h ⊢
  dsimp only
  refine rel_ite (hk.iff rfl) (fun hclose => ?_) fun _ => ?_
  · exact agree_fault (hr (by rw [hclose]; decide)) _ _
  refine (hs.read h).elim (fun _ _ hf => .fault hf) ?_
  rintro ⟨v, t⟩ ⟨v', t'⟩ - ht
  dsimp only
  refine (agree_skipListEnd ht).elim (fun _ _ hf => .fault (Or.inl hf)) ?_
  exact fun _ _ _ hu => .ok hu.weaken

theorem DigitBlind.readRecord (hs : s.DigitBlind) {cs cs' : List Char}
    (h : Alike (.plain false) cs cs') :
    Agree SameOrShown AlikeRests (s.readRecord cs) (s.readRecord cs') := by
  have h := alike_skipSpace h
  unfold Schema.readRecord
  rcases h.uncons with ⟨hn, hn'⟩ | ⟨c, c', r, r', hn, hn', hk, -, hr⟩
  · rw [hn, hn']
    exact .refl_fault _
  rw [hn, hn'] at h ⊢
  dsimp only
  refine rel_ite (hk.iff rfl) (fun hobject => ?_) fun _ => ?_
  · subst hobject
    exact hs.readMembers rfl true (hr (by decide)).weaken
  refine rel_ite (hk.iff rfl) (fun hlist => ?_) fun _ => .fault (mismatch_of_alike h _)
  subst hlist
  exact hs.readElement (hr (by decide))

theorem DigitBlind.decodeChars (hs : s.DigitBlind) {cs cs' : List Char}
    (h : Alike (.plain false) cs cs') :
    Agree SameOrShown (fun _ _ => True) (s.decodeChars cs) (s.decodeChars cs') := by
  unfold Schema.decodeChars
  refine (hs.readRecord h).elim (fun _ _ hf => .fault hf) ?_
  rintro ⟨v, t⟩ ⟨v', t'⟩ - ht
  have ht : Alike (.plain true) (skipSpace t) (skipSpace t') := alike_skipSpace ht
  dsimp only
  rcases ht.uncons with ⟨hn, hn'⟩ | ⟨c, c', r, r', hn, hn', -, -, -⟩
  · rw [hn, hn']
    exact .ok trivial
  · rw [hn, hn'] at ht ⊢
    exact agree_fault ht _ _

/-! ### Errors -/

theorem lineColumn_of_alike {f : Front} {cs cs' : List Char} (h : Alike f cs cs')
    (line column bytes : Nat) : lineColumn line column cs bytes = lineColumn line column cs' bytes := by
  induction h generalizing line column bytes with
  | nil => rfl
  | same c _ ih =>
    unfold lineColumn
    split
    · rfl
    split
    · exact ih _ _ _
    · exact ih _ _ _
  | digit _ hc hc' _ _ ih =>
    unfold lineColumn
    rw [if_neg (ne_of_isDigit hc rfl), if_neg (ne_of_isDigit hc' rfl), utf8Size_of_isDigit hc,
      utf8Size_of_isDigit hc']
    split
    · rfl
    · exact ih _ _ _

theorem ofFault_of_alike {g : Front} {cs cs' : List Char} (h : Alike g cs cs') (f : Fault) :
    DecodeError.ofFault cs f = DecodeError.ofFault cs' f := by
  unfold DecodeError.ofFault
  rw [size_eq_of_alike h, lineColumn_of_alike h]

/-- **Two alike bodies that cannot be read have the same error, unless both errors show a value.** -/
theorem DigitBlind.error_eq (hs : s.DigitBlind) {body body' : String}
    (h : Alike (.plain false) body.toList body'.toList) {e e' : DecodeError}
    (he : s.decode body = .error e) (he' : s.decode body' = .error e')
    (hshow : e.cause.showsValue = false) : e = e' := by
  revert he he'
  unfold decode
  refine (hs.decodeChars h).elim (fun f f' hf he he' => ?_) fun _ _ _ _ he => by cases he
  cases he
  cases he'
  rcases hf with rfl | ⟨hf, -⟩
  · exact ofFault_of_alike h f
  · cases hshow.symm.trans hf

end Schema

end DnsConsole.Json
