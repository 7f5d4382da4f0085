import DnsConsole.Proofs.Json.Passing
import DnsConsole.Proofs.Json.Strings

/-!
# Values of the grammar

What is passed over is a value of the grammar, and every value of the grammar is passed over
(`exists_of_skipValue`, `skipValue_of_derives`).  The reader keeps the open brackets on a stack and has
no other memory, so both statements say what is left of the run behind the value: `skipFrom .value`
goes on as `skipFrom .next` where the value ends.

A number has no closing mark of its own.  It ends where something stands that cannot go on with it, and
behind a value nothing else may stand (`EndsValue`).
-/

namespace DnsConsole.Json

open Text.Decimal (isDigit)

/-! ### What stands behind a value -/

/-- What may stand behind a value: nothing, white space, a comma or a closing bracket. -/
def EndsValue (r : List Char) : Prop :=
  ∀ c, r.head? = some c → isSpace c = true ∨ c = ',' ∨ c = ']' ∨ c = '}'

theorem endsValue_blank {b r : List Char} (hb : IsBlank b) (hr : EndsValue r) :
    EndsValue (b ++ r) := by
  rcases b with _ | ⟨c, b⟩
  · exact hr
  · intro d hd
    obtain rfl : c = d := by simpa using hd
    exact Or.inl (isSpace_iff.mpr (hb c List.mem_cons_self))

theorem endsValue_close (frame : Frame) (r : List Char) : EndsValue (frame.close :: r) := by
  intro c hc
  obtain rfl : frame.close = c := by simpa using hc
  cases frame <;> simp [Frame.close]

theorem endsValue_comma (r : List Char) : EndsValue (',' :: r) := by
  intro c hc
  obtain rfl : ',' = c := by simpa using hc
  simp

/-- What stands behind a value goes on with no number. -/
theorem EndsValue.ne {r : List Char} {c : Char} (h : EndsValue (c :: r)) :
    isDigit c = false ∧ c ≠ '.' ∧ c ≠ 'e' ∧ c ≠ 'E' := by
  rcases h c rfl with hc | rfl | rfl | rfl
  · rcases isSpace_iff.mp hc with rfl | rfl | rfl | rfl <;> decide
  all_goals decide

theorem EndsValue.startsWithDigit {r : List Char} (h : EndsValue r) : startsWithDigit r = false := by
  rcases r with _ | ⟨c, r⟩
  · rfl
  · exact h.ne.1

/-! ### Numbers -/

theorem isDigit_iff {c : Char} : isDigit c = true ↔ '0' ≤ c ∧ c ≤ '9' := by
  simp [Text.Decimal.isDigit]

theorem isSpace_of_isDigit {c : Char} (h : isDigit c = true) : isSpace c = false := by
  rw [Bool.eq_false_iff]
  intro hs
  rw [(isDigit_of_isSpace hs).1] at h
  cases h

theorem isDigits_iff {w : List Char} : IsDigits w ↔ w ≠ [] ∧ ∀ c ∈ w, isDigit c = true := by
  simp only [IsDigits, isDigit_iff]

theorem skipDigits_append {w r : List Char} (hw : ∀ c ∈ w, isDigit c = true)
    (hr : startsWithDigit r = false) : skipDigits (w ++ r) = r := by
  induction w with
  | nil =>
    rcases r with _ | ⟨c, r⟩
    · rfl
    · exact skipDigits_of_not_isDigit hr r
  | cons c w ih =>
    obtain ⟨hc, hw⟩ := List.forall_mem_cons.mp hw
    rw [List.cons_append, skipDigits_of_isDigit hc]
    exact ih hw

theorem startsWithDigit_append {w : List Char} (h : IsDigits w) (r : List Char) :
    startsWithDigit (w ++ r) = true := by
  obtain ⟨hne, hw⟩ := isDigits_iff.mp h
  obtain ⟨c, w, rfl⟩ := List.exists_cons_of_ne_nil hne
  exact hw c List.mem_cons_self

/-- The digits in front of a text that starts with one. -/
theorem exists_digits {cs : List Char} (h : startsWithDigit cs = true) :
    ∃ w, IsDigits w ∧ cs = w ++ skipDigits cs := by
  rcases cs with _ | ⟨c, t⟩
  · simp [startsWithDigit] at h
  have hc : isDigit c = true := h
  have hsplit : c :: t = (c :: t).takeWhile isDigit ++ skipDigits (c :: t) :=
    List.takeWhile_append_dropWhile.symm
  refine ⟨(c :: t).takeWhile isDigit, isDigits_iff.mpr ⟨?_, ?_⟩, hsplit⟩
  · rw [List.takeWhile_cons_of_pos hc]
    exact List.cons_ne_nil _ _
  · exact fun d hd => List.mem_takeWhile_imp hd

/-- A sign in front of an exponent. -/
theorem exists_sign (cs : List Char) :
    ∃ sign, (sign = [] ∨ sign = ['+'] ∨ sign = ['-']) ∧ cs = sign ++ skipSign cs := by
  unfold skipSign
  split
  · exact ⟨['+'], by simp, rfl⟩
  · exact ⟨['-'], by simp, rfl⟩
  · exact ⟨[], by simp, rfl⟩

theorem skipSign_append {sign w : List Char} (hsign : sign = [] ∨ sign = ['+'] ∨ sign = ['-'])
    (hw : startsWithDigit w = true) : skipSign (sign ++ w) = w := by
  rcases hsign with rfl | rfl | rfl
  · rcases w with _ | ⟨c, w⟩
    · rfl
    · have hc : isDigit c = true := hw
      exact skipSign_of_ne (ne_of_isDigit hc rfl) (ne_of_isDigit hc rfl) w
  · rfl
  · rfl

theorem exists_of_skipExponent {cs r : List Char} (h : skipExponent cs = .ok r) :
    ∃ x, Exponent x ∧ cs = x ++ r := by
  unfold skipExponent at h
  split at h
  · obtain rfl := Except.ok.inj h
    exact ⟨[], .none, rfl⟩
  next e t =>
    split at h
    next he =>
      split at h
      next hd =>
        obtain rfl := Except.ok.inj h
        obtain ⟨sign, hsign, ht⟩ := exists_sign t
        obtain ⟨w, hw, hdigits⟩ := exists_digits hd
        refine ⟨e :: sign ++ w, .some he hsign hw, ?_⟩
        calc
          e :: t = e :: (sign ++ (w ++ skipDigits (skipSign t))) := by rw [← hdigits, ← ht]
          _ = e :: sign ++ w ++ skipDigits (skipSign t) := by simp
      next => simp [fault] at h
    next =>
      obtain rfl := Except.ok.inj h
      exact ⟨[], .none, rfl⟩

theorem skipExponent_of_endsValue {r : List Char} (hr : EndsValue r) : skipExponent r = .ok r := by
  rcases r with _ | ⟨c, r⟩
  · rfl
  · obtain ⟨-, -, he, hE⟩ := hr.ne
    simp [skipExponent, he, hE]

theorem skipExponent_append {x r : List Char} (hx : Exponent x) (hr : EndsValue r) :
    skipExponent (x ++ r) = .ok r := by
  cases hx with
  | none => exact skipExponent_of_endsValue hr
  | @some e sign w he hsign hw =>
    have hd := startsWithDigit_append hw r
    have hs := skipSign_append hsign hd
    have hskip := skipDigits_append (isDigits_iff.mp hw).2 hr.startsWithDigit
    simp only [List.cons_append, List.append_assoc, skipExponent, he, if_true, hs, hd, hskip]

theorem exists_of_skipFraction {cs r : List Char} (h : skipFraction cs = .ok r) :
    ∃ f x, Decimals f ∧ Exponent x ∧ cs = f ++ x ++ r := by
  unfold skipFraction at h
  split at h
  next t =>
    split at h
    next hd =>
      obtain ⟨w, hw, ht⟩ := exists_digits hd
      obtain ⟨x, hx, hrest⟩ := exists_of_skipExponent h
      refine ⟨'.' :: w, x, .some hw, hx, ?_⟩
      calc
        '.' :: t = '.' :: (w ++ (x ++ r)) := by rw [← hrest, ← ht]
        _ = '.' :: w ++ x ++ r := by simp
    next => simp [fault] at h
  next =>
    obtain ⟨x, hx, hrest⟩ := exists_of_skipExponent h
    exact ⟨[], x, .none, hx, hrest⟩

/-- Neither decimals nor an exponent start with a digit. -/
theorem startsWithDigit_exponent {x r : List Char} (hx : Exponent x) (hr : EndsValue r) :
    startsWithDigit (x ++ r) = false := by
  cases hx with
  | none => exact hr.startsWithDigit
  | some he hsign hw => rcases he with rfl | rfl <;> rfl

theorem startsWithDigit_fraction {f x r : List Char} (hf : Decimals f) (hx : Exponent x)
    (hr : EndsValue r) : startsWithDigit (f ++ x ++ r) = false := by
  cases hf with
  | none => exact startsWithDigit_exponent hx hr
  | some hw => rfl

theorem skipFraction_append {f x r : List Char} (hf : Decimals f) (hx : Exponent x)
    (hr : EndsValue r) : skipFraction (f ++ x ++ r) = .ok r := by
  cases hf with
  | none =>
    have hexp := skipExponent_append hx hr
    rcases hx with _ | ⟨he, hsign, hw⟩
    · rcases r with _ | ⟨c, r⟩
      · rfl
      · rwa [List.nil_append, List.nil_append, skipFraction_of_ne hr.ne.2.1]
    · rename_i e sign w
      have hdot : e ≠ '.' := by rcases he with rfl | rfl <;> decide
      simp only [List.nil_append, List.cons_append] at hexp ⊢
      rwa [skipFraction_of_ne hdot]
  | @some w hw =>
    have hd := startsWithDigit_append hw (x ++ r)
    have hskip := skipDigits_append (isDigits_iff.mp hw).2 (startsWithDigit_exponent hx hr)
    simp only [List.cons_append, List.append_assoc, skipFraction, hd, if_true, hskip]
    exact skipExponent_append hx hr

theorem exists_of_skipUnsigned {cs r : List Char} (h : skipUnsigned cs = .ok r) :
    ∃ w f x, Whole w ∧ Decimals f ∧ Exponent x ∧ cs = w ++ f ++ x ++ r := by
  unfold skipUnsigned at h
  split at h
  next t =>
    split at h
    · simp [fault] at h
    · obtain ⟨f, x, hf, hx, rfl⟩ := exists_of_skipFraction h
      exact ⟨['0'], f, x, .zero, hf, hx, by simp⟩
  next c t hzero =>
    split at h
    next hc =>
      obtain ⟨f, x, hf, hx, hrest⟩ := exists_of_skipFraction h
      obtain ⟨w, hw, ht⟩ := exists_digits (show startsWithDigit (c :: t) = true from hc)
      rw [skipDigits_of_isDigit hc, hrest] at ht
      refine ⟨w, f, x, .digits hw fun h0 => ?_, hf, hx, by simpa using ht⟩
      obtain ⟨w', rfl⟩ := List.head?_eq_some_iff.mp h0
      exact hzero (List.cons.inj ht).1
    next => simp [fault] at h
  next => simp [fault] at h

theorem skipUnsigned_append {w f x r : List Char} (hw : Whole w) (hf : Decimals f)
    (hx : Exponent x) (hr : EndsValue r) : skipUnsigned (w ++ f ++ x ++ r) = .ok r := by
  have hd := startsWithDigit_fraction hf hx hr
  have hskip := skipFraction_append hf hx hr
  have hassoc : w ++ f ++ x ++ r = w ++ (f ++ x ++ r) := by simp
  rw [hassoc]
  cases hw with
  | zero => simp only [List.cons_append, List.nil_append, skipUnsigned, hd, hskip] ; simp
  | digits h hzero =>
    obtain ⟨hne, hall⟩ := isDigits_iff.mp h
    obtain ⟨c, w, rfl⟩ := List.exists_cons_of_ne_nil hne
    obtain ⟨hdigit, hw⟩ := List.forall_mem_cons.mp hall
    have hc : c ≠ '0' := fun hc => hzero (by rw [hc]; rfl)
    have hdigits := skipDigits_append hw hd
    rw [List.cons_append, skipUnsigned_of_ne hc, if_pos hdigit, hdigits, hskip]

theorem exists_of_skipNumber {cs r : List Char} (h : skipNumber cs = .ok r) :
    ∃ w, IsNumber w ∧ cs = w ++ r := by
  unfold skipNumber at h
  split at h
  · obtain ⟨w, f, x, hw, hf, hx, rfl⟩ := exists_of_skipUnsigned h
    exact ⟨['-'] ++ w ++ f ++ x, .mk (Or.inr rfl) hw hf hx, by simp⟩
  · obtain ⟨w, f, x, hw, hf, hx, rfl⟩ := exists_of_skipUnsigned h
    exact ⟨[] ++ w ++ f ++ x, .mk (Or.inl rfl) hw hf hx, by simp⟩

theorem Whole.head {w : List Char} (h : Whole w) : ∃ c t, w = c :: t ∧ isDigit c = true := by
  cases h with
  | zero => exact ⟨'0', [], rfl, rfl⟩
  | digits h hzero =>
    obtain ⟨hne, hall⟩ := isDigits_iff.mp h
    obtain ⟨c, t, rfl⟩ := List.exists_cons_of_ne_nil hne
    exact ⟨c, t, rfl, hall c List.mem_cons_self⟩

theorem IsNumber.head {w : List Char} (h : IsNumber w) :
    ∃ c t, w = c :: t ∧ (c = '-' ∨ isDigit c = true) := by
  obtain ⟨hsign, hw, -, -⟩ := h
  rcases hsign with rfl | rfl
  · obtain ⟨c, t, rfl, hc⟩ := hw.head
    exact ⟨c, _, rfl, Or.inr hc⟩
  · exact ⟨'-', _, rfl, Or.inl rfl⟩

/-- What a number starts with is a mark of nothing else. -/
theorem ne_of_numberStart {c x : Char} (hc : c = '-' ∨ isDigit c = true) (hx : x ≠ '-')
    (hd : isDigit x = false) : c ≠ x := by
  rcases hc with rfl | hc
  · exact hx.symm
  · exact ne_of_isDigit hc hd

theorem skipNumber_append {w r : List Char} (h : IsNumber w) (hr : EndsValue r) :
    skipNumber (w ++ r) = .ok r := by
  obtain ⟨hsign, hw, hf, hx⟩ := h
  rename_i sign w f x
  have hskip := skipUnsigned_append hw hf hx hr
  rcases hsign with rfl | rfl
  · obtain ⟨c, t, rfl, hc⟩ := hw.head
    simp only [List.nil_append, List.cons_append] at hskip ⊢
    rwa [skipNumber_of_ne (ne_of_isDigit hc rfl)]
  · exact hskip

/-! ### Values without parts -/

theorem skipWord_eq_ok_iff {word cs r : List Char} : skipWord word cs = .ok r ↔ cs = word ++ r := by
  induction word generalizing cs with
  | nil => simp [skipWord]
  | cons w ws ih =>
    rcases cs with _ | ⟨c, t⟩
    · simp [skipWord, fault]
    · by_cases hc : c = w
      · simp [skipWord, hc, ih]
      · simp [skipWord, hc, fault]

theorem exists_of_skipScalar {cs r : List Char} (h : skipScalar cs = .ok r) :
    ∃ v, Derives .value v ∧ cs = v ++ r := by
  unfold skipScalar at h
  split at h
  · simp [fault] at h
  next c t =>
    split at h
    next hc =>
      obtain rfl := skipWord_eq_ok_iff.mp h
      exact ⟨_, .null, by simp [hc]⟩
    split at h
    next hc =>
      obtain rfl := skipWord_eq_ok_iff.mp h
      exact ⟨_, .true, by simp [hc]⟩
    split at h
    next hc =>
      obtain rfl := skipWord_eq_ok_iff.mp h
      exact ⟨_, .false, by simp [hc]⟩
    split at h
    next hc =>
      obtain ⟨w, rfl, hw⟩ := skipText_eq_ok_iff.mp h
      exact ⟨_, .string hw, by simp [hc]⟩
    split at h
    next =>
      obtain ⟨w, hw, hcs⟩ := exists_of_skipNumber h
      exact ⟨w, .number hw, hcs⟩
    next => simp [fault] at h

theorem skipScalar_number {w r : List Char} (h : IsNumber w) (hr : EndsValue r) :
    skipScalar (w ++ r) = .ok r := by
  have hskip := skipNumber_append h hr
  obtain ⟨c, t, rfl, hc⟩ := h.head
  have hne : ∀ x : Char, x ≠ '-' → isDigit x = false → c ≠ x := fun x => ne_of_numberStart hc
  simp only [List.cons_append, skipScalar] at hskip ⊢
  rw [if_neg (hne 'n' (by decide) rfl), if_neg (hne 't' (by decide) rfl),
    if_neg (hne 'f' (by decide) rfl), if_neg (hne '"' (by decide) rfl), if_pos hc, hskip]

/-! ### Keys -/

theorem skipColon_eq_ok_iff {cs r : List Char} :
    skipColon cs = .ok r ↔ ∃ a, IsBlank a ∧ cs = a ++ ':' :: r := by
  constructor
  · intro h
    unfold skipColon at h
    split at h
    · simp [fault] at h
    next c t ht =>
      obtain ⟨a, ha, rfl⟩ := exists_blank_of_skipSpace ht
      split at h
      next hc =>
        obtain rfl := Except.ok.inj h
        exact ⟨a, ha, by rw [hc]⟩
      next => simp [fault] at h
  · rintro ⟨a, ha, rfl⟩
    have hs : skipSpace (a ++ ':' :: r) = ':' :: r := by
      rw [skipSpace_blank_cons ha rfl]
    simp only [skipColon, hs, if_true]

theorem skipKey_eq_ok_iff {cs r : List Char} :
    skipKey cs = .ok r ↔ ∃ l, Lead .object l ∧ cs = l ++ r := by
  constructor
  · intro h
    unfold skipKey at h
    split at h
    · simp [fault] at h
    next c t ht =>
      obtain ⟨a, ha, rfl⟩ := exists_blank_of_skipSpace ht
      split at h
      next hc =>
        split at h
        · simp at h
        next t' ht' =>
          obtain ⟨w, rfl, hw⟩ := skipText_eq_ok_iff.mp ht'
          obtain ⟨b, hb, rfl⟩ := skipColon_eq_ok_iff.mp h
          exact ⟨_, .object ha hw hb, by simp [hc]⟩
      next => simp [fault] at h
  · rintro ⟨l, hl, rfl⟩
    rcases hl with _ | ⟨ha, hw, hb⟩
    rename_i a w b
    have htext := skipText_of_passable hw (b ++ ':' :: r)
    have hcolon : skipColon (b ++ ':' :: r) = .ok r := skipColon_eq_ok_iff.mpr ⟨b, hb, rfl⟩
    have hs : skipSpace (a ++ '"' :: (w ++ '"' :: (b ++ ':' :: r))) =
        '"' :: (w ++ '"' :: (b ++ ':' :: r)) := by
      rw [skipSpace_blank_cons ha rfl]
    simp only [List.append_assoc, List.cons_append, List.nil_append, skipKey, hs, if_true, htext,
      hcolon]

theorem skipLead_eq_ok_iff {frame : Frame} {cs r : List Char} :
    skipLead frame cs = .ok r ↔ ∃ l, Lead frame l ∧ cs = l ++ r := by
  cases frame with
  | object => exact skipKey_eq_ok_iff
  | list =>
    constructor
    · intro h
      obtain rfl := Except.ok.inj h
      exact ⟨[], .list, rfl⟩
    · rintro ⟨l, ⟨⟩, rfl⟩
      rfl

/-! ### Items between brackets -/

/-- What follows the value that is being passed over, where an item of an open frame comes next. -/
def skipItem (frame : Frame) (stack : List Frame) (cs : List Char) : Except Fault (List Char) :=
  match skipLead frame cs with
  | .error f => .error f
  | .ok rest => skipFrom .value (frame :: stack) rest

theorem skipFrom_value_skipSpace (stack : List Frame) (cs : List Char) :
    skipFrom .value stack (skipSpace cs) = skipFrom .value stack cs := by
  rw [skipFrom_value, skipFrom_value, skipSpace_skipSpace]

theorem skipItem_skipSpace (frame : Frame) (stack : List Frame) (cs : List Char) :
    skipItem frame stack (skipSpace cs) = skipItem frame stack cs := by
  cases frame with
  | list => exact skipFrom_value_skipSpace (.list :: stack) cs
  | object => simp only [skipItem, skipLead, skipKey, skipSpace_skipSpace]

theorem skipFrom_first_of_ne {frame : Frame} {stack : List Frame} {cs r : List Char} {c : Char}
    (hs : skipSpace cs = c :: r) (hc : c ≠ frame.close) :
    skipFrom (.first frame) stack cs = skipItem frame stack cs := by
  rw [← skipItem_skipSpace, skipFrom_first, hs]
  simp only [if_neg hc]
  rfl

theorem skipFrom_first_close {frame : Frame} {stack : List Frame} {cs r : List Char}
    (hs : skipSpace cs = frame.close :: r) :
    skipFrom (.first frame) stack cs = skipFrom .next stack r := by
  rw [skipFrom_first, hs]
  simp only [if_true]

theorem skipFrom_next_close {frame : Frame} {stack : List Frame} {cs r : List Char}
    (hs : skipSpace cs = frame.close :: r) :
    skipFrom .next (frame :: stack) cs = skipFrom .next stack r := by
  have hcomma : frame.close ≠ ',' := by cases frame <;> decide
  rw [skipFrom_next_cons, hs]
  simp only [if_neg hcomma, if_true]

theorem skipFrom_next_comma {frame : Frame} {stack : List Frame} {cs r : List Char}
    (hs : skipSpace cs = ',' :: r) :
    skipFrom .next (frame :: stack) cs = skipItem frame stack r := by
  rw [skipFrom_next_cons, hs]
  simp only [if_true]
  rfl

theorem isSpace_close (frame : Frame) : isSpace frame.close = false := by
  cases frame <;> rfl

theorem skipFrom_open (frame : Frame) (stack : List Frame) (r : List Char) :
    skipFrom .value stack (frame.open :: r) = skipFrom (.first frame) stack r := by
  have hs : skipSpace (frame.open :: r) = frame.open :: r :=
    skipSpace_of_not_isSpace (by cases frame <;> rfl) r
  rw [skipFrom_value, hs]
  cases frame with
  | list => simp only [Frame.open, if_true]
  | object =>
    have hne : ('{' : Char) ≠ '[' := by decide
    simp only [Frame.open, if_neg hne, if_true]

theorem skipFrom_scalar {stack : List Frame} {c : Char} {cs r : List Char}
    (hspace : isSpace c = false) (hlist : c ≠ '[') (hobject : c ≠ '{')
    (h : skipScalar (c :: cs) = .ok r) :
    skipFrom .value stack (c :: cs) = skipFrom .next stack r := by
  rw [skipFrom_value, skipSpace_of_not_isSpace hspace]
  simp only [if_neg hlist, if_neg hobject, h]

/-! ### The grammar is passed over -/

/-- A character that a value starts with. -/
theorem head_of_derives {v : List Char} (h : Derives .value v) :
    ∃ c t, v = c :: t ∧ isSpace c = false ∧ c ≠ ']' ∧ c ≠ '}' := by
  cases h with
  | number h =>
    obtain ⟨c, t, rfl, hc⟩ := h.head
    refine ⟨c, t, rfl, ?_⟩
    rcases hc with rfl | hc
    · decide
    · exact ⟨isSpace_of_isDigit hc, ne_of_isDigit hc rfl, ne_of_isDigit hc rfl⟩
  | @empty frame a ha => exact ⟨_, _, rfl, by cases frame <;> decide⟩
  | @full frame w h => exact ⟨_, _, rfl, by cases frame <;> decide⟩
  | string h => exact ⟨_, _, rfl, by decide⟩
  | null => exact ⟨_, _, rfl, by decide⟩
  | true => exact ⟨_, _, rfl, by decide⟩
  | false => exact ⟨_, _, rfl, by decide⟩

/-- What an item starts with, behind white space: no closing bracket. -/
theorem head_of_item {frame : Frame} {l a v : List Char} (hl : Lead frame l) (ha : IsBlank a)
    (hv : Derives .value v) (r : List Char) :
    ∃ c t, skipSpace (l ++ a ++ v ++ r) = c :: t ∧ c ≠ frame.close := by
  rcases hl with _ | ⟨hb, hw, hb'⟩
  · obtain ⟨c, t, rfl, hspace, hc, -⟩ := head_of_derives hv
    refine ⟨c, t ++ r, ?_, hc⟩
    have hassoc : [] ++ a ++ c :: t ++ r = a ++ c :: (t ++ r) := by simp
    rw [hassoc, skipSpace_blank_cons ha hspace]
  · rename_i b w b'
    refine ⟨'"', w ++ '"' :: b' ++ [':'] ++ a ++ v ++ r, ?_, by decide⟩
    have hassoc : b ++ '"' :: w ++ '"' :: b' ++ [':'] ++ a ++ v ++ r =
        b ++ '"' :: (w ++ '"' :: b' ++ [':'] ++ a ++ v ++ r) := by simp
    rw [hassoc, skipSpace_blank_cons hb rfl]

theorem head_of_items {frame : Frame} {w : List Char} (h : Derives (.items frame) w)
    (r : List Char) : ∃ c t, skipSpace (w ++ r) = c :: t ∧ c ≠ frame.close := by
  cases h with
  | @last frame l a v b hl ha hv hb =>
    obtain ⟨c, t, hs, hc⟩ := head_of_item hl ha hv (b ++ r)
    exact ⟨c, t, by simpa using hs, hc⟩
  | @more frame l a v b w hl ha hv hb hw =>
    obtain ⟨c, t, hs, hc⟩ := head_of_item hl ha hv (b ++ ',' :: w ++ r)
    exact ⟨c, t, by simpa using hs, hc⟩

/-- What becomes of a phrase in front of the reader: behind a value the reader goes on with what may
follow one, and behind the items of a frame and the closing bracket with what may follow the frame. -/
def Passes : Phrase → List Char → Prop
  | .value, w => ∀ stack r, EndsValue r → skipFrom .value stack (w ++ r) = skipFrom .next stack r
  | .items frame, w =>
    ∀ stack r, skipItem frame stack (w ++ frame.close :: r) = skipFrom .next stack r

/-- The value of an item is passed over. -/
theorem skipItem_append {frame : Frame} {l a v : List Char} (hl : Lead frame l) (ha : IsBlank a)
    (hv : Passes .value v) (stack : List Frame) {r : List Char} (hr : EndsValue r) :
    skipItem frame stack (l ++ a ++ v ++ r) = skipFrom .next (frame :: stack) r := by
  have hlead : skipLead frame (l ++ a ++ v ++ r) = .ok (a ++ (v ++ r)) :=
    skipLead_eq_ok_iff.mpr ⟨l, hl, by simp⟩
  rw [skipItem, hlead]
  show skipFrom .value (frame :: stack) (a ++ (v ++ r)) = _
  rw [← skipFrom_value_skipSpace, skipSpace_append ha, skipFrom_value_skipSpace]
  exact hv (frame :: stack) r hr

theorem passes_of_derives {p : Phrase} {w : List Char} (h : Derives p w) : Passes p w := by
  induction h with
  | null | true | false =>
    intro stack r _
    exact skipFrom_scalar rfl (by decide) (by decide) (by simp [skipScalar, skipWord])
  | @number w h =>
    intro stack r hr
    have hscalar := skipScalar_number h hr
    obtain ⟨c, t, rfl, hspace, -, -⟩ := head_of_derives (.number h)
    obtain ⟨d, t', ht, hd⟩ := h.head
    obtain rfl : c = d := (List.cons.inj ht).1
    exact skipFrom_scalar hspace (ne_of_numberStart hd (by decide) rfl)
      (ne_of_numberStart hd (by decide) rfl) hscalar
  | @string w h =>
    intro stack r _
    have htext := skipText_of_passable h r
    refine skipFrom_scalar rfl (by decide) (by decide) ?_
    simpa [skipScalar] using htext
  | @empty frame a ha =>
    intro stack r _
    have hassoc : frame.open :: a ++ [frame.close] ++ r = frame.open :: (a ++ frame.close :: r) := by
      simp
    rw [hassoc, skipFrom_open]
    refine skipFrom_first_close ?_
    rw [skipSpace_blank_cons ha (isSpace_close frame)]
  | @full frame w h ih =>
    intro stack r _
    have hassoc : frame.open :: w ++ [frame.close] ++ r = frame.open :: (w ++ frame.close :: r) := by
      simp
    obtain ⟨c, t, hs, hc⟩ := head_of_items h (frame.close :: r)
    rw [hassoc, skipFrom_open, skipFrom_first_of_ne hs hc]
    exact ih stack r
  | @last frame l a v b hl ha _ hb ih =>
    intro stack r
    have hr : EndsValue (b ++ frame.close :: r) := endsValue_blank hb (endsValue_close frame r)
    have hassoc : l ++ a ++ v ++ b ++ frame.close :: r = l ++ a ++ v ++ (b ++ frame.close :: r) := by
      simp
    rw [hassoc, skipItem_append hl ha ih stack hr]
    refine skipFrom_next_close ?_
    rw [skipSpace_blank_cons hb (isSpace_close frame)]
  | @more frame l a v b w hl ha _ hb _ ih ihw =>
    intro stack r
    have hr : EndsValue (b ++ ',' :: (w ++ frame.close :: r)) := endsValue_blank hb (endsValue_comma _)
    have hassoc : l ++ a ++ v ++ b ++ ',' :: w ++ frame.close :: r =
        l ++ a ++ v ++ (b ++ ',' :: (w ++ frame.close :: r)) := by
      simp
    rw [hassoc, skipItem_append hl ha ih stack hr, ← ihw stack r]
    refine skipFrom_next_comma ?_
    rw [skipSpace_blank_cons hb rfl]

/-- **A value of the grammar is passed over.** -/
theorem skipValue_of_derives {a v r : List Char} (ha : IsBlank a) (hv : Derives .value v)
    (hr : EndsValue r) : skipValue (a ++ v ++ r) = .ok r := by
  rw [skipValue, ← skipFrom_value_skipSpace, List.append_assoc, skipSpace_append ha,
    skipFrom_value_skipSpace, passes_of_derives hv [] r hr, skipFrom]

/-! ### What is passed over is in the grammar -/

/-- A run that passes over a value, cut behind the value. -/
def CutValue (stack : List Frame) (cs r : List Char) : Prop :=
  ∃ a v rest, IsBlank a ∧ Derives .value v ∧ cs = a ++ v ++ rest ∧ skipFrom .next stack rest = .ok r

/-- A run that passes over the items of an open frame, cut behind the closing bracket. -/
def CutItems (frame : Frame) (stack : List Frame) (cs r : List Char) : Prop :=
  ∃ w rest, Derives (.items frame) w ∧ cs = w ++ frame.close :: rest ∧
    skipFrom .next stack rest = .ok r

/-- The run over a value can be cut, if the runs over the items of shorter texts can. -/
theorem cutValue_of_skipFrom {stack : List Frame} {cs r : List Char}
    (ih : ∀ {frame t}, t.length < cs.length → skipItem frame stack t = .ok r →
      CutItems frame stack t r)
    (h : skipFrom .value stack cs = .ok r) : CutValue stack cs r := by
  have hopen : ∀ frame a t, IsBlank a → cs = a ++ frame.open :: t →
      skipFrom (.first frame) stack t = .ok r → CutValue stack cs r := by
    rintro frame a t ha rfl h
    rw [skipFrom_first] at h
    rcases hs : skipSpace t with _ | ⟨c, t'⟩
    · simp [hs, fault] at h
    obtain ⟨b, hb, rfl⟩ := exists_blank_of_skipSpace hs
    by_cases hc : c = frame.close
    · subst hc
      rw [hs] at h
      simp only [if_true] at h
      exact ⟨a, frame.open :: b ++ [frame.close], t', ha, .empty hb, by simp, h⟩
    · rw [← skipFrom_first, skipFrom_first_of_ne hs hc] at h
      obtain ⟨w, rest, hw, hcs, hnext⟩ := ih (by simp; omega) h
      exact ⟨a, _, rest, ha, .full hw, by simp [hcs], hnext⟩
  rw [skipFrom_value] at h
  rcases hs : skipSpace cs with _ | ⟨c, t⟩
  · simp [hs, fault] at h
  obtain ⟨a, ha, hcs⟩ := exists_blank_of_skipSpace hs
  rw [hs] at h
  simp only at h
  split at h
  next hc => exact hopen .list a t ha (by rw [hcs, hc]; rfl) h
  split at h
  next hc => exact hopen .object a t ha (by rw [hcs, hc]; rfl) h
  split at h
  · simp at h
  next rest hrest =>
    obtain ⟨v, hv, ht⟩ := exists_of_skipScalar hrest
    exact ⟨a, v, rest, ha, hv, by rw [hcs, ht, List.append_assoc], h⟩

/-- The run over items can be cut, if the run over the first value can, and the runs over the items of
shorter texts. -/
theorem cutItems_of_skipItem {frame : Frame} {stack : List Frame} {cs r : List Char}
    (ihv : ∀ {t}, t.length ≤ cs.length → skipFrom .value (frame :: stack) t = .ok r →
      CutValue (frame :: stack) t r)
    (ih : ∀ {t}, t.length < cs.length → skipItem frame stack t = .ok r → CutItems frame stack t r)
    (h : skipItem frame stack cs = .ok r) : CutItems frame stack cs r := by
  unfold skipItem at h
  split at h
  · simp at h
  next t ht =>
    obtain ⟨l, hl, rfl⟩ := skipLead_eq_ok_iff.mp ht
    obtain ⟨a, v, rest, ha, hv, rfl, hnext⟩ := ihv (by simp) h
    rw [skipFrom_next_cons] at hnext
    rcases hs : skipSpace rest with _ | ⟨c, t⟩
    · simp [hs, fault] at hnext
    obtain ⟨b, hb, rfl⟩ := exists_blank_of_skipSpace hs
    by_cases hcomma : c = ','
    · subst hcomma
      rw [← skipFrom_next_cons, skipFrom_next_comma hs] at hnext
      obtain ⟨w, rest, hw, rfl, hrest⟩ := ih (by simp; omega) hnext
      exact ⟨_, rest, .more hl ha hv hb hw, by simp, hrest⟩
    · rw [hs] at hnext
      simp only [if_neg hcomma] at hnext
      split at hnext
      next hc => exact ⟨_, t, .last hl ha hv hb, by simp [hc], hnext⟩
      next => simp [fault] at hnext

/-- Every run over a value or over items can be cut: by the length of the text, and for texts of one
length the values first. -/
theorem cut_of_skip (n : ℕ) :
    (∀ {stack cs r}, cs.length < n → skipFrom .value stack cs = .ok r → CutValue stack cs r) ∧
      ∀ {frame stack cs r}, cs.length < n → skipItem frame stack cs = .ok r →
        CutItems frame stack cs r := by
  induction n with
  | zero => exact ⟨fun hn => absurd hn (by omega), fun hn => absurd hn (by omega)⟩
  | succ n ih =>
    have hvalue : ∀ {stack cs r}, cs.length < n + 1 → skipFrom .value stack cs = .ok r →
        CutValue stack cs r :=
      fun hn h => cutValue_of_skipFrom (fun ht => ih.2 (by omega)) h
    exact ⟨hvalue, fun hn h =>
      cutItems_of_skipItem (fun ht => hvalue (by omega)) (fun ht => ih.2 (by omega)) h⟩

/-- **What is passed over is a value of the grammar.** -/
theorem exists_of_skipValue {cs r : List Char} (h : skipValue cs = .ok r) :
    ∃ a v, IsBlank a ∧ Derives .value v ∧ cs = a ++ v ++ r := by
  obtain ⟨a, v, rest, ha, hv, hcs, hnext⟩ := (cut_of_skip (cs.length + 1)).1 (by omega) h
  rw [skipFrom] at hnext
  obtain rfl := Except.ok.inj hnext
  exact ⟨a, v, ha, hv, hcs⟩

end DnsConsole.Json
