import DnsConsole.Proofs.Json.Unreadable
import DnsConsole.Proofs.Json.Values
import DnsConsole.Proofs.Text.Pieces

/-!
# Records of the grammar

A record of one field is decoded exactly if it is one of the grammar: `Schema.Reads.decodeChars_eq_ok_iff`.
It is stated for any field whose reader accepts the texts of its values and nothing else (`Schema.Reads`), so
that a record with a field of another kind needs no more than the laws of its reader.

The members of an object are followed by what has been found of the field (`Run`): each of them either is
the field's, and then it was not found before, or leaves what was found as it is.
-/

namespace DnsConsole.Json

variable {α : Type}

/-! ### Members in a row -/

section Run

variable (key : List Char) (Literal : List Char → α → Prop)

/-- What a member makes of what has been found of the field. -/
def Keeps (found found' : Option α) (m : List Char) : Prop :=
  (found' = found ∧ IsOther key m) ∨ (found = none ∧ ∃ v, found' = some v ∧ IsField key Literal v m)

/-- What members in a row make of what has been found of the field. -/
inductive Run : Option α → Option α → List (List Char) → Prop
  | nil (found : Option α) : Run found found []
  | cons {found found' found'' : Option α} {m : List Char} {ms : List (List Char)}
    (h : Keeps key Literal found found' m) (hms : Run found' found'' ms) : Run found found'' (m :: ms)

variable {key Literal}

theorem run_of_others {v : Option α} {ms : List (List Char)} (h : ∀ m ∈ ms, IsOther key m) :
    Run key Literal v v ms := by
  induction ms with
  | nil => exact .nil v
  | cons m ms ih =>
    obtain ⟨hm, hms⟩ := List.forall_mem_cons.mp h
    exact .cons (Or.inl ⟨rfl, hm⟩) (ih hms)

theorem others_of_run {v : α} {found : Option α} {ms : List (List Char)}
    (h : Run key Literal (some v) found ms) : found = some v ∧ ∀ m ∈ ms, IsOther key m := by
  induction ms with
  | nil =>
    cases h
    simp
  | cons m ms ih =>
    obtain _ | ⟨hm, hms⟩ := h
    rcases hm with ⟨rfl, hm⟩ | ⟨hnone, -⟩
    · obtain ⟨hfound, hrest⟩ := ih hms
      exact ⟨hfound, List.forall_mem_cons.mpr ⟨hm, hrest⟩⟩
    · simp at hnone

/-- The field is found if exactly one member is the field's. -/
theorem run_none_iff {v : α} {ms : List (List Char)} :
    Run key Literal none (some v) ms ↔
      ∃ before m after, ms = before ++ m :: after ∧ IsField key Literal v m ∧
        (∀ x ∈ before, IsOther key x) ∧ ∀ x ∈ after, IsOther key x := by
  constructor
  · intro h
    induction ms with
    | nil => cases h
    | cons m ms ih =>
      obtain _ | ⟨hm, hms⟩ := h
      rcases hm with ⟨rfl, hm⟩ | ⟨-, u, rfl, hm⟩
      · obtain ⟨before, x, after, rfl, hx, hbefore, hafter⟩ := ih hms
        exact ⟨m :: before, x, after, rfl, hx, List.forall_mem_cons.mpr ⟨hm, hbefore⟩, hafter⟩
      · obtain ⟨huv, hothers⟩ := others_of_run hms
        obtain rfl : v = u := Option.some.inj huv
        exact ⟨[], m, ms, rfl, hm, by simp, hothers⟩
  · rintro ⟨before, m, after, rfl, hm, hbefore, hafter⟩
    have hrun : Run key Literal none (some v) (m :: after) :=
      .cons (Or.inr ⟨rfl, v, rfl, hm⟩) (run_of_others hafter)
    induction before with
    | nil => exact hrun
    | cons x before ih =>
      obtain ⟨hx, hbefore⟩ := List.forall_mem_cons.mp hbefore
      exact .cons (Or.inl ⟨rfl, hx⟩) (ih hbefore)

/-- White space in front of a member belongs to it. -/
theorem Member.blank {k value a m : List Char} (ha : IsBlank a) (h : Member k value m) :
    Member k value (a ++ m) := by
  obtain ⟨hb, hw, hc, hd, he⟩ := h
  have hm : Member k value _ := .mk (ha.append hb) hw hc hd he
  simpa using hm

theorem Keeps.blank {found found' : Option α} {a m : List Char} (ha : IsBlank a)
    (h : Keeps key Literal found found' m) : Keeps key Literal found found' (a ++ m) := by
  rcases h with ⟨rfl, k, value, hk, hvalue, hm⟩ | ⟨rfl, v, rfl, value, hvalue, hm⟩
  · exact Or.inl ⟨rfl, k, value, hk, hvalue, hm.blank ha⟩
  · exact Or.inr ⟨rfl, v, rfl, value, hvalue, hm.blank ha⟩

end Run

/-- The text of members in a row: each has a comma in front of it, the first one of an object apart. -/
def membersText (start : Bool) (ms : List (List Char)) : List Char :=
  if start then [','].intercalate ms else ms.flatMap (',' :: ·)

theorem intercalate_cons (m : List Char) (ms : List (List Char)) :
    [','].intercalate (m :: ms) = m ++ ms.flatMap (',' :: ·) := by
  induction ms generalizing m with
  | nil => simp
  | cons x ms ih =>
    rw [List.intercalate_cons_cons, ih x]
    simp

theorem membersText_cons (start : Bool) (m : List Char) (ms : List (List Char)) :
    membersText start (m :: ms) = (if start then [] else [',']) ++ m ++ membersText false ms := by
  cases start with
  | true => simp [membersText, intercalate_cons]
  | false => simp [membersText]

/-- Members in a row end a value in front of them. -/
theorem endsValue_members {d r : List Char} (hd : IsBlank d) (ms : List (List Char)) :
    EndsValue (d ++ (membersText false ms ++ '}' :: r)) := by
  refine endsValue_blank hd ?_
  rcases ms with _ | ⟨m, ms⟩
  · exact endsValue_close .object r
  · rw [membersText_cons]
    exact endsValue_comma _

namespace Schema

/-- A schema whose reader accepts the texts of the field's values, behind white space, and nothing
else. -/
structure Reads (s : Schema α) (Literal : List Char → α → Prop) : Prop where
  start : ∀ {w : List Char} {v : α}, Literal w v → ∃ c t, w = c :: t ∧ isSpace c = false ∧ c ≠ ']'
  sound : ∀ {cs r : List Char} {v : α}, s.read cs = .ok (v, r) →
    ∃ a w, IsBlank a ∧ Literal w v ∧ cs = a ++ w ++ r
  complete : ∀ {a w r : List Char} {v : α}, IsBlank a → Literal w v → EndsValue r →
    s.read (a ++ w ++ r) = .ok (v, r)

variable {s : Schema α} {Literal : List Char → α → Prop}

/-! ### One member -/

theorem Reads.exists_of_readMember (hs : s.Reads Literal) {found found' : Option α}
    {cs r : List Char} (h : s.readMember found cs = .ok (found', r)) :
    ∃ m, cs = m ++ r ∧ ∀ a d, IsBlank a → IsBlank d →
      Keeps s.key.toList Literal found found' (a ++ '"' :: m ++ d) := by
  unfold readMember at h
  split at h
  · simp at h
  next key rest hkey =>
    obtain ⟨w, rfl, hw⟩ := readText_eq_ok_iff.mp hkey
    split at h
    next hfield =>
      split at h
      · simp [fault] at h
      split at h
      · simp at h
      next rest' hcolon =>
        obtain ⟨b, hb, rfl⟩ := skipColon_eq_ok_iff.mp hcolon
        split at h
        · simp at h
        next v rest'' hv =>
          obtain ⟨c, x, hc, hx, rfl⟩ := hs.sound hv
          obtain ⟨rfl, rfl⟩ := Prod.mk.inj (Except.ok.inj h)
          refine ⟨w ++ '"' :: b ++ ':' :: c ++ x, by simp, fun a d ha hd => ?_⟩
          have hm : Member s.key.toList x _ := .mk ha (hfield ▸ hw) hb hc hd
          exact Or.inr ⟨rfl, v, rfl, x, hx, by simpa using hm⟩
    next hother =>
      split at h
      · simp at h
      next rest' hcolon =>
        obtain ⟨b, hb, rfl⟩ := skipColon_eq_ok_iff.mp hcolon
        split at h
        · simp at h
        next rest'' hv =>
          obtain ⟨c, x, hc, hx, rfl⟩ := exists_of_skipValue hv
          obtain ⟨rfl, rfl⟩ := Prod.mk.inj (Except.ok.inj h)
          refine ⟨w ++ '"' :: b ++ ':' :: c ++ x, by simp, fun a d ha hd => ?_⟩
          have hm : Member key x _ := .mk ha hw hb hc hd
          exact Or.inl ⟨rfl, key, x, hother, hx, by simpa using hm⟩

theorem Reads.readMember_append (hs : s.Reads Literal) {found found' : Option α} {m : List Char}
    (h : Keeps s.key.toList Literal found found' m) :
    ∃ a x d, IsBlank a ∧ IsBlank d ∧ m = a ++ '"' :: x ++ d ∧
      ∀ r, EndsValue (d ++ r) → s.readMember found (x ++ (d ++ r)) = .ok (found', d ++ r) := by
  rcases h with ⟨rfl, key, value, hkey, hvalue, hm⟩ | ⟨rfl, v, rfl, value, hvalue, hm⟩
  all_goals
    obtain ⟨ha, hw, hb, hc, hd⟩ := hm
    rename_i a w b c d
    refine ⟨a, w ++ '"' :: b ++ ':' :: c ++ value, d, ha, hd, by simp, fun r hr => ?_⟩
    have htext := readText_of_spells hw (b ++ ':' :: (c ++ (value ++ (d ++ r))))
    have hcolon : skipColon (b ++ ':' :: (c ++ (value ++ (d ++ r)))) =
        .ok (c ++ (value ++ (d ++ r))) := skipColon_eq_ok_iff.mpr ⟨b, hb, rfl⟩
  · have hskip := skipValue_of_derives hc hvalue hr
    rw [List.append_assoc] at hskip
    simp only [List.append_assoc, List.cons_append, readMember, htext, if_neg hkey, hcolon, hskip]
  · have hread := hs.complete hc hvalue hr
    rw [List.append_assoc] at hread
    simp only [List.append_assoc, List.cons_append, readMember, htext, if_true, hcolon, hread]

/-! ### Objects -/

theorem Reads.exists_of_readMembers (hs : s.Reads Literal) {found : Option α} {start : Bool}
    {cs r : List Char} {v : α} (h : s.readMembers found start cs = .ok (v, r)) :
    ∃ a ms, IsBlank a ∧ Run s.key.toList Literal found (some v) ms ∧
      cs = a ++ membersText start ms ++ '}' :: r := by
  rw [readMembers_eq] at h
  rcases hsp : skipSpace cs with _ | ⟨c, t⟩
  · simp [hsp, fault] at h
  obtain ⟨a, ha, hcs⟩ := exists_blank_of_skipSpace hsp
  rw [hsp] at h
  simp only at h
  split at h
  next hend =>
    rcases found with _ | u
    · simp [fault] at h
    obtain ⟨rfl, rfl⟩ := Prod.mk.inj (Except.ok.inj h)
    exact ⟨a, [], ha, .nil _, by cases start <;> simp [hcs, hend, membersText]⟩
  split at h
  · simp [fault] at h
  next hcomma =>
    -- the opening quote of the next key, and what stands between it and the members before
    have hkey : ∀ d t', (if start then c :: t else skipSpace t) = d :: t' →
        ∃ b, IsBlank b ∧ cs = a ++ (if start then [] else [',']) ++ b ++ d :: t' := by
      intro d t' ht'
      cases start with
      | true => exact ⟨[], isBlank_nil, by simpa using hcs.trans (congrArg (a ++ ·) ht')⟩
      | false =>
        obtain ⟨b, hb, ht⟩ := exists_blank_of_skipSpace (show skipSpace t = d :: t' from ht')
        have hc : c = ',' := by simpa using hcomma
        exact ⟨b, hb, by simp [hcs, hc, ht]⟩
    split at h
    · simp [fault] at h
    next d t' ht' =>
      obtain ⟨b, hb, hcs'⟩ := hkey d t' ht'
      split at h
      next hq =>
        split at h
        · simp at h
        next found' rest hm =>
          obtain ⟨m, ht, hkeeps⟩ := hs.exists_of_readMember hm
          have hlt : rest.length < cs.length := by
            simp only [hcs', ht, List.length_append, List.length_cons]
            omega
          obtain ⟨d', ms, hd', hrun, hrest⟩ := hs.exists_of_readMembers h
          refine ⟨a, (b ++ '"' :: m ++ d') :: ms, ha, .cons (hkeeps b d' hb hd') hrun, ?_⟩
          rw [hcs', membersText_cons, ht, hrest, hq]
          simp
      split at h <;> simp [fault] at h
termination_by cs.length

theorem Reads.readMembers_append (hs : s.Reads Literal) {found : Option α} {v : α}
    {ms : List (List Char)} (h : Run s.key.toList Literal found (some v) ms) (start : Bool)
    {a : List Char} (ha : IsBlank a) (r : List Char) :
    s.readMembers found start (a ++ membersText start ms ++ '}' :: r) = .ok (v, r) := by
  induction ms generalizing found start a with
  | nil =>
    cases h
    have hsp : skipSpace (a ++ membersText start [] ++ '}' :: r) = '}' :: r := by
      have hnil : membersText start [] = [] := by cases start <;> rfl
      rw [hnil, List.append_nil, skipSpace_blank_cons ha rfl]
    rw [readMembers_eq, hsp]
    simp
  | cons m ms ih =>
    obtain _ | ⟨hm, hms⟩ := h
    obtain ⟨b, x, d, hb, hd, rfl, hread⟩ := hs.readMember_append hm
    have hmember := hread (membersText false ms ++ '}' :: r) (endsValue_members hd ms)
    have hrest := ih hms false hd
    rw [List.append_assoc] at hrest
    have hquote : ∀ t, skipSpace (b ++ '"' :: t) = '"' :: t := fun t => by
      rw [skipSpace_blank_cons hb rfl]
    rw [readMembers_eq]
    cases start with
    | true =>
      have hsp : skipSpace (a ++ membersText true ((b ++ '"' :: x ++ d) :: ms) ++ '}' :: r) =
          '"' :: (x ++ (d ++ (membersText false ms ++ '}' :: r))) := by
        rw [membersText_cons]
        simp only [if_true, List.nil_append, List.append_assoc, List.cons_append]
        rw [skipSpace_append ha, hquote]
      rw [hsp]
      simp [hmember, hrest]
    | false =>
      have hsp : skipSpace (a ++ membersText false ((b ++ '"' :: x ++ d) :: ms) ++ '}' :: r) =
          ',' :: (b ++ '"' :: (x ++ (d ++ (membersText false ms ++ '}' :: r)))) := by
        rw [membersText_cons]
        simp only [Bool.false_eq_true, if_false, List.append_assoc, List.cons_append,
          List.nil_append]
        rw [skipSpace_blank_cons ha rfl]
      rw [hsp]
      simp [hquote, hmember, hrest]

/-! ### Lists -/

theorem skipListEnd_eq_ok_iff {cs r : List Char} :
    skipListEnd cs = .ok r ↔ ∃ b, IsBlank b ∧ cs = b ++ ']' :: r := by
  constructor
  · intro h
    unfold skipListEnd at h
    split at h
    · simp [fault] at h
    next c t ht =>
      obtain ⟨b, hb, rfl⟩ := exists_blank_of_skipSpace ht
      split at h
      next hc =>
        obtain rfl := Except.ok.inj h
        exact ⟨b, hb, by rw [hc]⟩
      split at h <;> simp [fault] at h
  · rintro ⟨b, hb, rfl⟩
    have hs : skipSpace (b ++ ']' :: r) = ']' :: r := by
      rw [skipSpace_blank_cons hb rfl]
    simp only [skipListEnd, hs, if_true]

theorem Reads.readElement_eq_ok_iff (hs : s.Reads Literal) {cs r : List Char} {v : α} :
    s.readElement cs = .ok (v, r) ↔
      ∃ a w b, IsBlank a ∧ Literal w v ∧ IsBlank b ∧ cs = a ++ w ++ b ++ ']' :: r := by
  constructor
  · intro h
    unfold readElement at h
    split at h
    · simp [fault] at h
    next c t ht =>
      obtain ⟨a, ha, rfl⟩ := exists_blank_of_skipSpace ht
      split at h
      · simp [fault] at h
      split at h
      · simp at h
      next v' rest hv =>
        obtain ⟨a', w, ha', hw, hcs⟩ := hs.sound hv
        split at h
        · simp at h
        next rest' hend =>
          obtain ⟨b, hb, rfl⟩ := skipListEnd_eq_ok_iff.mp hend
          obtain ⟨rfl, rfl⟩ := Prod.mk.inj (Except.ok.inj h)
          exact ⟨a ++ a', w, b, ha.append ha', hw, hb, by simp [hcs]⟩
  · rintro ⟨a, w, b, ha, hw, hb, rfl⟩
    have hread := hs.complete isBlank_nil hw (endsValue_blank hb (endsValue_close .list r))
    have hend : skipListEnd (b ++ ']' :: r) = .ok r := skipListEnd_eq_ok_iff.mpr ⟨b, hb, rfl⟩
    obtain ⟨c, t, rfl, hspace, hc⟩ := hs.start hw
    have hsp : skipSpace (a ++ c :: t ++ b ++ ']' :: r) = c :: (t ++ (b ++ ']' :: r)) := by
      simp only [List.append_assoc, List.cons_append]
      rw [skipSpace_blank_cons ha hspace]
    simp only [List.nil_append, List.cons_append, Frame.close] at hread
    simp only [readElement, hsp, if_neg hc, hread, hend]

/-! ### Bodies -/

theorem Reads.readRecord_eq_ok_iff (hs : s.Reads Literal) {cs r : List Char} {v : α} :
    s.readRecord cs = .ok (v, r) ↔
      ∃ a w, IsBlank a ∧ (IsObject s.key.toList Literal v w ∨ IsSingleton Literal v w) ∧
        cs = a ++ w ++ r := by
  constructor
  · intro h
    unfold readRecord at h
    split at h
    · simp [fault] at h
    next c t ht =>
      obtain ⟨a, ha, rfl⟩ := exists_blank_of_skipSpace ht
      split at h
      next hc =>
        obtain ⟨b, ms, hb, hrun, rfl⟩ := hs.exists_of_readMembers h
        obtain _ | ⟨hm, hms⟩ := hrun
        rename_i found m ms
        obtain ⟨before, x, after, heq, hx, hbefore, hafter⟩ :=
          run_none_iff.mp (.cons (hm.blank hb) hms)
        refine ⟨a, _, ha, Or.inl (.mk hx hbefore hafter), ?_⟩
        rw [← heq, hc]
        simp [membersText, intercalate_cons]
      split at h
      next hc =>
        obtain ⟨b, w, d, hb, hw, hd, rfl⟩ := hs.readElement_eq_ok_iff.mp h
        exact ⟨a, _, ha, Or.inr (.mk hb hw hd), by simp [hc]⟩
      next => simp at h
  · rintro ⟨a, w, ha, hw | hw, rfl⟩
    · obtain ⟨hm, hbefore, hafter⟩ := hw
      rename_i before after m
      have hrun := run_none_iff.mpr ⟨before, m, after, rfl, hm, hbefore, hafter⟩
      have hread := hs.readMembers_append hrun true isBlank_nil r
      have hsp : skipSpace (a ++ ('{' :: [','].intercalate (before ++ m :: after) ++ ['}']) ++ r) =
          '{' :: ([] ++ membersText true (before ++ m :: after) ++ '}' :: r) := by
        simp only [List.append_assoc, List.cons_append, List.nil_append]
        rw [skipSpace_blank_cons ha rfl]
        rfl
      simp only [readRecord, hsp, if_true, hread]
    · obtain ⟨hb, hw, hd⟩ := hw
      rename_i b w d
      have hread := hs.readElement_eq_ok_iff.mpr ⟨b, w, d, hb, hw, hd, (rfl : _ ++ ']' :: r = _)⟩
      have hsp : skipSpace (a ++ ('[' :: b ++ w ++ d ++ [']']) ++ r) =
          '[' :: (b ++ w ++ d ++ ']' :: r) := by
        simp only [List.append_assoc, List.cons_append, List.nil_append]
        rw [skipSpace_blank_cons ha rfl]
      have hne : ('[' : Char) ≠ '{' := by decide
      simp only [readRecord, hsp, if_neg hne, if_true, hread]

/-- **A body is decoded exactly if it is a record of the grammar.** -/
theorem Reads.decodeChars_eq_ok_iff (hs : s.Reads Literal) {body : List Char} {v : α} :
    s.decodeChars body = .ok v ↔ IsRecord s.key.toList Literal v body := by
  constructor
  · intro h
    unfold decodeChars at h
    split at h
    · simp at h
    next v' rest hrecord =>
      obtain ⟨a, w, ha, hw, rfl⟩ := hs.readRecord_eq_ok_iff.mp hrecord
      split at h
      next hrest =>
        obtain rfl := Except.ok.inj h
        exact ⟨a, w, rest, ha, isBlank_of_skipSpace_nil hrest, hw, rfl⟩
      next => simp [fault] at h
  · rintro ⟨a, w, b, ha, hb, hw, rfl⟩
    have hrecord : s.readRecord (a ++ w ++ b) = .ok (v, b) :=
      hs.readRecord_eq_ok_iff.mpr ⟨a, w, ha, hw, rfl⟩
    have hrest : skipSpace b = [] := by
      have hb := skipSpace_append hb []
      rwa [List.append_nil] at hb
    simp only [decodeChars, hrecord, hrest]

end Schema

end DnsConsole.Json
