import DnsConsole.Json.Number

/-!
# Values that are passed over

A member that nobody asked for is checked for its form and forgotten.  `skipValue` does that at any
depth of nesting: the lists and objects that are open are kept on a stack, the innermost first, and
each step of `skipFrom` reads one token.
-/

namespace DnsConsole.Json

/-! ### Values without parts -/

/-- What follows a word of which the first letter has been read. -/
def skipWord : (word : List Char) → List Char → Except Fault (List Char)
  | [], cs => .ok cs
  | _ :: _, [] => fault (.endOf .value) [] 0
  | w :: ws, c :: r => if c = w then skipWord ws r else fault .expectedWord (c :: r) 1

/-- What follows a value that is no list and no object. -/
def skipScalar (cs : List Char) : Except Fault (List Char) :=
  match cs with
  | [] => fault (.endOf .value) [] 0
  | c :: r =>
    if c = 'n' then skipWord ['u', 'l', 'l'] r
    else if c = 't' then skipWord ['r', 'u', 'e'] r
    else if c = 'f' then skipWord ['a', 'l', 's', 'e'] r
    else if c = '"' then skipText r
    else if c = '-' ∨ Text.Decimal.isDigit c then skipNumber (c :: r)
    else fault .expectedValue (c :: r) 1

theorem length_of_skipWord {word cs r : List Char} (h : skipWord word cs = .ok r) :
    r.length ≤ cs.length := by
  induction word generalizing cs with
  | nil => simp only [skipWord, Except.ok.injEq] at h; simp [← h]
  | cons w ws ih =>
    cases cs with
    | nil => simp [skipWord, fault] at h
    | cons c t =>
      simp only [skipWord] at h
      split at h
      · have := ih h; rw [List.length_cons]; omega
      · simp [fault] at h

theorem length_of_skipScalar {cs r : List Char} (h : skipScalar cs = .ok r) :
    r.length < cs.length := by
  unfold skipScalar at h
  split at h
  · simp [fault] at h
  · rename_i c t
    split at h
    · have := length_of_skipWord h; rw [List.length_cons]; omega
    · split at h
      · have := length_of_skipWord h; rw [List.length_cons]; omega
      · split at h
        · have := length_of_skipWord h; rw [List.length_cons]; omega
        · split at h
          · have := length_of_skipText h; rw [List.length_cons]; omega
          · split at h
            · exact length_of_skipNumber h
            · simp [fault] at h

/-! ### Keys -/

/-- What follows the colon behind a key. -/
def skipColon (cs : List Char) : Except Fault (List Char) :=
  match skipSpace cs with
  | [] => fault (.endOf .object) [] 0
  | c :: r => if c = ':' then .ok r else fault .expectedColon (c :: r) 1

/-- What follows a key and its colon. -/
def skipKey (cs : List Char) : Except Fault (List Char) :=
  match skipSpace cs with
  | [] => fault (.endOf .object) [] 0
  | c :: r =>
    if c = '"' then
      match skipText r with
      | .error f => .error f
      | .ok r => skipColon r
    else fault .keyNotText (c :: r) 1

theorem length_of_skipColon {cs r : List Char} (h : skipColon cs = .ok r) :
    r.length < cs.length := by
  unfold skipColon at h
  split at h
  · simp [fault] at h
  · rename_i c t ht
    split at h
    · simp only [Except.ok.injEq] at h
      rw [← h]; exact length_lt_of_skipSpace ht
    · simp [fault] at h

theorem length_of_skipKey {cs r : List Char} (h : skipKey cs = .ok r) : r.length < cs.length := by
  unfold skipKey at h
  split at h
  · simp [fault] at h
  · rename_i c t ht
    have hs := length_lt_of_skipSpace ht
    split at h
    · split at h
      · simp at h
      · rename_i u hu
        have h1 := length_of_skipText hu
        have h2 := length_of_skipColon h
        omega
    · simp [fault] at h

/-! ### Nested values -/

/-- A list or object that is open. -/
inductive Frame
  | list
  | object
  deriving DecidableEq, Repr

/-- The place of a frame in a fault. -/
def Frame.place : Frame → Place
  | .list => .list
  | .object => .object

/-- The bracket that closes a frame. -/
def Frame.close : Frame → Char
  | .list => ']'
  | .object => '}'

/-- What is due in front of a text: a value, the first member of a frame that was just opened or its
end, or what may follow a value. -/
inductive Due
  | value
  | first (frame : Frame)
  | next
  deriving DecidableEq, Repr

/-- A rank that lets a frame go on with a value of the same text. -/
def Due.rank : Due → Nat
  | .first _ => 1
  | _ => 0

/-- What stands in front of a value inside a frame: a key in an object, nothing in a list. -/
def skipLead (frame : Frame) (cs : List Char) : Except Fault (List Char) :=
  match frame with
  | .list => .ok cs
  | .object => skipKey cs

theorem length_of_skipLead {frame : Frame} {cs r : List Char} (h : skipLead frame cs = .ok r) :
    r.length ≤ cs.length := by
  cases frame with
  | list => simp only [skipLead, Except.ok.injEq] at h; simp [h]
  | object => exact Nat.le_of_lt (length_of_skipKey h)

/-- What follows the value that is being passed over, where `due` comes next and the frames of
`stack` are open. -/
def skipFrom (due : Due) (stack : List Frame) (cs : List Char) : Except Fault (List Char) :=
  match due with
  | .value =>
    match hs : skipSpace cs with
    | [] => fault (.endOf .value) [] 0
    | c :: r =>
      have := length_lt_of_skipSpace hs
      if c = '[' then skipFrom (.first .list) stack r
      else if c = '{' then skipFrom (.first .object) stack r
      else
        match hr : skipScalar (c :: r) with
        | .error f => .error f
        | .ok rest =>
          have := length_of_skipScalar hr
          skipFrom .next stack rest
  | .first frame =>
    match hs : skipSpace cs with
    | [] => fault (.endOf frame.place) [] 0
    | c :: r =>
      have := length_lt_of_skipSpace hs
      if c = frame.close then skipFrom .next stack r
      else
        match hr : skipLead frame (c :: r) with
        | .error f => .error f
        | .ok rest =>
          have := length_of_skipLead hr
          skipFrom .value (frame :: stack) rest
  | .next =>
    match stack with
    | [] => .ok cs
    | frame :: stack =>
      match hs : skipSpace cs with
      | [] => fault (.endOf frame.place) [] 0
      | c :: r =>
        have := length_lt_of_skipSpace hs
        if c = ',' then
          match hr : skipLead frame r with
          | .error f => .error f
          | .ok rest =>
            have := length_of_skipLead hr
            skipFrom .value (frame :: stack) rest
        else if c = frame.close then skipFrom .next stack r
        else
          match frame with
          | .list => fault .expectedCommaOrBracket (c :: r) 1
          | .object => fault .expectedCommaOrBrace (c :: r) 1
termination_by (cs.length, due.rank)
decreasing_by
  all_goals simp only [List.length_cons, Due.rank, Prod.lex_def] at *
  all_goals omega

/-- What follows a value. -/
def skipValue (cs : List Char) : Except Fault (List Char) :=
  skipFrom .value [] cs

theorem length_of_skipFrom {due : Due} {stack : List Frame} {cs r : List Char}
    (h : skipFrom due stack cs = .ok r) : r.length ≤ cs.length := by
  fun_induction skipFrom due stack cs <;> grind [fault]

theorem length_of_skipValue {cs r : List Char} (h : skipValue cs = .ok r) :
    r.length ≤ cs.length :=
  length_of_skipFrom h

end DnsConsole.Json
