import DnsConsole.Json.Skip

/-!
# Records with one field

A reply carries a record of one field.  It is written as an object in which the field's key occurs
exactly once, among members that are passed over, or as a list of just the field's value.
`Schema.decode` reads a body by the description of such a record; keys are compared after their
escapes have been undone.
-/

namespace DnsConsole.Json

/-- The fault of a value that is not the expected one; `cs` starts with the value. -/
def mismatch (expected : String) (cs : List Char) : Fault :=
  let afterWord (word r : List Char) (found : Found) : Fault :=
    match skipWord word r with
    | .error f => f
    | .ok rest => .before (.wrongType found expected) rest 0
  match cs with
  | [] => .before (.endOf .value) [] 0
  | c :: r =>
    if c = 'n' then afterWord ['u', 'l', 'l'] r .null
    else if c = 't' then afterWord ['r', 'u', 'e'] r (.bool true)
    else if c = 'f' then afterWord ['a', 'l', 's', 'e'] r (.bool false)
    else if c = '"' then
      match readText r with
      | .error f => f
      | .ok (text, rest) => .before (.wrongType (.text text) expected) rest 0
    else if c = '-' ∨ Text.Decimal.isDigit c then
      match readNumber (c :: r) with
      | .error f => f
      | .ok (.integer n, rest) => .before (.wrongType (.integer n) expected) rest 0
      | .ok (.float negative x, rest) => .before (.wrongType (.float negative x) expected) rest 0
    else if c = '[' then .before (.wrongType .list expected) (c :: r) 0
    else if c = '{' then .before (.wrongType .object expected) (c :: r) 0
    else .before .expectedValue (c :: r) 1

/-! ### Field values -/

/-- A field that holds a text. -/
def readTextField (cs : List Char) : Reading (List Char) :=
  match skipSpace cs with
  | [] => fault (.endOf .value) [] 0
  | c :: r => if c = '"' then readText r else .error (mismatch "a string" (c :: r))

/-- A field that holds a port number. -/
def readPortField (cs : List Char) : Reading UInt16 :=
  match skipSpace cs with
  | [] => fault (.endOf .value) [] 0
  | c :: r =>
    if c = '-' ∨ Text.Decimal.isDigit c then
      match readNumber (c :: r) with
      | .error f => .error f
      | .ok (.integer n, rest) =>
        if 0 ≤ n ∧ n < 65536 then .ok (UInt16.ofNat n.toNat, rest)
        else fault (.wrongInteger n "u16") rest 0
      | .ok (.float negative x, rest) => fault (.wrongType (.float negative x) "u16") rest 0
    else .error (mismatch "u16" (c :: r))

theorem length_of_readTextField {cs r text : List Char} (h : readTextField cs = .ok (text, r)) :
    r.length ≤ cs.length := by
  unfold readTextField at h
  split at h
  · simp [fault] at h
  · rename_i c t ht
    have hs := length_lt_of_skipSpace ht
    split at h
    · have := length_of_readText h; omega
    · simp at h

theorem length_of_readPortField {cs r : List Char} {port : UInt16}
    (h : readPortField cs = .ok (port, r)) : r.length ≤ cs.length := by
  have hs := length_skipSpace_le cs
  unfold readPortField at h
  split at h
  · simp [fault] at h
  · rename_i c t ht
    rw [ht] at hs
    split at h
    · split at h
      · simp at h
      · rename_i n rest hn
        have := length_of_readNumber hn
        split at h
        · simp only [Except.ok.injEq, Prod.mk.injEq] at h
          rw [← h.2]; omega
        · simp [fault] at h
      · simp [fault] at h
    · simp at h

/-! ### Records -/

/-- A record of one field: what it is called where another value stands in its place, the key of the
field, and the reader of its value. -/
structure Schema (α : Type) where
  title : String
  key : String
  read : List Char → Reading α
  read_le : ∀ {cs r : List Char} {v : α}, read cs = .ok (v, r) → r.length ≤ cs.length

namespace Schema

variable {α : Type}

/-- Where an object goes on when a member of it cannot be used: behind its end, if that comes
next. -/
def behindEnd (cs : List Char) : List Char :=
  match skipSpace cs with
  | [] => []
  | c :: r => if c = '}' then r else c :: r

/-- The members of an object, where `found` is the field's value if it has been seen and `start` says
that no member has been read. -/
def readMembers (s : Schema α) (found : Option α) (start : Bool) (cs : List Char) : Reading α :=
  match hs : skipSpace cs with
  | [] => fault (.endOf .object) [] 0
  | c :: r =>
    have hr := length_lt_of_skipSpace hs
    if c = '}' then
      match found with
      | some v => .ok (v, r)
      | none => fault (.missingField s.key) r 0
    else if !start ∧ c ≠ ',' then fault .expectedCommaOrBrace (c :: r) 1
    else
      match hm : if start then c :: r else skipSpace r with
      | [] => fault (.endOf .value) [] 0
      | d :: t =>
        have ht : t.length < cs.length := by
          have := length_skipSpace_le r
          cases start
          · simp_all; omega
          · simp_all
        if d = '"' then
          match hk : readText t with
          | .error f => .error f
          | .ok (key, rest) =>
            have := length_of_readText hk
            if key = s.key.toList then
              match found with
              | some _ => fault (.duplicateField s.key) (behindEnd rest) 0
              | none =>
                match hc : skipColon rest with
                | .error f => .error f
                | .ok rest =>
                  have := length_of_skipColon hc
                  match hv : s.read rest with
                  | .error f => .error f
                  | .ok (v, rest) =>
                    have := s.read_le hv
                    readMembers s (some v) false rest
            else
              match hc : skipColon rest with
              | .error f => .error f
              | .ok rest =>
                have := length_of_skipColon hc
                match hv : skipValue rest with
                | .error f => .error f
                | .ok rest =>
                  have := length_of_skipValue hv
                  readMembers s found false rest
        else if d = '}' then fault .trailingComma (d :: t) 1
        else fault .keyNotText (d :: t) 1
termination_by cs.length
decreasing_by all_goals omega

/-- What follows the end of a list of which the only element has been read. -/
def skipListEnd (cs : List Char) : Except Fault (List Char) :=
  match skipSpace cs with
  | [] => fault (.endOf .list) [] 0
  | c :: r =>
    if c = ']' then .ok r
    else if c = ',' then
      let rest := skipSpace r
      fault (if rest.head? = some ']' then .trailingComma else .trailingCharacters) rest 1
    else fault .trailingCharacters (c :: r) 1

/-- The only element of a list. -/
def readElement (s : Schema α) (cs : List Char) : Reading α :=
  match skipSpace cs with
  | [] => fault (.endOf .list) [] 0
  | c :: r =>
    if c = ']' then fault (.emptyList s.title) r 0
    else
      match s.read (c :: r) with
      | .error f => .error f
      | .ok (v, rest) =>
        match skipListEnd rest with
        | .error f => .error f
        | .ok rest => .ok (v, rest)

/-- A record at the front of a text. -/
def readRecord (s : Schema α) (cs : List Char) : Reading α :=
  match skipSpace cs with
  | [] => fault (.endOf .value) [] 0
  | c :: r =>
    if c = '{' then s.readMembers none true r
    else if c = '[' then s.readElement r
    else .error (mismatch s.title (c :: r))

/-- The field of the record that a body consists of. -/
def decodeChars (s : Schema α) (body : List Char) : Except Fault α :=
  match s.readRecord body with
  | .error f => .error f
  | .ok (v, rest) =>
    match skipSpace rest with
    | [] => .ok v
    | c :: r => fault .trailingCharacters (c :: r) 1

/-- The field of the record that a body consists of. -/
def decode (s : Schema α) (body : String) : Except DecodeError α :=
  (s.decodeChars body.toList).mapError (DecodeError.ofFault body.toList)

end Schema

end DnsConsole.Json
