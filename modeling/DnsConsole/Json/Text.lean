import DnsConsole.Json.Fault

/-!
# JSON strings

A string is read in one of two ways: `readText` gives the characters it stands for, with surrogate
escapes put together in pairs, and `skipText` only finds its end, for members that nobody asked for.
Both start behind the opening quote.  `encodeText` writes a string.
-/

namespace DnsConsole.Json

/-- The white space between the tokens of a body. -/
def isSpace (c : Char) : Bool :=
  c == ' ' || c == '\t' || c == '\n' || c == '\r'

/-- A text without the white space in front. -/
def skipSpace (cs : List Char) : List Char :=
  cs.dropWhile isSpace

theorem length_dropWhile_le (p : Char → Bool) (cs : List Char) :
    (cs.dropWhile p).length ≤ cs.length :=
  (List.dropWhile_suffix p).length_le

theorem length_skipSpace_le (cs : List Char) : (skipSpace cs).length ≤ cs.length :=
  length_dropWhile_le isSpace cs

theorem length_lt_of_skipSpace {cs r : List Char} {c : Char} (h : skipSpace cs = c :: r) :
    r.length < cs.length := by
  have hs := length_skipSpace_le cs
  rw [h, List.length_cons] at hs
  omega

/-! ### Escapes -/

/-- The character that a backslash and a letter stand for. -/
def shortEscape? (c : Char) : Option Char :=
  match c with
  | '"' => some '"'
  | '\\' => some '\\'
  | '/' => some '/'
  | 'b' => some '\x08'
  | 'f' => some '\x0c'
  | 'n' => some '\n'
  | 'r' => some '\r'
  | 't' => some '\t'
  | _ => none

/-- The fault of four bytes that are not four hexadecimal digits. -/
def badHex {α : Type} (cs : List Char) : Except Fault α :=
  if Text.Utf8.size cs < 4 then fault (.endOf .string) [] 0 else fault .invalidEscape cs 4

/-- The number that four hexadecimal digits spell. -/
def readHex : List Char → Reading Nat
  | a :: b :: c :: d :: r =>
    match Text.Hex.read? 0 [a, b, c, d] with
    | some n => .ok (n, r)
    | none => badHex (a :: b :: c :: d :: r)
  | cs => badHex cs

theorem length_of_readHex {cs r : List Char} {n : Nat} (h : readHex cs = .ok (n, r)) :
    r.length < cs.length := by
  unfold readHex at h
  split at h
  · split at h
    · simp only [Except.ok.injEq, Prod.mk.injEq] at h
      simp only [← h.2, List.length_cons]; omega
    · simp only [badHex, fault] at h; split at h <;> simp at h
  · simp only [badHex, fault] at h; split at h <;> simp at h

/-- A surrogate that comes second in a pair. -/
def isLowSurrogate (n : Nat) : Bool :=
  0xDC00 ≤ n && n ≤ 0xDFFF

/-- A surrogate that comes first in a pair. -/
def isHighSurrogate (n : Nat) : Bool :=
  0xD800 ≤ n && n ≤ 0xDBFF

/-- The code point of a pair of surrogates. -/
def surrogatePair (high low : Nat) : Nat :=
  (high - 0xD800) * 0x400 + (low - 0xDC00) + 0x10000

/-- The character of the second half of a pair whose first half is `high`. -/
def readLowSurrogate (high : Nat) : List Char → Reading Char
  | [] => fault (.endOf .string) [] 0
  | ['\\'] => fault (.endOf .string) [] 0
  | '\\' :: 'u' :: r =>
    match readHex r with
    | .error f => .error f
    | .ok (low, r) =>
      if isLowSurrogate low then .ok (Char.ofNat (surrogatePair high low), r)
      else fault .loneSurrogate r 0
  | '\\' :: r => fault .unfinishedPair r 1
  | r => fault .unfinishedPair r 1

/-- The character of a Unicode escape, behind the letter `u`. -/
def readUnicode (cs : List Char) : Reading Char :=
  match readHex cs with
  | .error f => .error f
  | .ok (n, r) =>
    if isLowSurrogate n then fault .loneSurrogate r 0
    else if isHighSurrogate n then readLowSurrogate n r
    else .ok (Char.ofNat n, r)

/-- The character of an escape, behind the backslash. -/
def readEscape : List Char → Reading Char
  | [] => fault (.endOf .string) [] 0
  | 'u' :: r => readUnicode r
  | c :: r =>
    match shortEscape? c with
    | some d => .ok (d, r)
    | none => fault .invalidEscape (c :: r) 1

theorem length_of_readLowSurrogate {high : Nat} {cs r : List Char} {c : Char}
    (h : readLowSurrogate high cs = .ok (c, r)) : r.length < cs.length := by
  unfold readLowSurrogate at h
  split at h
  · simp [fault] at h
  · simp [fault] at h
  · split at h
    · simp at h
    · rename_i low r' hr
      split at h
      · simp only [Except.ok.injEq, Prod.mk.injEq] at h
        have := length_of_readHex hr
        simp only [← h.2, List.length_cons]; omega
      · simp [fault] at h
  · simp [fault] at h
  · simp [fault] at h

theorem length_of_readUnicode {cs r : List Char} {c : Char} (h : readUnicode cs = .ok (c, r)) :
    r.length < cs.length := by
  unfold readUnicode at h
  split at h
  · simp at h
  · rename_i n r' hr
    have := length_of_readHex hr
    split at h
    · simp [fault] at h
    · split at h
      · have := length_of_readLowSurrogate h; omega
      · simp only [Except.ok.injEq, Prod.mk.injEq] at h
        simpa only [← h.2] using this

theorem length_of_readEscape {cs r : List Char} {c : Char} (h : readEscape cs = .ok (c, r)) :
    r.length < cs.length := by
  unfold readEscape at h
  split at h
  · simp [fault] at h
  · have := length_of_readUnicode h; simp only [List.length_cons]; omega
  · split at h
    · simp only [Except.ok.injEq, Prod.mk.injEq] at h
      simp [← h.2]
    · simp [fault] at h

/-! ### Strings that are kept -/

/-- The text of a string and what follows its closing quote. -/
def readText (cs : List Char) : Reading (List Char) :=
  match cs with
  | [] => fault (.endOf .string) [] 0
  | c :: r =>
    if c = '"' then .ok ([], r)
    else if c = '\\' then
      match h : readEscape r with
      | .error f => .error f
      | .ok (d, r') =>
        have := length_of_readEscape h
        match readText r' with
        | .error f => .error f
        | .ok (text, rest) => .ok (d :: text, rest)
    else if c.toNat < 0x20 then fault .controlCharacter (c :: r) 1
    else
      match readText r with
      | .error f => .error f
      | .ok (text, rest) => .ok (c :: text, rest)
termination_by cs.length
decreasing_by
  · simp only [List.length_cons]; omega
  · simp only [List.length_cons]; omega

/-! ### Strings that are passed over -/

/-- What follows an escape, behind the backslash. -/
def skipEscape : List Char → Except Fault (List Char)
  | [] => fault (.endOf .string) [] 0
  | 'u' :: r =>
    match readHex r with
    | .error f => .error f
    | .ok (_, r) => .ok r
  | c :: r =>
    match shortEscape? c with
    | some _ => .ok r
    | none => fault .invalidEscape (c :: r) 1

theorem length_of_skipEscape {cs r : List Char} (h : skipEscape cs = .ok r) :
    r.length < cs.length := by
  unfold skipEscape at h
  split at h
  · simp [fault] at h
  · split at h
    · simp at h
    · rename_i hr
      have := length_of_readHex hr
      simp only [Except.ok.injEq] at h
      simp only [← h, List.length_cons]; omega
  · split at h
    · simp only [Except.ok.injEq] at h; simp [← h]
    · simp [fault] at h

/-- What follows the closing quote of a string. -/
def skipText (cs : List Char) : Except Fault (List Char) :=
  match cs with
  | [] => fault (.endOf .string) [] 0
  | c :: r =>
    if c = '"' then .ok r
    else if c = '\\' then
      match h : skipEscape r with
      | .error f => .error f
      | .ok r' =>
        have := length_of_skipEscape h
        skipText r'
    else if c.toNat < 0x20 then fault .controlCharacter (c :: r) 0
    else skipText r
termination_by cs.length
decreasing_by
  · simp only [List.length_cons]; omega
  · simp only [List.length_cons]; omega

theorem length_of_skipText {cs r : List Char} (h : skipText cs = .ok r) : r.length < cs.length := by
  fun_induction skipText cs with
  | case1 => simp [fault] at h
  | case2 t => simp only [Except.ok.injEq] at h; simp [← h]
  | case3 => simp at h
  | case4 t _ t' ht hlt ih => have := ih h; simp only [List.length_cons]; omega
  | case5 => simp [fault] at h
  | case6 c t _ _ _ ih => have := ih h; simp only [List.length_cons]; omega

theorem length_of_readText {cs r text : List Char} (h : readText cs = .ok (text, r)) :
    r.length < cs.length := by
  fun_induction readText cs generalizing text r with
  | case1 => simp [fault] at h
  | case2 t => simp only [Except.ok.injEq, Prod.mk.injEq] at h; simp [← h.2]
  | case3 => simp at h
  | case4 => simp at h
  | case5 t _ d t' hlt text' rest hr _ ih =>
    simp only [Except.ok.injEq, Prod.mk.injEq] at h
    have := ih hr
    simp only [← h.2, List.length_cons]; omega
  | case6 => simp [fault] at h
  | case7 => simp at h
  | case8 c t _ _ _ text' rest hr ih =>
    simp only [Except.ok.injEq, Prod.mk.injEq] at h
    have := ih hr
    simp only [← h.2, List.length_cons]; omega

/-! ### Writing -/

/-- How a string shows one character. -/
def encodeChar (c : Char) : List Char :=
  match c with
  | '"' => ['\\', '"']
  | '\\' => ['\\', '\\']
  | '\x08' => ['\\', 'b']
  | '\x0c' => ['\\', 'f']
  | '\n' => ['\\', 'n']
  | '\r' => ['\\', 'r']
  | '\t' => ['\\', 't']
  | c =>
    if c.toNat < 0x20 then ['\\', 'u', '0', '0'] ++ Text.Hex.pair c.toNat.toUInt8 else [c]

/-- A text as a string, with its quotes. -/
def encodeText (cs : List Char) : List Char :=
  '"' :: cs.flatMap encodeChar ++ ['"']

end DnsConsole.Json
