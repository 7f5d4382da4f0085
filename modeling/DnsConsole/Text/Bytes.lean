import DnsConsole.Text.Numerals

/-!
# Texts as bytes

Texts are characters; bodies, file contents and environment values are bytes.  `Utf8.encode` writes
a text as bytes, and `Utf8.decode?` reads bytes that are well formed: no overlong form, no surrogate,
nothing above U+10FFFF, no sequence cut short.  `Utf8.size` is the number of bytes of a text.

In a text with percent escapes a `%` with two hexadecimal digits behind it stands for one byte; any other
`%` stands for itself, as does every other character.  What comes out of `Percent.decode` is bytes, since
nothing makes them spell a text.
-/

namespace DnsConsole.Text.Utf8

/-- The bytes of a text. -/
def encode (cs : List Char) : List UInt8 :=
  cs.flatMap String.utf8EncodeChar

/-- The number of bytes of a text. -/
def size : List Char → Nat
  | [] => 0
  | c :: cs => c.utf8Size + size cs

/-- How many continuation bytes follow a lead byte; `none` for a byte that leads nothing. -/
def tailLength? (lead : UInt8) : Option Nat :=
  if lead < 0x80 then some 0
  else if lead < 0xC2 then none
  else if lead < 0xE0 then some 1
  else if lead < 0xF0 then some 2
  else if lead < 0xF5 then some 3
  else none

/-- A byte that continues a sequence: `10xxxxxx`. -/
def isContinuation (b : UInt8) : Bool :=
  0x80 ≤ b && b < 0xC0

/-- The payload bits of a lead byte that has `k` continuation bytes. -/
def leadPayload (lead : UInt8) : Nat → Nat
  | 0 => lead.toNat
  | 1 => lead.toNat % 32
  | 2 => lead.toNat % 16
  | _ => lead.toNat % 8

/-- The least code point that needs `k` continuation bytes. -/
def least : Nat → Nat
  | 0 => 0
  | 1 => 0x80
  | 2 => 0x800
  | _ => 0x10000

/-- The character that a lead byte and its continuation bytes spell. -/
def scalar? (lead : UInt8) (tail : List UInt8) : Option Char :=
  let n := tail.foldl (fun n b => n * 64 + b.toNat % 64) (leadPayload lead tail.length)
  if tail.all isContinuation && decide (least tail.length ≤ n) && decide n.isValidChar then
    some (Char.ofNat n)
  else none

/-- The first character that the bytes spell, and the bytes behind it. -/
def next? : List UInt8 → Option (Char × List UInt8)
  | [] => none
  | lead :: r =>
    match tailLength? lead with
    | none => none
    | some k =>
      let tail := r.take k
      if tail.length < k then none else (scalar? lead tail).map fun c => (c, r.drop k)

theorem length_of_next? {bs r : List UInt8} {c : Char} (h : next? bs = some (c, r)) :
    r.length < bs.length := by
  cases bs with
  | nil => simp [next?] at h
  | cons lead t =>
    simp only [next?] at h
    split at h
    · simp at h
    · split at h
      · simp at h
      · simp only [Option.map_eq_some_iff, Prod.mk.injEq] at h
        obtain ⟨d, -, -, rfl⟩ := h
        simp only [List.length_drop, List.length_cons]
        omega

/-- The text that well-formed bytes spell; `none` for any other bytes. -/
def decode? (bs : List UInt8) : Option (List Char) :=
  match bs with
  | [] => some []
  | b :: t =>
    match h : next? (b :: t) with
    | none => none
    | some (c, r) =>
      have := length_of_next? h
      (decode? r).map (c :: ·)
termination_by bs.length
decreasing_by exact this

/-- The text that well-formed bytes spell. -/
def decodeString? (bs : List UInt8) : Option String :=
  (decode? bs).map String.ofList

@[simp] theorem decode?_nil : decode? [] = some [] := by
  rw [decode?]

@[simp] theorem size_nil : size [] = 0 := rfl

@[simp] theorem size_cons (c : Char) (cs : List Char) : size (c :: cs) = c.utf8Size + size cs := rfl

theorem size_append (a b : List Char) : size (a ++ b) = size a + size b := by
  induction a with
  | nil => simp
  | cons c r ih => simp [ih, Nat.add_assoc]

end DnsConsole.Text.Utf8

namespace DnsConsole.Text.Percent

/-- The byte of a percent escape with the digits `a` and `b`. -/
def byte? (a b : Char) : Option UInt8 :=
  (Hex.read? 0 [a, b]).map UInt8.ofNat

/-- The bytes that a text with percent escapes stands for. -/
def decode : List Char → List UInt8
  | [] => []
  | '%' :: a :: b :: r =>
    match byte? a b with
    | some x => x :: decode r
    | none => 0x25 :: decode (a :: b :: r)
  | c :: r => String.utf8EncodeChar c ++ decode r

/-- The text that a text with percent escapes stands for, if its bytes spell one. -/
def decodeText? (cs : List Char) : Option (List Char) :=
  Utf8.decode? (decode cs)

end DnsConsole.Text.Percent
