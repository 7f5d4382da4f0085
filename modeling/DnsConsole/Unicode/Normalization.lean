import DnsConsole.Unicode.CombiningClass
import DnsConsole.Unicode.Composition

/-!
# Normalization form C

Equivalent texts get one spelling: every character is decomposed as far as possible, marks are put
into the order of their combining classes, and neighbours are composed again where nothing of the same
or a higher class stands between them.  `composed` is the result; Hangul syllables are taken apart
and put together by arithmetic.
-/

namespace DnsConsole.Unicode

/-! ### Hangul -/

/-- The jamo that a Hangul syllable consists of. -/
def hangulJamo? (c : Char) : Option (List Char) :=
  let n := c.toNat
  if 0xAC00 ≤ n ∧ n < 0xAC00 + 11172 then
    let s := n - 0xAC00
    let lead := Char.ofNat (0x1100 + s / 588)
    let vowel := Char.ofNat (0x1161 + s % 588 / 28)
    if s % 28 = 0 then some [lead, vowel]
    else some [lead, vowel, Char.ofNat (0x11A7 + s % 28)]
  else none

/-- The Hangul syllable that a leading consonant and a vowel make, or a syllable without a final
consonant and a final one. -/
def hangulSyllable? (a b : Char) : Option Char :=
  let m := a.toNat
  let n := b.toNat
  if 0x1100 ≤ m ∧ m < 0x1113 ∧ 0x1161 ≤ n ∧ n < 0x1176 then
    some (Char.ofNat (0xAC00 + ((m - 0x1100) * 21 + (n - 0x1161)) * 28))
  else if 0xAC00 ≤ m ∧ m < 0xAC00 + 11172 ∧ (m - 0xAC00) % 28 = 0 ∧ 0x11A7 < n ∧ n < 0x11C3 then
    some (Char.ofNat (m + (n - 0x11A7)))
  else none

/-! ### Decomposition -/

/-- The full canonical decomposition of a character. -/
def decompose (c : Char) : List Char :=
  if c.toNat < 0xC0 then [c]
  else
    match hangulJamo? c with
    | some jamo => jamo
    | none => (decompositions.find? c.toNat).getD [c]

/-- A mark put behind the marks of its class and lower ones; `done` is the sequence so far, newest
first. -/
def insertMark (mark : Char × Nat) : List (Char × Nat) → List (Char × Nat)
  | [] => [mark]
  | last :: rest =>
    if mark.2 < last.2 then last :: insertMark mark rest else mark :: last :: rest

/-- The characters with their classes in canonical order. -/
def canonicalOrder (cs : List Char) : List (Char × Nat) :=
  (cs.foldl (fun done c => insertOrdered (c, combiningClass c) done) []).reverse
where
  /-- A starter goes behind everything, a mark behind what it does not precede. -/
  insertOrdered (item : Char × Nat) (done : List (Char × Nat)) : List (Char × Nat) :=
    if item.2 = 0 then item :: done else insertMark item done

/-! ### Composition -/

/-- The character that two neighbours compose to. -/
def composePair? (a b : Char) : Option Char :=
  match hangulSyllable? a b with
  | some c => some c
  | none => ((compositions.find? a.toNat).getD []).lookup b

/-- The state of composing: the characters before the last starter (newest first), the last starter,
and the marks behind it that did not compose (newest first). -/
structure Composing where
  done : List Char
  starter : Option Char
  marks : List (Char × Nat)

/-- Everything composed so far, newest first. -/
def Composing.flushed (s : Composing) : List Char :=
  s.marks.map Prod.fst ++ s.starter.toList ++ s.done

/-- Whether the marks behind the starter keep a character of class `n` away from it. -/
def Composing.blocks (s : Composing) (n : Nat) : Bool :=
  match s.marks with
  | [] => false
  | (_, last) :: _ => last == 0 || n ≤ last

/-- One more character: it composes with the starter, starts anew, or stays a mark. -/
def Composing.add (s : Composing) (item : Char × Nat) : Composing :=
  let composite :=
    match s.starter with
    | some starter => if s.blocks item.2 then none else composePair? starter item.1
    | none => none
  match composite with
  | some c => { s with starter := some c }
  | none =>
    if item.2 = 0 then ⟨s.flushed, some item.1, []⟩
    else { s with marks := item :: s.marks }

/-- The text in normalization form C. -/
def composed (cs : List Char) : List Char :=
  let ordered := canonicalOrder (cs.flatMap decompose)
  (ordered.foldl Composing.add ⟨[], none, []⟩).flushed.reverse

end DnsConsole.Unicode
