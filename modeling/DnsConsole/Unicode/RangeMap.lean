/-!
# Maps on ranges of code points

A character property is given as text: words, each a range of hexadecimal code points (`41-5a`, or
`ad` for a single one) and behind it the property's value, in ascending order.  `RangeMap.ofText`
reads such a text with a reader for the values, `RangeMap.ofLines` reads one that is given line by line,
and `RangeMap.find?` looks a code point up by halving the rows that can still hold it.
-/

namespace DnsConsole.Unicode

/-- One range of code points and its value. -/
structure RangeRow (α : Type) where
  first : Nat
  last : Nat
  value : α

/-- Ranges of code points in ascending order, each with a value. -/
structure RangeMap (α : Type) where
  rows : Array (RangeRow α)

/-- A set of code points. -/
abbrev CodePointSet := RangeMap Unit

namespace RangeMap

variable {α : Type}

/-- The row among those from `lo` up to `hi` that holds `n`. -/
def search (rows : Array (RangeRow α)) (n lo hi : Nat) : Option (RangeRow α) :=
  if _h : lo < hi then
    match rows[(lo + hi) / 2]? with
    | none => none
    | some row =>
      if n < row.first then search rows n lo ((lo + hi) / 2)
      else if row.last < n then search rows n ((lo + hi) / 2 + 1) hi
      else some row
  else none
termination_by hi - lo

/-- The row that holds a code point. -/
def findRow? (m : RangeMap α) (n : Nat) : Option (RangeRow α) :=
  search m.rows n 0 m.rows.size

/-- The value of the range that holds a code point. -/
def find? (m : RangeMap α) (n : Nat) : Option α :=
  (m.findRow? n).map RangeRow.value

/-- Whether some range holds a code point. -/
def contains (m : RangeMap α) (n : Nat) : Bool :=
  (m.find? n).isSome

/-- The value of a lower-case hexadecimal digit. -/
def digit? (c : Char) : Option Nat :=
  if '0' ≤ c ∧ c ≤ '9' then some (c.toNat - 48)
  else if 'a' ≤ c ∧ c ≤ 'f' then some (c.toNat - 87)
  else none

/-- The hexadecimal number at the front of a word, read on from `n`, and the rest of the word. -/
def readHex (n : Nat) : List Char → Nat × List Char
  | [] => (n, [])
  | c :: r =>
    match digit? c with
    | some d => readHex (n * 16 + d) r
    | none => (n, c :: r)

/-- One row from its word. -/
def readRow (value : List Char → α) (word : List Char) : RangeRow α :=
  match readHex 0 word with
  | (first, '-' :: r) =>
    let (last, r) := readHex 0 r
    ⟨first, last, value r⟩
  | (first, r) => ⟨first, first, value r⟩

/-- The words of a text. -/
def words (text : List Char) : List (List Char) :=
  let (word, done) := text.foldl
    (fun (word, done) c =>
      if c = ' ' ∨ c = '\n' then
        (if word.isEmpty then ([], done) else ([], word.reverse :: done))
      else (c :: word, done))
    (([], []) : List Char × List (List Char))
  (if word.isEmpty then done else word.reverse :: done).reverse

/-- The map that lines of ranges describe. -/
def ofLines (value : List Char → α) (lines : List String) : RangeMap α :=
  ⟨((lines.flatMap fun line => words line.toList).map (readRow value)).toArray⟩

/-- The map that a text of ranges describes. -/
def ofText (value : List Char → α) (text : String) : RangeMap α :=
  ofLines value [text]

end RangeMap

/-- The set that a text of ranges describes. -/
def CodePointSet.ofText (text : String) : CodePointSet :=
  RangeMap.ofText (fun _ => ()) text

end DnsConsole.Unicode
