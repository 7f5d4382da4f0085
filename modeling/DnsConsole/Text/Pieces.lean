/-!
# Trimming, splitting and cutting

A form field, a configuration override and an environment value are all read without the blanks
around them.  Blank is the Unicode property White_Space: `isBlank` lists its twenty-five characters,
and neither the separators U+001C to U+001F nor the zero-width characters U+200B and U+FEFF are
among them.  `trim` drops blanks from both ends of a text and none from its inside.

The labels of a domain name, the segments of a path and the members of a header list are the pieces
of a text between separators.  `split` keeps empty pieces, so that the text is put together again by
`List.intercalate`; `cut` takes a text apart at its first separator only.
-/

namespace DnsConsole.Text

/-! ### Blanks -/

/-- The characters of the Unicode property White_Space. -/
def isBlank (c : Char) : Bool :=
  let n := c.toNat
  (9 ≤ n && n ≤ 13) || n == 0x20 || n == 0x85 || n == 0xA0 || n == 0x1680 ||
    (0x2000 ≤ n && n ≤ 0x200A) || n == 0x2028 || n == 0x2029 || n == 0x202F || n == 0x205F ||
    n == 0x3000

/-- A space or a tab, the blanks that some formats allow within a line. -/
def isSpaceOrTab (c : Char) : Bool :=
  c == ' ' || c == '\t'

/-- A text without the blanks at its end. -/
def trimEnd (cs : List Char) : List Char :=
  (cs.reverse.dropWhile isBlank).reverse

/-- A text without the blanks at its two ends. -/
def trimChars (cs : List Char) : List Char :=
  trimEnd (cs.dropWhile isBlank)

/-- A text without the blanks at its two ends. -/
def trim (s : String) : String :=
  String.ofList (trimChars s.toList)

@[simp] theorem toList_trim (s : String) : (trim s).toList = trimChars s.toList := by
  simp [trim]

@[simp] theorem trimEnd_nil : trimEnd [] = [] := rfl

@[simp] theorem trimChars_nil : trimChars [] = [] := rfl

/-! ### Pieces -/

/-- The pieces of a text between the separators, empty ones included. -/
abbrev split (sep : Char) (cs : List Char) : List (List Char) :=
  cs.splitOn sep

/-- The text before the first separator, and the text behind it if there is one. -/
def cut (sep : Char) : List Char → List Char × Option (List Char)
  | [] => ([], none)
  | c :: r =>
    if c = sep then ([], some r)
    else
      let (before, behind) := cut sep r
      (c :: before, behind)

end DnsConsole.Text
