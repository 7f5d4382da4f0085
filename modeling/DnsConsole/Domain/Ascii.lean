import DnsConsole.Domain.Punycode
import DnsConsole.Text.Bytes
import DnsConsole.Text.Pieces
import DnsConsole.Unicode.BidiClass
import DnsConsole.Unicode.CombiningClass
import DnsConsole.Unicode.JoiningType
import DnsConsole.Unicode.NameMapping
import DnsConsole.Unicode.Normalization

/-!
# Domain names in ASCII

`toAscii?` brings a domain name into the one spelling in which names are compared and put on the
wire: characters are mapped (upper case to lower case, wide forms to plain ones, what is ignorable
dropped), the text is composed, and each label is checked and written in ASCII.  A name with
right-to-left letters has to satisfy the rule on directions in every label.  Empty labels are kept, and
there is no limit on lengths.  The outcome is `none` for a name that cannot be written.

A label has two spellings: the one with all its characters (`Label.full`) and the one in ASCII
(`Label.ascii`), which is the same for a label of ASCII characters and is marked `xn--` for any
other.  `Label.ofMapped?` takes a label that is already mapped and composed, in either spelling, and
checks what every label has to satisfy: no combining mark in front, no character that a host refuses,
joiners only where they do something, and, for a label that came marked, a spelling that mapping and
composing would leave as it is.
-/

namespace DnsConsole.Domain

/-- A label of a domain name in its two spellings. -/
structure Label where
  full : List Char
  ascii : List Char
  deriving DecidableEq

/-! ### Characters -/

/-- Whether a character is an ASCII character. -/
def isAscii (c : Char) : Bool :=
  c.toNat < 128

/-- An ASCII letter in lower case; any other character as it is. -/
def lower (c : Char) : Char :=
  if 'A' ≤ c ∧ c ≤ 'Z' then Char.ofNat (c.toNat + 32) else c

/-- The ASCII characters that no host may hold: controls, the space, and those with a meaning in a
URL. -/
def isRefused (c : Char) : Bool :=
  c.toNat ≤ 0x20 || c.toNat == 0x7F ||
    ['%', '#', '/', ':', '<', '>', '?', '@', '[', '\\', ']', '^', '|'].contains c

/-- Whether mapping leaves a character as it is. -/
def isStable (c : Char) : Bool :=
  if isAscii c then lower c == c else Unicode.mapForName? c == some [c]

/-! ### Joiners -/

/-- Whether the first letter, transparent ones aside, joins as `joins` says. -/
def joinsNext (joins : Unicode.JoiningType → Bool) : List Char → Bool
  | [] => false
  | c :: r =>
    let type := Unicode.joiningType c
    if joins type then true
    else if type == .transparent then joinsNext joins r
    else false

/-- Whether the joiners of a label are all in place: behind a virama, or, for a non-joiner, between
two letters that would join.  `before` holds the characters in front of `cs`, the nearest first. -/
def joinersFit (before : List Char) : List Char → Bool
  | [] => true
  | c :: r =>
    let afterVirama :=
      match before with
      | p :: _ => Unicode.combiningClass p == 9
      | [] => false
    let fits :=
      if c == '\u200D' then afterVirama
      else if c == '\u200C' then
        afterVirama ||
          (joinsNext (fun t => t == .left || t == .dual) before &&
            joinsNext (fun t => t == .right || t == .dual) r)
      else true
    fits && joinersFit (c :: before) r

/-! ### Validity -/

/-- Whether a label starts with a combining mark. -/
def startsWithMark : List Char → Bool
  | [] => false
  | c :: _ => !isAscii c && Unicode.marks.contains c.toNat

/-- What the full spelling of every label has to satisfy. -/
def isValidFull (cs : List Char) : Bool :=
  !cs.any isRefused && !startsWithMark cs && (cs.all isAscii || joinersFit [] cs)

/-- The mark of a label that is written in ASCII. -/
def asciiMark : List Char :=
  ['x', 'n', '-', '-']

/-- The label that a marked text stands for; `digits` is the text without the mark. -/
def Label.ofMarked? (digits : List Char) : Option Label := do
  if digits.getLast? = some '-' ∨ digits.isEmpty ∨ 2000 < digits.length then none
  let full ← Punycode.decode? digits
  if full.all isStable && Unicode.composed full == full && !full.contains '.' &&
      isValidFull full && full.length ≤ 1000 then
    some ⟨full, asciiMark ++ digits⟩
  else none

/-- The label that a mapped and composed text stands for. -/
def Label.ofMapped? (cs : List Char) : Option Label :=
  if asciiMark.isPrefixOf cs then
    if cs.all isAscii then Label.ofMarked? (cs.drop 4) else none
  else if !isValidFull cs then none
  else if cs.all isAscii then some ⟨cs, cs⟩
  else if 1000 < cs.length then none
  else some ⟨cs, asciiMark ++ Punycode.encode cs⟩

/-! ### Direction -/

/-- Whether a character makes its domain name one with two directions of writing. -/
def turnsDirection (c : Char) : Bool :=
  !isAscii c &&
    (match Unicode.bidiClass c with
      | .rightToLeft | .arabicLetter | .arabicNumber => true
      | _ => false)

/-- The bidirectional class of a character; ASCII characters are classed without the table. -/
def directionOf (c : Char) : Unicode.BidiClass :=
  if '0' ≤ c ∧ c ≤ '9' then .europeanNumber
  else if 'a' ≤ c ∧ c ≤ 'z' then .leftToRight
  else Unicode.bidiClass c

/-- Classes allowed anywhere in a left-to-right label. -/
def fitsLeftToRight : Unicode.BidiClass → Bool
  | .leftToRight | .europeanNumber | .europeanSeparator | .commonSeparator | .europeanTerminator
  | .otherNeutral | .boundaryNeutral | .nonspacingMark => true
  | _ => false

/-- Classes allowed anywhere in a right-to-left label. -/
def fitsRightToLeft : Unicode.BidiClass → Bool
  | .rightToLeft | .arabicLetter | .arabicNumber | .europeanNumber | .europeanSeparator
  | .commonSeparator | .europeanTerminator | .otherNeutral | .boundaryNeutral | .nonspacingMark =>
    true
  | _ => false

/-- Whether a label can stand in a domain name with two directions: it starts with a letter, holds
only classes of that letter's direction and, trailing marks aside, ends with a letter or number of
it; the numbers of a right-to-left label are of one kind. -/
def keepsDirection (cs : List Char) : Bool :=
  match cs.map directionOf with
  | [] => true
  | first :: rest =>
    let last := ((rest.reverse.dropWhile (· == .nonspacingMark)).head?).getD first
    match first with
    | .leftToRight =>
      rest.all fitsLeftToRight && (last == .leftToRight || last == .europeanNumber)
    | .rightToLeft | .arabicLetter =>
      rest.all fitsRightToLeft &&
        (last == .rightToLeft || last == .arabicLetter || last == .europeanNumber ||
          last == .arabicNumber) &&
        !(rest.contains .europeanNumber && rest.contains .arabicNumber)
    | _ => false

/-! ### Names -/

/-- The characters of a domain name, mapped and composed. -/
def fold? (cs : List Char) : Option (List Char) :=
  if cs.all isAscii then some (cs.map lower)
  else
    (cs.mapM fun c => if isAscii c then some [lower c] else Unicode.mapForName? c).map fun parts =>
      Unicode.composed parts.flatten

/-- Whether the labels can stand together in one name. -/
def directionsFit (labels : List Label) : Bool :=
  !(labels.any fun l => l.full.any turnsDirection) || labels.all fun l => keepsDirection l.full

/-- The labels of a domain name. -/
def labels? (cs : List Char) : Option (List Label) := do
  let folded ← fold? cs
  let labels ← (Text.split '.' folded).mapM Label.ofMapped?
  if directionsFit labels then some labels else none

/-- A domain name in ASCII. -/
def toAscii? (cs : List Char) : Option (List Char) :=
  (labels? cs).map fun labels => ['.'].intercalate (labels.map Label.ascii)

end DnsConsole.Domain
