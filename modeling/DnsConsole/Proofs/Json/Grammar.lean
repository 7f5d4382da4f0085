import DnsConsole.Json.Skip
import DnsConsole.Text.Pieces
import Mathlib.Data.Nat.Notation

/-!
# The grammar of bodies

What a body may look like, said without a reader: white space, strings and the texts that they stand for,
numbers, and values nested to any depth.  The names are those of RFC 8259, which says `quoted` of nothing
but what stands between the quotes.

Two notions of a string are needed.  `Spells` is a string that stands for a text, so that surrogates come in
pairs; `Passable` is a string of which only the form is asked, so that four hexadecimal digits are enough.
A value that nobody asked for is made of the second (`Derives`), and the keys of a record and a text in it
are of the first (`IsRecord`).
-/

namespace DnsConsole.Json

/-! ### White space -/

/-- White space: spaces, tabs, line feeds and carriage returns, any number of them. -/
def IsBlank (w : List Char) : Prop :=
  ∀ c ∈ w, c = ' ' ∨ c = '\t' ∨ c = '\n' ∨ c = '\r'

theorem isBlank_nil : IsBlank [] := by
  simp [IsBlank]

theorem IsBlank.append {a b : List Char} (ha : IsBlank a) (hb : IsBlank b) : IsBlank (a ++ b) := by
  intro c hc
  rcases List.mem_append.mp hc with hc | hc
  · exact ha c hc
  · exact hb c hc

/-! ### Strings -/

/-- A hexadecimal digit of either case, and its value. -/
def IsHexDigit (c : Char) (d : ℕ) : Prop :=
  d < 16 ∧ (c = d.digitChar ∨ c = d.digitChar.toUpper)

/-- Four hexadecimal digits, and the number that they spell. -/
inductive FourHex : List Char → ℕ → Prop
  | mk {c₃ c₂ c₁ c₀ : Char} {d₃ d₂ d₁ d₀ : ℕ} (h₃ : IsHexDigit c₃ d₃) (h₂ : IsHexDigit c₂ d₂)
    (h₁ : IsHexDigit c₁ d₁) (h₀ : IsHexDigit c₀ d₀) :
    FourHex [c₃, c₂, c₁, c₀] (d₃ * 4096 + d₂ * 256 + d₁ * 16 + d₀)

/-- The letters that stand for a character behind a backslash. -/
inductive ShortEscape : Char → Char → Prop
  | quote : ShortEscape '"' '"'
  | backslash : ShortEscape '\\' '\\'
  | slash : ShortEscape '/' '/'
  | backspace : ShortEscape 'b' '\x08'
  | formFeed : ShortEscape 'f' '\x0c'
  | lineFeed : ShortEscape 'n' '\n'
  | carriageReturn : ShortEscape 'r' '\r'
  | tab : ShortEscape 't' '\t'

/-- A code point that is half of a pair: the first halves come before the second ones. -/
def IsSurrogate (n : ℕ) : Prop :=
  0xD800 ≤ n ∧ n ≤ 0xDFFF

/-- What stands behind the backslash of an escape, and the character that it stands for. -/
inductive Escape : List Char → Char → Prop
  | short {e c : Char} (h : ShortEscape e c) : Escape [e] c
  | unicode {w : List Char} {n : ℕ} (h : FourHex w n) (hn : ¬ IsSurrogate n) :
    Escape ('u' :: w) (Char.ofNat n)
  | pair {w w' : List Char} {high low : ℕ} (h : FourHex w high) (h' : FourHex w' low)
    (hhigh : 0xD800 ≤ high ∧ high ≤ 0xDBFF) (hlow : 0xDC00 ≤ low ∧ low ≤ 0xDFFF) :
    Escape ('u' :: w ++ '\\' :: 'u' :: w')
      (Char.ofNat (0x10000 + (high - 0xD800) * 0x400 + (low - 0xDC00)))

/-- What stands behind the backslash of an escape of which only the form is asked. -/
inductive PassableEscape : List Char → Prop
  | short {e c : Char} (h : ShortEscape e c) : PassableEscape [e]
  | unicode {w : List Char} {n : ℕ} (h : FourHex w n) : PassableEscape ('u' :: w)

/-- A character that stands for itself in a string. -/
def IsPlain (c : Char) : Prop :=
  c ≠ '"' ∧ c ≠ '\\' ∧ 0x20 ≤ c.toNat

/-- What stands between the quotes of a string, and the text that it stands for. -/
inductive Spells : List Char → List Char → Prop
  | nil : Spells [] []
  | plain {c : Char} {w text : List Char} (h : IsPlain c) (hw : Spells w text) :
    Spells (c :: w) (c :: text)
  | escape {e : List Char} {c : Char} {w text : List Char} (h : Escape e c) (hw : Spells w text) :
    Spells ('\\' :: e ++ w) (c :: text)

/-- What stands between the quotes of a string of which only the form is asked. -/
inductive Passable : List Char → Prop
  | nil : Passable []
  | plain {c : Char} {w : List Char} (h : IsPlain c) (hw : Passable w) : Passable (c :: w)
  | escape {e w : List Char} (h : PassableEscape e) (hw : Passable w) : Passable ('\\' :: e ++ w)

/-! ### Numbers -/

/-- One or more digits. -/
def IsDigits (w : List Char) : Prop :=
  w ≠ [] ∧ ∀ c ∈ w, '0' ≤ c ∧ c ≤ '9'

/-- The whole part of a number: zero, or digits that do not start with zero. -/
inductive Whole : List Char → Prop
  | zero : Whole ['0']
  | digits {w : List Char} (h : IsDigits w) (hzero : w.head? ≠ some '0') : Whole w

/-- The decimals of a number, if it has any. -/
inductive Decimals : List Char → Prop
  | none : Decimals []
  | some {w : List Char} (h : IsDigits w) : Decimals ('.' :: w)

/-- The exponent of a number, if it has one. -/
inductive Exponent : List Char → Prop
  | none : Exponent []
  | some {e : Char} {sign w : List Char} (he : e = 'e' ∨ e = 'E')
    (hsign : sign = [] ∨ sign = ['+'] ∨ sign = ['-']) (h : IsDigits w) : Exponent (e :: sign ++ w)

/-- A number. -/
inductive IsNumber : List Char → Prop
  | mk {sign w f x : List Char} (hsign : sign = [] ∨ sign = ['-']) (hw : Whole w) (hf : Decimals f)
    (hx : Exponent x) : IsNumber (sign ++ w ++ f ++ x)

/-! ### Values -/

/-- The bracket that opens a frame. -/
def Frame.open : Frame → Char
  | .list => '['
  | .object => '{'

/-- What stands in front of a value in a frame: nothing in a list, a key and its colon in an object. -/
inductive Lead : Frame → List Char → Prop
  | list : Lead .list []
  | object {a w b : List Char} (ha : IsBlank a) (hw : Passable w) (hb : IsBlank b) :
    Lead .object (a ++ '"' :: w ++ '"' :: b ++ [':'])

/-- What a text can be derived as: a value, or what stands between the brackets of a frame. -/
inductive Phrase
  | value
  | items (frame : Frame)

/-- The texts of values, and of what stands between brackets. -/
inductive Derives : Phrase → List Char → Prop
  | null : Derives .value ['n', 'u', 'l', 'l']
  | true : Derives .value ['t', 'r', 'u', 'e']
  | false : Derives .value ['f', 'a', 'l', 's', 'e']
  | number {w : List Char} (h : IsNumber w) : Derives .value w
  | string {w : List Char} (h : Passable w) : Derives .value ('"' :: w ++ ['"'])
  | empty {frame : Frame} {a : List Char} (ha : IsBlank a) :
    Derives .value (frame.open :: a ++ [frame.close])
  | full {frame : Frame} {w : List Char} (h : Derives (.items frame) w) :
    Derives .value (frame.open :: w ++ [frame.close])
  | last {frame : Frame} {l a v b : List Char} (hl : Lead frame l) (ha : IsBlank a)
    (hv : Derives .value v) (hb : IsBlank b) : Derives (.items frame) (l ++ a ++ v ++ b)
  | more {frame : Frame} {l a v b w : List Char} (hl : Lead frame l) (ha : IsBlank a)
    (hv : Derives .value v) (hb : IsBlank b) (hw : Derives (.items frame) w) :
    Derives (.items frame) (l ++ a ++ v ++ b ++ ',' :: w)

/-! ### Records -/

/-- A member of an object: a key, with its escapes undone, and the text of a value. -/
inductive Member (key value : List Char) : List Char → Prop
  | mk {a w b c d : List Char} (ha : IsBlank a) (hw : Spells w key) (hb : IsBlank b)
    (hc : IsBlank c) (hd : IsBlank d) :
    Member key value (a ++ '"' :: w ++ '"' :: b ++ ':' :: c ++ value ++ d)

section

variable {α : Type} (key : List Char) (Literal : List Char → α → Prop)

/-- The member of a field: its key, and a text of its value. -/
def IsField (v : α) (m : List Char) : Prop :=
  ∃ value, Literal value v ∧ Member key value m

/-- A member that is not the field's: another key, and any value. -/
def IsOther (m : List Char) : Prop :=
  ∃ k value, k ≠ key ∧ Derives .value value ∧ Member k value m

/-- An object in which exactly one member is the field's. -/
inductive IsObject (v : α) : List Char → Prop
  | mk {before after : List (List Char)} {m : List Char} (hm : IsField key Literal v m)
    (hbefore : ∀ x ∈ before, IsOther key x) (hafter : ∀ x ∈ after, IsOther key x) :
    IsObject v ('{' :: [','].intercalate (before ++ m :: after) ++ ['}'])

/-- A list that holds a value of the field and nothing else. -/
inductive IsSingleton (v : α) : List Char → Prop
  | mk {a w b : List Char} (ha : IsBlank a) (hw : Literal w v) (hb : IsBlank b) :
    IsSingleton v ('[' :: a ++ w ++ b ++ [']'])

/-- A record of one field, with white space around it: an object or a list. -/
def IsRecord (v : α) (body : List Char) : Prop :=
  ∃ a w b, IsBlank a ∧ IsBlank b ∧ (IsObject key Literal v w ∨ IsSingleton Literal v w) ∧
    body = a ++ w ++ b

end

/-- A string that spells a text. -/
def IsText (w text : List Char) : Prop :=
  ∃ x, Spells x text ∧ w = '"' :: x ++ ['"']

/-- A number without sign, decimals and exponent that is a port. -/
def IsPort (w : List Char) (port : UInt16) : Prop :=
  Whole w ∧ Text.Decimal.number 0 w = port.toNat

end DnsConsole.Json
