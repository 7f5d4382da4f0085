import DnsConsole.Text.Bytes
import DnsConsole.Text.Numerals
import DnsConsole.Text.Pieces
import DnsConsole.Unicode.Alphanumeric

/-!
# The environment and its file

The console server is configured by variables of its environment.  Names and values are bytes; a value
that is not UTF-8 has no text, and most settings take it for unset.

A file beside the program may hold settings, one `NAME=VALUE` a line, which take the place of variables
that are not set.  A value may be quoted in parts; quotes may span lines, and outside single quotes `$NAME`
and `${NAME}` stand for variables.  The settings are taken in order, so that the first of two settings
of a name wins and a later value sees the earlier ones.  The first line that is not understood ends the
reading, and what was taken before it stays.
-/

namespace DnsConsole

/-- The variables that are set. -/
structure Environment where
  vars : List (List UInt8 × List UInt8)
  deriving DecidableEq, Repr

namespace Environment

/-- The value of a variable. -/
def get? (env : Environment) (name : List Char) : Option (List UInt8) :=
  env.vars.lookup (Text.Utf8.encode name)

/-- The environment with a variable set. -/
def set (env : Environment) (name value : List UInt8) : Environment :=
  ⟨(name, value) :: env.vars⟩

/-- The environment that some settings make, the later ones overwriting the earlier ones. -/
def ofList (pairs : List (List UInt8 × List UInt8)) : Environment :=
  pairs.foldl (fun env p => env.set p.1 p.2) ⟨[]⟩

/-- The value of a variable as text: `none` if it is unset or not UTF-8. -/
def text? (env : Environment) (name : List Char) : Option (List Char) :=
  env.get? name >>= Text.Utf8.decode?

/-- The environment with a text put under a variable that has none. -/
def setDefault (env : Environment) (name value : List Char) : Environment :=
  if (env.text? name).isSome then env
  else env.set (Text.Utf8.encode name) (Text.Utf8.encode value)

/-! ### Lines -/

/-- Where a character stands while the end of a line is looked for. -/
inductive Position
  | outside
  | afterBlank
  | escaped
  | strong
  | strongEscaped
  | weak
  | weakEscaped
  deriving DecidableEq, Repr

/-- The position behind a character. -/
def Position.next (p : Position) (c : Char) : Position :=
  match p with
  | escaped => outside
  | strong => if c = '\\' then strongEscaped else if c = '\'' then outside else strong
  | strongEscaped => strong
  | weak => if c = '\\' then weakEscaped else if c = '"' then outside else weak
  | weakEscaped => weak
  | outside | afterBlank =>
    if c = '\\' then escaped
    else if c = '"' then weak
    else if c = '\'' then strong
    else if p = outside ∧ Text.isBlank c ∧ c ≠ '\n' ∧ c ≠ '\r' then afterBlank
    else outside

/-- A line with what is behind it, or why there is none. -/
inductive Line
  | last
  | unfinished
  | text (line rest : List Char)
  deriving DecidableEq, Repr

/-- The line with a character put in front. -/
def Line.cons (c : Char) : Line → Line
  | .text line rest => .text (c :: line) rest
  | other => other

/-- What is behind the first line break. -/
def behindBreak (cs : List Char) : List Char :=
  (cs.dropWhile (· ≠ '\n')).tail

/-- The rest of a line whose start has been read up to a position.  It ends at a line break outside
quotes, and in front of a comment behind a blank; a file that ends anywhere else than outside is
unfinished. -/
def lineFrom (p : Position) : List Char → Line
  | [] => if p = .outside then .text [] [] else .unfinished
  | c :: r =>
    if p = .afterBlank ∧ c = '#' then .text [] (behindBreak r)
    else if c = '\n' ∧ p.next c = .outside then .text [] r
    else (lineFrom (p.next c) r).cons c

/-- The first line of a text; a line that is only a comment is empty. -/
def firstLine (cs : List Char) : Line :=
  if cs.isEmpty then .last
  else
    let start := (cs.takeWhile (· ≠ '\n')).dropWhile Text.isBlank
    if start.head? = some '#' then .text [] (behindBreak cs) else lineFrom .outside cs

theorem length_behindBreak_le (cs : List Char) : (behindBreak cs).length ≤ cs.length - 1 := by
  induction cs with
  | nil => simp [behindBreak]
  | cons c r ih =>
    simp only [behindBreak, List.dropWhile_cons] at *
    split <;> simp_all
    omega

theorem length_rest_of_lineFrom {p : Position} {cs line rest : List Char}
    (h : lineFrom p cs = .text line rest) : rest.length ≤ cs.length - 1 := by
  induction cs generalizing p line rest with
  | nil =>
    simp only [lineFrom] at h
    split at h <;> simp_all
  | cons c r ih =>
    simp only [lineFrom] at h
    split at h
    · have := length_behindBreak_le r
      simp only [Line.text.injEq] at h
      simp only [← h.2, List.length_cons]
      omega
    · split at h
      · simp_all
      · match hl : lineFrom (p.next c) r with
        | .text line' rest' =>
          have := ih hl
          simp only [hl, Line.cons, Line.text.injEq] at h
          simp only [← h.2, List.length_cons]
          omega
        | .last | .unfinished => simp [hl, Line.cons] at h

theorem length_rest_of_firstLine {cs line rest : List Char}
    (h : firstLine cs = .text line rest) : rest.length < cs.length := by
  cases cs with
  | nil => simp [firstLine] at h
  | cons c r =>
    simp only [firstLine, List.isEmpty_cons, Bool.false_eq_true, if_false] at h
    split at h
    · have := length_behindBreak_le (c :: r)
      simp only [Line.text.injEq] at h
      simp only [List.length_cons] at this
      simp only [← h.2, List.length_cons]
      omega
    · have := length_rest_of_lineFrom h
      simp only [List.length_cons] at *
      omega

/-! ### Values -/

/-- A character that a name behind a dollar can hold. -/
def isNameChar (c : Char) : Bool :=
  Unicode.alphanumerics.contains c.toNat

/-- What a value is inside of. -/
inductive Context
  | plain
  | escaped
  | strong
  | name (read : List Char)
  | braced (read : List Char)
  | ended
  deriving DecidableEq, Repr

/-- The characters that a backslash may stand in front of, and what they then mean. -/
def unescape? (c : Char) : Option Char :=
  if c = '\\' ∨ c = '\'' ∨ c = '"' ∨ c = '$' ∨ c = ' ' then some c
  else if c = 'n' then some '\n'
  else none

/-- The value that is left of a text, with `weak` inside double quotes.  `lookup` is what a name behind
a dollar stands for. -/
def valueFrom? (lookup : List Char → List Char) (weak : Bool) :
    Context → List Char → Option (List Char)
  | .plain, [] | .escaped, [] | .ended, [] => if weak then none else some []
  | .name read, [] => if weak then none else some (lookup read)
  | .strong, [] | .braced _, [] => none
  | .ended, c :: r =>
    if Text.isSpaceOrTab c then valueFrom? lookup weak .ended r
    else if c = '#' then some []
    else none
  | .escaped, c :: r => do
    let d ← unescape? c
    return d :: (← valueFrom? lookup weak .plain r)
  | .strong, c :: r =>
    if c = '\'' then valueFrom? lookup weak .plain r
    else (valueFrom? lookup weak .strong r).map (c :: ·)
  | .name read, c :: r =>
    if isNameChar c then valueFrom? lookup weak (.name (read ++ [c])) r
    else if c = '{' ∧ read.isEmpty then valueFrom? lookup weak (.braced []) r
    else if c = '$' then (valueFrom? lookup weak (.name []) r).map (lookup read ++ ·)
    else (valueFrom? lookup weak .plain r).map (lookup read ++ c :: ·)
  | .braced read, c :: r =>
    if c = '}' then (valueFrom? lookup weak .plain r).map (lookup read ++ ·)
    else valueFrom? lookup weak (.braced (read ++ [c])) r
  | .plain, c :: r =>
    if c = '$' then valueFrom? lookup weak (.name []) r
    else if c = '"' then valueFrom? lookup (!weak) .plain r
    else if c = '\\' then valueFrom? lookup weak .escaped r
    else if weak then (valueFrom? lookup weak .plain r).map (c :: ·)
    else if c = '\'' then valueFrom? lookup weak .strong r
    else if Text.isSpaceOrTab c then valueFrom? lookup weak .ended r
    else (valueFrom? lookup weak .plain r).map (c :: ·)

/-! ### Settings -/

/-- A character that a name of a setting can start with. -/
def isKeyStart (c : Char) : Bool :=
  c.isAlpha || c == '_'

/-- A character that a name of a setting can hold. -/
def isKeyChar (c : Char) : Bool :=
  c.isAlphanum || c == '_' || c == '.'

/-- The name in front of a text, and what is behind it and the blanks behind it. -/
def key? (cs : List Char) : Option (List Char × List Char) :=
  match cs with
  | [] => none
  | c :: _ =>
    if isKeyStart c then
      some (cs.takeWhile isKeyChar, (cs.dropWhile isKeyChar).dropWhile Text.isBlank)
    else none

/-- The name in front of a text and what is behind its equals sign. -/
def assignment? (cs : List Char) : Option (List Char × List Char) :=
  match key? cs with
  | some (key, '=' :: r) => some (key, r)
  | _ => none

/-- What a line says. -/
inductive Entry
  | blank
  | malformed
  | setting (name value : List Char)
  deriving DecidableEq, Repr

/-- The setting of a name to what is left of a line. -/
def settingOf (lookup : List Char → List Char) (name r : List Char) : Entry :=
  match r.dropWhile Text.isBlank with
  | [] => .setting name []
  | c :: r =>
    if c = '#' then .setting name []
    else
      match valueFrom? lookup false .plain (c :: r) with
      | some value => .setting name value
      | none => .malformed

/-- What a line says; the word `export` in front of a setting says nothing. -/
def entryOf (lookup : List Char → List Char) (line : List Char) : Entry :=
  match Text.trimChars line with
  | [] => .blank
  | c :: r =>
    if c = '#' then .blank
    else
      match assignment? (c :: r) with
      | some (name, r) => settingOf lookup name r
      | none =>
        match key? (c :: r) with
        | some (word, r) =>
          if word = "export".toList then
            match assignment? r with
            | some (name, r) => settingOf lookup name r
            | none => .malformed
          else .malformed
        | none => .malformed

/-! ### The file -/

/-- What a name in a value stands for: the text of the variable, or nothing. -/
def expand (env : Environment) (name : List Char) : List Char :=
  (env.text? name).getD []

/-- The environment with the settings of a file put under the variables that have no text. -/
def loadLines (env : Environment) (cs : List Char) : Environment :=
  match h : firstLine cs with
  | .last | .unfinished => env
  | .text line rest =>
    have := length_rest_of_firstLine h
    match entryOf env.expand line with
    | .blank => loadLines env rest
    | .malformed => env
    | .setting name value => loadLines (env.setDefault name value) rest
termination_by cs.length

/-- The environment with the settings of a file; a byte order mark at its start is skipped. -/
def load (env : Environment) (file : String) : Environment :=
  match file.toList with
  | '\uFEFF' :: r => env.loadLines r
  | cs => env.loadLines cs

end Environment

end DnsConsole
