import DnsConsole.Number.Shortest
import DnsConsole.Text.Bytes
import DnsConsole.Text.Quoted

/-!
# What can be wrong with a JSON body

A `Fault` says why a body could not be read and where: its place is kept as the number of bytes of the
body that lie behind it, which a reader knows from the rest of its input alone.  `DecodeError.message`
turns a fault into text, with the place as a line and a column counted in bytes.
-/

namespace DnsConsole.Json

/-- What was being read when the body ended. -/
inductive Place
  | value
  | list
  | object
  | string
  deriving DecidableEq, Repr

/-- A value of the wrong kind. -/
inductive Found
  | null
  | bool (b : Bool)
  | integer (n : Int)
  | float (negative : Bool) (magnitude : Number.Binary64)
  | text (cs : List Char)
  | list
  | object
  deriving DecidableEq, Repr

/-- Why a body could not be read. -/
inductive Cause
  | endOf (place : Place)
  | expectedValue
  | expectedWord
  | expectedColon
  | expectedCommaOrBracket
  | expectedCommaOrBrace
  | keyNotText
  | trailingComma
  | trailingCharacters
  | invalidEscape
  | controlCharacter
  | loneSurrogate
  | unfinishedPair
  | invalidNumber
  | numberTooLarge
  | wrongType (found : Found) (expected : String)
  | wrongInteger (n : Int) (expected : String)
  | emptyList (expected : String)
  | missingField (name : String)
  | duplicateField (name : String)
  deriving DecidableEq, Repr

/-- The three kinds of causes: the body is cut short, it is no JSON, or it is not what was asked
for. -/
inductive Category
  | cutShort
  | malformed
  | mismatched
  deriving DecidableEq, Repr

/-- The kind of a cause. -/
def Cause.category : Cause → Category
  | .endOf _ => .cutShort
  | .wrongType .. | .wrongInteger .. | .emptyList _ | .missingField _ | .duplicateField _ =>
    .mismatched
  | _ => .malformed

/-- A cause and the number of bytes of the body behind the place of it. -/
structure Fault where
  cause : Cause
  left : Nat
  deriving DecidableEq, Repr

/-- The outcome of reading something at the front of a text: it and the rest, or a fault. -/
abbrev Reading (α : Type) := Except Fault (α × List Char)

/-- A fault `bytes` behind the start of `rest`, or at the end of the body if that is nearer. -/
def Fault.before (cause : Cause) (rest : List Char) (bytes : Nat) : Fault :=
  ⟨cause, Text.Utf8.size rest - bytes⟩

/-- The outcome of a fault `bytes` behind the start of `rest`. -/
def fault {α : Type} (cause : Cause) (rest : List Char) (bytes : Nat) : Except Fault α :=
  .error (Fault.before cause rest bytes)

/-! ### Messages -/

/-- What was being read, in words. -/
def Place.wording : Place → String
  | .value => "a value"
  | .list => "a list"
  | .object => "an object"
  | .string => "a string"

/-- An integer as text. -/
def integerText (n : Int) : String :=
  (if n < 0 then "-" else "") ++ Text.Decimal.text n.natAbs

/-- A value of the wrong kind, in words. -/
def Found.wording : Found → String
  | .null => "null"
  | .bool b => "boolean `" ++ (if b then "true" else "false") ++ "`"
  | .integer n => "integer `" ++ integerText n ++ "`"
  | .float negative x =>
    "floating point `" ++ (if negative then "-" else "") ++ String.ofList x.written ++ "`"
  | .text cs => "string " ++ String.ofList (Text.Quoted.quoteChars cs)
  | .list => "sequence"
  | .object => "map"

/-- A cause in words. -/
def Cause.wording : Cause → String
  | .endOf place => "EOF while parsing " ++ place.wording
  | .expectedValue => "expected value"
  | .expectedWord => "expected ident"
  | .expectedColon => "expected `:`"
  | .expectedCommaOrBracket => "expected `,` or `]`"
  | .expectedCommaOrBrace => "expected `,` or `\x7d`"
  | .keyNotText => "key must be a string"
  | .trailingComma => "trailing comma"
  | .trailingCharacters => "trailing characters"
  | .invalidEscape => "invalid escape"
  | .controlCharacter => "control character (\\u0000-\\u001F) found while parsing a string"
  | .loneSurrogate => "lone leading surrogate in hex escape"
  | .unfinishedPair => "unexpected end of hex escape"
  | .invalidNumber => "invalid number"
  | .numberTooLarge => "number out of range"
  | .wrongType found expected => "invalid type: " ++ found.wording ++ ", expected " ++ expected
  | .wrongInteger n expected =>
    "invalid value: integer `" ++ integerText n ++ "`, expected " ++ expected
  | .emptyList expected => "invalid length 0, expected " ++ expected ++ " with 1 element"
  | .missingField name => "missing field `" ++ name ++ "`"
  | .duplicateField name => "duplicate field `" ++ name ++ "`"

/-- The line and the column of the place `bytes` behind the start of a text, counted on from a line
and a column. -/
def lineColumn (line column : Nat) : List Char → (bytes : Nat) → Nat × Nat
  | [], _ => (line, column)
  | c :: r, bytes =>
    if bytes = 0 then (line, column)
    else if c = '\n' then lineColumn (line + 1) 0 r (bytes - 1)
    else lineColumn line (column + min c.utf8Size bytes) r (bytes - c.utf8Size)

/-- Why a body could not be read, with the line and column. -/
structure DecodeError where
  cause : Cause
  line : Nat
  column : Nat
  deriving DecidableEq, Repr

/-- The error for a fault in a body. -/
def DecodeError.ofFault (body : List Char) (f : Fault) : DecodeError :=
  let (line, column) := lineColumn 1 0 body (Text.Utf8.size body - f.left)
  ⟨f.cause, line, column⟩

/-- An error in words. -/
def DecodeError.message (e : DecodeError) : String :=
  e.cause.wording ++ " at line " ++ Text.Decimal.text e.line ++ " column " ++
    Text.Decimal.text e.column

end DnsConsole.Json
