import DnsConsole.Text.Bytes
import DnsConsole.Text.Numerals
import DnsConsole.Unicode.Unprintable

/-!
# Quoted text

Messages show a text that was not understood in double quotes.  A quote, a backslash and the common
controls are written as a backslash and one character, any other character without a shape of its own
as its code point in braces, and all else as it is, the single quote included.  Bytes that spell no text
are shown the same way as far as they do, with the single quote escaped and each other byte as two
hexadecimal digits.
-/

namespace DnsConsole.Text.Quoted

/-- How a quoted text shows one character. -/
def escape (c : Char) : List Char :=
  match c with
  | '\x00' => ['\\', '0']
  | '\t' => ['\\', 't']
  | '\n' => ['\\', 'n']
  | '\r' => ['\\', 'r']
  | '"' => ['\\', '"']
  | '\\' => ['\\', '\\']
  | c =>
    if Unicode.unprintable.contains c.toNat then
      ['\\', 'u', '{'] ++ Hex.digits c.toNat ++ ['}']
    else [c]

/-- A text in double quotes. -/
def quoteChars (cs : List Char) : List Char :=
  '"' :: cs.flatMap escape ++ ['"']

/-- A text in double quotes. -/
def quote (s : String) : String :=
  String.ofList (quoteChars s.toList)

/-- How quoted bytes show one character. -/
def escapeAmongBytes (c : Char) : List Char :=
  if c = '\'' then ['\\', '\''] else escape c

/-- How quoted bytes show a byte that belongs to no character. -/
def escapeByte (b : UInt8) : List Char :=
  ['\\', 'x'] ++ (Hex.pair b).map Char.toUpper

/-- Bytes as they are shown between the quotes. -/
def escapeBytes (bs : List UInt8) : List Char :=
  match bs with
  | [] => []
  | b :: r =>
    match h : Utf8.next? (b :: r) with
    | none => escapeByte b ++ escapeBytes r
    | some (c, rest) =>
      have := Utf8.length_of_next? h
      escapeAmongBytes c ++ escapeBytes rest
termination_by bs.length
decreasing_by
  · simp
  · exact this

/-- Bytes in double quotes. -/
def quoteBytes (bs : List UInt8) : String :=
  String.ofList ('"' :: escapeBytes bs ++ ['"'])

end DnsConsole.Text.Quoted
