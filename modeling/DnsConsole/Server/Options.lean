import DnsConsole.Environment
import DnsConsole.Text.Numerals
import DnsConsole.Text.Pieces
import DnsConsole.Text.Quoted

/-!
# Options of the rendered page

Where the page finds its script is told by variables with the prefix `LEPTOS_`.  They are read in a fixed
order and the first that is wrong is reported; some of them have to be right although nothing depends
on them.  `Options` keeps those that the page shows.

One of them is a socket address, that is, an address and a port: `a.b.c.d:port`, or `[address]:port` with
an address of eight groups of hexadecimal digits.  There `::` stands for one or more groups of zeros, the
last two groups may be written as `a.b.c.d`, and a number behind `%` names a network interface.
`isSocketAddress` decides whether a text is one.
-/

namespace DnsConsole.Server

/-! ### Socket addresses -/

/-- Whether a text is a number up to `max`, leading zeros allowed. -/
def isNumber (max : Nat) (cs : List Char) : Bool :=
  match Text.Decimal.read? cs with
  | some n => n ≤ max
  | none => false

/-- Whether a text is one of the four numbers of an address: up to 255, without a leading zero. -/
def isOctet (cs : List Char) : Bool :=
  isNumber 255 cs && (cs.length == 1 || cs.head? != some '0')

/-- Whether a text is four numbers between dots. -/
def isQuad (cs : List Char) : Bool :=
  let octets := Text.split '.' cs
  octets.length == 4 && octets.all isOctet

/-- Whether a text is a group: one to four hexadecimal digits. -/
def isGroup (cs : List Char) : Bool :=
  1 ≤ cs.length && cs.length ≤ 4 && cs.all Text.Hex.isDigit

/-- How many groups a text between colons holds; `quad` says whether it may end in four numbers. -/
def groupCount? (quad : Bool) (cs : List Char) : Option Nat :=
  let parts := Text.split ':' cs
  if cs.isEmpty then some 0
  else if parts.all isGroup then some parts.length
  else if quad && parts.dropLast.all isGroup && parts.getLast?.any isQuad then
    some (parts.length + 1)
  else none

/-- A text cut at its first `::`. -/
def cutDouble? : List Char → Option (List Char × List Char)
  | ':' :: ':' :: r => some ([], r)
  | c :: r => (cutDouble? r).map fun p => (c :: p.1, p.2)
  | [] => none

/-- Whether a text is an address of eight groups. -/
def isGroups (cs : List Char) : Bool :=
  match cutDouble? cs with
  | none => groupCount? true cs == some 8
  | some (front, back) =>
    match groupCount? false front, groupCount? true back with
    | some m, some n => m + n ≤ 7
    | _, _ => false

/-- Whether a text is an address of eight groups, with or without the number of an interface. -/
def isScopedGroups (cs : List Char) : Bool :=
  match Text.cut '%' cs with
  | (address, none) => isGroups address
  | (address, some scope) => isGroups address && isNumber 4294967295 scope

/-- Whether a text is a socket address. -/
def isSocketAddress (cs : List Char) : Bool :=
  match cs with
  | '[' :: r =>
    match Text.cut ']' r with
    | (address, some (':' :: port)) => isScopedGroups address && isNumber 65535 port
    | _ => false
  | cs =>
    match Text.cut ':' cs with
    | (address, some port) => isQuad address && isNumber 65535 port
    | _ => false

/-! ### Options -/

/-- What is wrong with the options. -/
inductive OptionsError
  | notText (name : String) (value : List UInt8)
  | environment (value : String)
  | address
  | number (e : Number.Unsigned.ReadError)
  | protocol (value : String)
  | boolean
  deriving DecidableEq, Repr

/-- What is wrong with a variable, in words. -/
def OptionsError.reason : OptionsError → String
  | notText name value =>
    name ++ ": environment variable was not valid unicode: " ++ Text.Quoted.quoteBytes value
  | environment value =>
    value ++ " is not a supported environment. Use either `dev`, `development`, `prod`, or " ++
      "`production`."
  | address => "invalid socket address syntax"
  | number e => e.message
  | protocol value => value ++ " is not a supported websocket protocol. Use only `ws` or `wss`."
  | boolean => "provided string was not `true` or `false`"

/-- An error in words. -/
def OptionsError.message (e : OptionsError) : String :=
  "leptos configuration: Config Error: " ++ e.reason

/-- What the page shows of the options: the name of its script, the directory that holds it, and whether
the names of the built files carry a hash. -/
structure Options where
  outputName : String
  packageDir : String
  hashFiles : Bool
  deriving DecidableEq, Repr

/-- The text of a variable, if it is set; bytes that are no text are an error. -/
def textIn? (env : Environment) (name : String) : Except OptionsError (Option (List Char)) :=
  match env.get? name.toList with
  | none => .ok none
  | some value =>
    match Text.Utf8.decode? value with
    | some cs => .ok (some cs)
    | none => .error (.notText name value)

/-- The text of a variable, or a default if it is unset. -/
def textIn (env : Environment) (name default : String) : Except OptionsError (List Char) :=
  (textIn? env name).map (·.getD default.toList)

/-- Checks that a text is one of some words, in either case. -/
def checkWord (words : List String) (error : String → OptionsError) (cs : List Char) :
    Except OptionsError Unit :=
  if words.contains (String.ofList (cs.map Char.toLower)) then .ok ()
  else .error (error (String.ofList cs))

/-- Checks that a text is a number of 32 bits. -/
def checkNumber (cs : List Char) : Except OptionsError Unit :=
  match Number.Unsigned.read 4294967295 cs with
  | .ok _ => .ok ()
  | .error e => .error (.number e)

/-- The truth value that a text spells. -/
def readBoolean (cs : List Char) : Except OptionsError Bool :=
  if cs = "true".toList then .ok true
  else if cs = "false".toList then .ok false
  else .error .boolean

/-- The options in an environment. -/
def Options.ofEnvironment (env : Environment) : Except OptionsError Options := do
  let outputName ← textIn env "LEPTOS_OUTPUT_NAME" ""
  let _ ← textIn env "LEPTOS_SITE_ROOT" "target/site"
  let packageDir ← textIn env "LEPTOS_SITE_PKG_DIR" "pkg"
  checkWord ["dev", "development", "prod", "production"] .environment
    (← textIn env "LEPTOS_ENV" "DEV")
  if !isSocketAddress (← textIn env "LEPTOS_SITE_ADDR" "127.0.0.1:3000") then throw .address
  checkNumber (← textIn env "LEPTOS_RELOAD_PORT" "3001")
  match ← textIn? env "LEPTOS_RELOAD_EXTERNAL_PORT" with
  | some port => checkNumber port
  | none => pure ()
  checkWord ["ws", "wss"] .protocol (← textIn env "LEPTOS_RELOAD_WS_PROTOCOL" "ws")
  let hashFiles ← readBoolean (← textIn env "LEPTOS_HASH_FILES" "false")
  return ⟨String.ofList outputName, String.ofList packageDir, hashFiles⟩

/-- The options with a given name of the script and nothing else set. -/
def Options.named (outputName : String) : Options :=
  ⟨outputName, "pkg", false⟩

end DnsConsole.Server
