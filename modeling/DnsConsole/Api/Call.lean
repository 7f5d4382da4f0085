import DnsConsole.Json.Record
import DnsConsole.Trace

/-!
# Calls and replies

A call to a server is one request and what is made of its outcome.  The two halves are kept apart,
because other things may happen between them: nothing orders the calls of a browser tab.

Two replies carry a body that is read: the control server's answer to a login, which holds a token,
and the console server's answer to a discovery request, which holds the port of the control API.
Each is a record of one field, decoded by its schema and encoded as an object.
-/

namespace DnsConsole.Api

/-! ### Calls -/

/-- One request, and what is made of its outcome. -/
structure Call (α : Type) where
  request : Request
  receive : Outcome → Traced α

/-- Makes a call at once. -/
def Call.run {α τ : Type} [Transport τ] (c : Call α) (t : τ) : Traced (α × τ) := do
  let (outcome, t) ← send t c.request
  let a ← c.receive outcome
  return (a, t)

/-- A call whose result is its outcome. -/
def Call.plain (request : Request) : Call Outcome :=
  ⟨request, fun outcome => pure outcome⟩

/-- A call with something more made of its result. -/
def Call.andThen {α β : Type} (c : Call α) (f : α → Traced β) : Call β :=
  ⟨c.request, fun outcome => c.receive outcome >>= f⟩

/-! ### Replies -/

/-- The reply to a login: a token. -/
def tokenSchema : Json.Schema (List Char) where
  title := "struct AuthTokenResponse"
  key := "token"
  read := Json.readTextField
  read_le := Json.length_of_readTextField

/-- The reply to a discovery request: a port. -/
def portSchema : Json.Schema UInt16 where
  title := "struct ApiPortResponse"
  key := "port"
  read := Json.readPortField
  read_le := Json.length_of_readPortField

/-- The token in the body of a reply. -/
def decodeToken (body : String) : Except Json.DecodeError String :=
  (tokenSchema.decode body).map String.ofList

/-- The port in the body of a reply. -/
def decodePort (body : String) : Except Json.DecodeError UInt16 :=
  portSchema.decode body

/-- An object of one member. -/
def encodeMember (key : String) (value : List Char) : String :=
  String.ofList (['{'] ++ Json.encodeText key.toList ++ [':'] ++ value ++ ['}'])

/-- The body of a reply with a token. -/
def encodeToken (token : String) : String :=
  encodeMember "token" (Json.encodeText token.toList)

/-- The body of a reply with a port. -/
def encodePort (port : UInt16) : String :=
  encodeMember "port" (Text.Decimal.digits port.toNat)

end DnsConsole.Api
