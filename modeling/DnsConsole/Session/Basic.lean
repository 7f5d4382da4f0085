import DnsConsole.Api.Auth
import DnsConsole.Api.Call
import DnsConsole.Login.Form
import DnsConsole.Session.Storage

/-!
# Sessions

A session is two texts in the storage of a browser tab: the server that was logged in to, and the token
it gave.  `livenessCheck` reads both and asks the server about the token, `login` writes both when the
server has given a token, and `logout` erases both.

What a session does is an `Action`, cut where it waits for a server: what is read from the storage and
sent comes first, and what is made of the outcome and of the storage of that moment comes second.  In
between other actions may have changed the storage.  `Action.run` does an action without such a break.

The console starts without knowing whether it is logged in; one liveness check decides.  The status selects
the screen that is shown.
-/

namespace DnsConsole.Session

variable {σ : Type} [Storage σ]

/-! ### Actions -/

/-- What is made of a storage: a result and the storage after it. -/
abbrev Change (σ α : Type) := σ → Traced (α × σ)

/-- Something a session does: it comes to its result at once, or it sends one request and comes to its
result with the outcome, on the storage of that moment. -/
inductive Action (σ α : Type)
  | now (change : Change σ α)
  | call (c : Api.Call (Change σ α))

/-- An action that leaves the storage as it is. -/
def Action.ofCall {α : Type} (c : Api.Call α) : Action σ α :=
  .call (c.andThen fun a => pure fun s => pure (a, s))

/-- The change with another result made of its result. -/
def Change.map {α β : Type} (f : α → β) (change : Change σ α) : Change σ β := fun s => do
  let (a, s) ← change s
  return (f a, s)

/-- The action with another result made of its result. -/
def Action.map {α β : Type} (f : α → β) : Action σ α → Action σ β
  | .now change => .now (change.map f)
  | .call c => .call (c.andThen fun change => pure (change.map f))

/-- A storage and a transport. -/
structure Client (σ τ : Type) where
  storage : σ
  transport : τ

/-- Does an action, waiting for the outcome of its request. -/
def Action.run {α τ : Type} [Api.Transport τ] (a : Action σ α) (c : Client σ τ) :
    Traced (α × Client σ τ) :=
  match a with
  | .now change => do
    let (a, storage) ← change c.storage
    return (a, ⟨storage, c.transport⟩)
  | .call waiting => do
    let (change, transport) ← waiting.run c.transport
    let (a, storage) ← change c.storage
    return (a, ⟨storage, transport⟩)

/-! ### The session in a storage -/

/-- The key of the server. -/
def serverKey : String := "server"

/-- The key of the token. -/
def tokenKey : String := "authToken"

/-- The server of the session. -/
def server? (s : σ) : Option String :=
  Storage.get? s serverKey

/-- The token of the session; an empty one counts as none. -/
def token? (s : σ) : Option String :=
  (Storage.get? s tokenKey).filter fun t => !t.isEmpty

/-- The storage with a session written into it. -/
def save (s : σ) (server token : String) : σ :=
  Storage.insert (Storage.insert s serverKey server) tokenKey token

/-- The storage with the session erased. -/
def clear (s : σ) : σ :=
  Storage.erase (Storage.erase s serverKey) tokenKey

/-! ### What a session does -/

/-- What a liveness check says about the token of a server. -/
def verdict (server : String) (alive : Bool) : Traced Bool := do
  if !alive then
    record .info .session ("stored token no longer accepted by " ++ server)
  return alive

/-- Asks whether the session is alive; without a token or a server it is not, and nobody is asked. -/
def livenessCheck (s : σ) : Action σ Bool :=
  match token? s, server? s with
  | none, _ => .now fun s => do
    record .debug .session "no stored token; not logged in"
    return (false, s)
  | some _, none => .now fun s => do
    record .debug .session "token stored without a server origin; not logged in"
    return (false, s)
  | some token, some server => .ofCall ((Api.liveness server token).andThen (verdict server))

/-- Where a login sends the browser. -/
def root : String := "/"

/-- What an exchange of credentials does to the storage. -/
def established (server : String) : Except Api.LoginError String →
    Change σ (Except Api.LoginError Unit)
  | .error e, s => pure (.error e, s)
  | .ok token, s => do
    record .info .session ("logged in to " ++ server)
    navigate root
    return (.ok (), save s server token)

/-- Logs in: the server and its token are stored and the browser goes to the root of the console.  If
there is no token, the storage stays as it is. -/
def login (c : Login.Credentials) : Action σ (Except Api.LoginError Unit) :=
  .call ((Api.exchange c.server c.username c.password).andThen fun result =>
    pure (established c.server result))

/-- Logs out, without asking the server. -/
def logout : Action σ Unit :=
  .now fun s => do
    record .info .session "logged out"
    return ((), clear s)

/-! ### Login status and screens -/

/-- What the console knows about its login. -/
inductive Status
  | checking
  | loggedIn
  | loggedOut
  deriving DecidableEq, Repr

/-- The screen at the root of the console. -/
inductive Screen
  | checking
  | login
  | home
  deriving DecidableEq, Repr

/-- The status before the liveness check. -/
def Status.initial : Status := .checking

/-- The status after the liveness check. -/
def Status.ofLiveness (alive : Bool) : Status :=
  if alive then .loggedIn else .loggedOut

/-- The screen for a status. -/
def Status.screen : Status → Screen
  | checking => .checking
  | loggedIn => .home
  | loggedOut => .login

end DnsConsole.Session
