
/-!
# Requests, and what an operation does

Everything the console asks of a server is a GET of one URL, with or without an `Authorization`
header.  Its outcome is a response of any status, or a `TransportError` if none was received.  Only
status 200 counts as a success.

Besides its result an operation of the client leaves a trace: the requests it made, the records it
logged and the pages it sent the browser to, each in order.  A record names the part of the program that
wrote it.  `Traced α` is a result with its trace; doing one thing after another joins the traces.
-/

namespace DnsConsole.Api

/-- A GET of a URL, and the `Authorization` header it carries. -/
structure Request where
  url : String
  authorization : Option String
  deriving DecidableEq, Repr

/-- The status and the body that were received. -/
structure Response where
  status : UInt16
  body : String
  deriving DecidableEq, Repr

/-- Whether a response reports success; other statuses of the 200s do not. -/
def Response.isOk (r : Response) : Bool :=
  r.status == 200

/-- Why no response was received. -/
inductive TransportError
  | request (reason : String)
  | unavailable
  deriving DecidableEq, Repr

/-- An error in words. -/
def TransportError.message : TransportError → String
  | request reason => "request failed: " ++ reason
  | unavailable => "not available on server"

/-- What comes of a request. -/
abbrev Outcome := Except TransportError Response

/-- A way to send requests, one after the other. -/
class Transport (τ : Type) where
  get : τ → Request → Outcome × τ

/-- A transport whose outcomes are given beforehand, in the order in which they are used. -/
structure Script where
  outcomes : List Outcome
  deriving Repr

/-- The script with more outcomes at its end. -/
def Script.append (s : Script) (more : List Outcome) : Script :=
  ⟨s.outcomes ++ more⟩

/-- The next outcome of a script, which does not depend on the request; a script that is used up
fails every request. -/
def Script.get (s : Script) (_ : Request) : Outcome × Script :=
  match s.outcomes with
  | [] => (.error (.request "no scripted response"), s)
  | outcome :: rest => (outcome, ⟨rest⟩)

instance : Transport Script := ⟨Script.get⟩

end DnsConsole.Api

namespace DnsConsole.Log

/-- How much a record matters. -/
inductive Level
  | debug
  | info
  | warn
  deriving DecidableEq, Repr

/-- The part of the program that writes a record. -/
inductive Source
  | api
  | session
  | discovery
  | store
  deriving DecidableEq, Repr

/-- One record. -/
structure Record where
  level : Level
  source : Source
  message : String
  deriving DecidableEq, Repr

/-- The name of a level. -/
def Level.name : Level → String
  | debug => "DEBUG"
  | info => "INFO"
  | warn => "WARN"

/-- The name of a part of the program. -/
def Source.name : Source → String
  | api => "client::net::api"
  | session => "client::session"
  | discovery => "client::session::discovery"
  | store => "client::session::store"

/-- A record as a line. -/
def Record.line (r : Record) : String :=
  r.level.name ++ " " ++ r.source.name ++ " " ++ r.message

end DnsConsole.Log

namespace DnsConsole

/-- Everything an operation did that can be seen from outside. -/
@[ext] structure Trace where
  requests : List Api.Request
  log : List Log.Record
  navigated : List String
  deriving DecidableEq, Repr

namespace Trace

/-- The trace of doing nothing. -/
protected def empty : Trace := ⟨[], [], []⟩

/-- The trace of one operation after another. -/
protected def append (a b : Trace) : Trace :=
  ⟨a.requests ++ b.requests, a.log ++ b.log, a.navigated ++ b.navigated⟩

instance : EmptyCollection Trace := ⟨Trace.empty⟩

instance : Append Trace := ⟨Trace.append⟩

@[simp] theorem requests_empty : (∅ : Trace).requests = [] := rfl

@[simp] theorem log_empty : (∅ : Trace).log = [] := rfl

@[simp] theorem navigated_empty : (∅ : Trace).navigated = [] := rfl

@[simp] theorem requests_append (a b : Trace) : (a ++ b).requests = a.requests ++ b.requests := rfl

@[simp] theorem log_append (a b : Trace) : (a ++ b).log = a.log ++ b.log := rfl

@[simp] theorem navigated_append (a b : Trace) : (a ++ b).navigated = a.navigated ++ b.navigated :=
  rfl

@[simp] theorem empty_append (a : Trace) : ∅ ++ a = a := by
  ext <;> simp

@[simp] theorem append_empty (a : Trace) : a ++ ∅ = a := by
  ext <;> simp

theorem append_assoc (a b c : Trace) : a ++ b ++ c = a ++ (b ++ c) := by
  ext <;> simp

end Trace

/-- A result with the trace of obtaining it. -/
structure Traced (α : Type) where
  value : α
  trace : Trace

namespace Traced

instance : Monad Traced where
  pure a := ⟨a, ∅⟩
  bind x f := ⟨(f x.value).value, x.trace ++ (f x.value).trace⟩

@[simp] theorem value_pure {α : Type} (a : α) : (pure a : Traced α).value = a := rfl

@[simp] theorem trace_pure {α : Type} (a : α) : (pure a : Traced α).trace = ∅ := rfl

@[simp] theorem value_bind {α β : Type} (x : Traced α) (f : α → Traced β) :
    (x >>= f).value = (f x.value).value := rfl

@[simp] theorem trace_bind {α β : Type} (x : Traced α) (f : α → Traced β) :
    (x >>= f).trace = x.trace ++ (f x.value).trace := rfl

end Traced

/-- Writes a log record. -/
def record (level : Log.Level) (source : Log.Source) (message : String) : Traced Unit :=
  ⟨(), ⟨[], [⟨level, source, message⟩], []⟩⟩

/-- Sends the browser to a page. -/
def navigate (path : String) : Traced Unit :=
  ⟨(), ⟨[], [], [path]⟩⟩

/-- Sends a request. -/
def send {τ : Type} [Api.Transport τ] (t : τ) (r : Api.Request) : Traced (Api.Outcome × τ) :=
  ⟨Api.Transport.get t r, ⟨[r], [], []⟩⟩

end DnsConsole
