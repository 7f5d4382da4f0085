import DnsConsole.Discovery.Lookup
import DnsConsole.Session.Basic
import DnsConsole.Session.Storage

/-!
# Runs of a session

A run of a session is a list of steps.  Most of them are what the screens of the console do; some look
at the storage or call a server directly.  `start` says what a step does, and `run` does the
steps one after the other and keeps for each its answer, its trace and the state after it.
-/

namespace DnsConsole.Session

/-- One step of a run. -/
inductive Step
  | isLoggedIn
  | screen
  | login (credentials : Login.Credentials)
  | submit (server username password : String)
  | logout
  | save (server token : String)
  | clear
  | insert (key value : String)
  | erase (key : String)
  | server
  | token
  | get (key : String)
  | exchange (credentials : Login.Credentials)
  | liveness (server token : String)
  | lookup (discoveryUrl pageUrl : String)
  | discover (settings : Discovery.Settings) (pageUrl : String)
  | fetch (request : Api.Request)
  deriving Repr

/-- What a step answers. -/
inductive Answer
  | done
  | alive (b : Bool)
  | screen (status : Status)
  | login (r : Except Api.LoginError Unit)
  | refused (e : Login.FormError)
  | value (v : Option String)
  | token (r : Except Api.LoginError String)
  | server (r : Except Discovery.LookupError String)
  | proposal (server : String)
  | outcome (o : Api.Outcome)

section

variable {σ : Type} [Storage σ]

/-- A step that changes nothing and is seen by nobody. -/
def Action.read (answer : Answer) : Action σ Answer :=
  .now fun s => pure (answer, s)

/-- A step that changes the storage and is seen by nobody. -/
def Action.write (f : σ → σ) : Action σ Answer :=
  .now fun s => pure (.done, f s)

/-- What a step does in a storage. -/
def start (s : σ) : Step → Action σ Answer
  | .isLoggedIn => (livenessCheck s).map .alive
  | .screen => (livenessCheck s).map fun alive => .screen (.ofLiveness alive)
  | .login credentials => (Session.login credentials).map .login
  | .submit server username password =>
    match Login.validate server username password with
    | .error e => .read (.refused e)
    | .ok credentials => (Session.login credentials).map .login
  | .logout => Session.logout.map fun _ => .done
  | .save server token => .write (Session.save · server token)
  | .clear => .write Session.clear
  | .insert key value => .write (Storage.insert · key value)
  | .erase key => .write (Storage.erase · key)
  | .server => .read (.value (server? s))
  | .token => .read (.value (token? s))
  | .get key => .read (.value (Storage.get? s key))
  | .exchange c => (Action.ofCall (Api.exchange c.server c.username c.password)).map .token
  | .liveness server token => (Action.ofCall (Api.liveness server token)).map .alive
  | .lookup discoveryUrl pageUrl =>
    (Action.ofCall (Discovery.lookup discoveryUrl pageUrl)).map .server
  | .discover settings pageUrl =>
    (Action.ofCall (Discovery.discover settings pageUrl)).map .proposal
  | .fetch request => (Action.ofCall (.plain request)).map .outcome

/-- Does one step. -/
def Step.run {τ : Type} [Api.Transport τ] (step : Step) (c : Client σ τ) :
    Traced (Answer × Client σ τ) :=
  (start c.storage step).run c

end

/-- What is seen of one step: its answer and trace, and the storage after it. -/
structure Sight (σ : Type) where
  answer : Answer
  trace : Trace
  storage : σ

/-- Does the steps in order. -/
def run {σ τ : Type} [Storage σ] [Api.Transport τ] : Client σ τ → List Step → List (Sight σ)
  | _, [] => []
  | c, step :: steps =>
    let r := step.run c
    ⟨r.value.1, r.trace, r.value.2.storage⟩ :: run r.value.2 steps

/-- Does the steps in order over a script that grows: each step comes with the outcomes that are put
at the end of the script before it. -/
def runScripted {σ : Type} [Storage σ] :
    Client σ Api.Script → List (List Api.Outcome × Step) → List (Sight σ)
  | _, [] => []
  | c, (more, step) :: steps =>
    let r := step.run { c with transport := c.transport.append more }
    ⟨r.value.1, r.trace, r.value.2.storage⟩ :: runScripted r.value.2 steps

end DnsConsole.Session
