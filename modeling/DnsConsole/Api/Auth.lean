import DnsConsole.Api.Call
import DnsConsole.Text.Base64

/-!
# Authentication calls

A control server answers two calls of the console.  `exchange` turns a username and a password into a
token: any status but 200 means that they were wrong, and a failed request or a body without a token
is a network error.  `liveness` asks whether a token is still accepted: exactly a response of
status 200 says so.  Neither is tried twice.
-/

namespace DnsConsole.Api

/-- The header that carries a username and a password. -/
def basicHeader (username password : String) : String :=
  "Basic " ++
    String.ofList (Text.Base64.encode (Text.Utf8.encode (username ++ ":" ++ password).toList))

/-- The header that carries a token. -/
def bearerHeader (token : String) : String :=
  "Bearer " ++ token

/-- A text without the slashes at its end. -/
def dropSlashes (cs : List Char) : List Char :=
  (cs.reverse.dropWhile (· == '/')).reverse

/-- The URL of a path on a server; slashes at the end of the server's origin do not matter. -/
def endpoint (origin path : String) : String :=
  String.ofList (dropSlashes origin.toList) ++ path

/-- Why a login failed. -/
inductive LoginError
  | invalidCredentials
  | network
  deriving DecidableEq, Repr

/-- An error as it is shown under the login form. -/
def LoginError.message : LoginError → String
  | invalidCredentials => "Invalid username or password"
  | network => "Network error"

/-- Where a server exchanges credentials for a token. -/
def tokenPath : String := "/1/auth_token"

/-- Where a server answers to a token that it accepts. -/
def runPath : String := "/1/run"

/-- The request that carries credentials to a server. -/
def exchangeRequest (server username password : String) : Request :=
  ⟨endpoint server tokenPath, some (basicHeader username password)⟩

/-- The token in what a server answered to credentials. -/
def exchangeResult (server : String) : Outcome → Traced (Except LoginError String)
  | .error e => do
    record .warn .api ("token exchange with " ++ server ++ " failed: " ++ e.message)
    return .error .network
  | .ok response =>
    if !response.isOk then do
      record .info .api ("token exchange with " ++ server ++ " rejected: status " ++
        Text.Decimal.text response.status.toNat)
      return .error .invalidCredentials
    else
      match decodeToken response.body with
      | .error e => do
        record .warn .api
          ("token exchange with " ++ server ++ " returned an unreadable body: " ++ e.message)
        return .error .network
      | .ok token => return .ok token

/-- The call that exchanges credentials for a token. -/
def exchange (server username password : String) : Call (Except LoginError String) where
  request := exchangeRequest server username password
  receive := exchangeResult server

/-- The request that carries a token to a server. -/
def livenessRequest (server token : String) : Request :=
  ⟨endpoint server runPath, some (bearerHeader token)⟩

/-- Whether a server answered that it accepts a token. -/
def livenessResult (server : String) : Outcome → Traced Bool
  | .ok response => do
    record .debug .api ("liveness check against " ++ server ++ ": status " ++
      Text.Decimal.text response.status.toNat)
    return response.isOk
  | .error e => do
    record .debug .api ("liveness check against " ++ server ++ " failed: " ++ e.message)
    return false

/-- The call that asks whether a token is still accepted. -/
def liveness (server token : String) : Call Bool where
  request := livenessRequest server token
  receive := livenessResult server

end DnsConsole.Api
