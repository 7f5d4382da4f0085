import DnsConsole.Page.Markup
import DnsConsole.Text.Pieces

/-!
# The login form

The form asks for a server, a username and a password.  The first two are taken without the blanks
around them and the password exactly as typed; all three are needed.  A discovered server only lands in
a server field that is still blank.  `Page.login` is the form as the server writes it before any script
runs: the fields are empty, nothing is loading and no error is shown.
-/

namespace DnsConsole.Login

/-- What a filled form holds. -/
structure Credentials where
  server : String
  username : String
  password : String
  deriving DecidableEq, Repr

/-- A form with a field left empty. -/
inductive FormError
  | missingFields
  deriving DecidableEq, Repr

/-- An error as it is shown under the form. -/
def FormError.message : FormError → String
  | missingFields => "Enter server URL, username and password."

/-- The credentials in the fields of the form. -/
def validate (server username password : String) : Except FormError Credentials :=
  let server := Text.trim server
  let username := Text.trim username
  if server.isEmpty || username.isEmpty || password.isEmpty then .error .missingFields
  else .ok ⟨server, username, password⟩

/-- What a discovered server puts into the server field. -/
def prefill? (current discovered : String) : Option String :=
  if (Text.trim current).isEmpty then some discovered else none

/-- What the button of the form says. -/
def submitLabel (loading : Bool) : String :=
  if loading then "Logging in..." else "Login"

end DnsConsole.Login

namespace DnsConsole.Page

/-- A field of the login form. -/
def field (label kind : String) : Node :=
  classed "label" "login-label"
    [.text label, .void "input" [.value "type" kind, .bare "required", .value "class" "login-input"]]

/-- The place of the form's error while there is none. -/
def noError : List Node :=
  [.marker, .comment "<() />"]

/-- The button that submits the form. -/
def submitButton : Node :=
  .element "button" [.value "type" "submit", .value "class" "login-button"]
    [.text (Login.submitLabel false)]

/-- The login screen. -/
def login : Node :=
  classed "div" "login-page"
    [classed "div" "login-card"
      [classed "h2" "login-card__title" [.text "Argo DNS Login"],
        classed "form" "login-form"
          ([field "Server URL" "text", field "Username" "text", field "Password" "password"] ++
            noError ++ [submitButton])]]

end DnsConsole.Page
