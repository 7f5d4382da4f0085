import DnsConsole.Proofs.Login.Form
import DnsConsole.Proofs.Text.Base64

/-!
# Blanks around the fields of a form

Blanks around the server and the username are lost before anything is made of a form
(`validate_pad`), so that all that comes of it is the same; blanks around the password are part of it
and are sent (`submit_pad`).  A blank field is an empty one, and a form with an empty field does nothing.
-/

namespace DnsConsole

namespace Login

theorem trim_pad {w v : String} (hw : IsBlank w) (hv : IsBlank v) (s : String) :
    Text.trim (w ++ s ++ v) = Text.trim s := by
  rw [Text.trim, Text.trim, String.toList_append, String.toList_append, Text.trimChars_pad hw hv]

theorem validate_pad {w₁ w₂ w₃ w₄ : String} (h₁ : IsBlank w₁) (h₂ : IsBlank w₂) (h₃ : IsBlank w₃)
    (h₄ : IsBlank w₄) (server username password : String) :
    validate (w₁ ++ server ++ w₂) (w₃ ++ username ++ w₄) password =
      validate server username password := by
  unfold validate
  rw [trim_pad h₁ h₂, trim_pad h₃ h₄]

/-- What the form has taken it takes again as it is. -/
theorem validate_of_validate {server username password : String} {k : Credentials}
    (h : validate server username password = .ok k) :
    validate k.server k.username k.password = .ok k := by
  cases Session.validate_ok h
  rw [Session.validate_eq] at h ⊢
  rwa [trim_trim, trim_trim]

end Login

namespace Session

open Login (IsBlank)

variable {σ τ : Type} [Storage σ] [Api.Transport τ]

theorem start_submit_pad {w₁ w₂ w₃ w₄ : String} (h₁ : IsBlank w₁) (h₂ : IsBlank w₂) (h₃ : IsBlank w₃)
    (h₄ : IsBlank w₄) (server username password : String) (s : σ) :
    start s (.submit (w₁ ++ server ++ w₂) (w₃ ++ username ++ w₄) password) =
      start s (.submit server username password) := by
  simp only [start, Login.validate_pad h₁ h₂ h₃ h₄]

/-- A form that is taken is sent with the password as it was typed. -/
theorem sent_of_validate {server username password : String} {k : Login.Credentials}
    (h : Login.validate server username password = .ok k) (c : Client σ τ) :
    ∃ text, ((Step.submit server username password).run c).trace.requests =
        [⟨Api.endpoint (Text.trim server) "/1/auth_token", some ("Basic " ++ String.ofList text)⟩] ∧
      Text.Base64.decode? text =
        some (Text.Utf8.encode (Text.trim username ++ ":" ++ password).toList) := by
  cases validate_ok h
  exact ⟨_, requests_submit h c, Text.Base64.decode?_encode _⟩

/-- **Blanks around the server and the username change nothing**, of the answer, the requests, the
records, the storage and the transport.  A form with a blank field or without a password is refused: it
does nothing and leaves everything as it is.  Every other form is sent, and behind the username and a
colon the header carries the password as it was typed.  What the form has taken it takes again as it is. -/
theorem submit_pad {w₁ w₂ w₃ w₄ : String} (h₁ : IsBlank w₁) (h₂ : IsBlank w₂) (h₃ : IsBlank w₃)
    (h₄ : IsBlank w₄) (server username password : String) (c : Client σ τ) :
    (Step.submit (w₁ ++ server ++ w₂) (w₃ ++ username ++ w₄) password).run c =
      (Step.submit server username password).run c ∧
    (IsBlank server ∨ IsBlank username ∨ password = "" →
      (Step.submit server username password).run c = pure (.refused .missingFields, c)) ∧
    (¬ (IsBlank server ∨ IsBlank username ∨ password = "") →
      ∃ text, ((Step.submit server username password).run c).trace.requests =
          [⟨Api.endpoint (Text.trim server) "/1/auth_token", some ("Basic " ++ String.ofList text)⟩] ∧
        Text.Base64.decode? text =
          some (Text.Utf8.encode (Text.trim username ++ ":" ++ password).toList)) ∧
    ∀ k, Login.validate server username password = .ok k →
      Login.validate k.server k.username k.password = .ok k := by
  refine ⟨?_, fun h => ?_, fun h => ?_, fun k => Login.validate_of_validate⟩
  · rw [Step.run, Step.run, start_submit_pad h₁ h₂ h₃ h₄]
  · exact run_submit_of_error (Login.validate_eq_error_iff.mpr h) c
  · cases hv : Login.validate server username password with
    | error e => exact absurd (Login.validate_eq_error_iff.mp hv) h
    | ok k => exact sent_of_validate hv c

/-- A client for whose next request a token comes. -/
def welcomed : Client Entries Api.Script :=
  ⟨.empty, ⟨[.ok ⟨200, "\x7b\"token\":\"t\"\x7d"⟩]⟩⟩

/-- Blanks of many kinds are put around the fields of a form that holds blanks, and around the fields of
one whose username is blank. -/
theorem submit_pad_of_wide_blanks :
    IsBlank "\u2003\t" ∧ IsBlank "\n" ∧ IsBlank "\u3000" ∧ IsBlank "\u0085" ∧
    ((Step.submit ("\u2003\t" ++ "http://a.test/" ++ "\n") ("\u3000" ++ "ad min" ++ "\u0085") " p ").run
        welcomed).trace.requests =
      [⟨"http://a.test/1/auth_token", some "Basic YWQgbWluOiBwIA=="⟩] ∧
    (Step.submit ("\u2003\t" ++ "http://a.test/" ++ "\n") ("\u3000" ++ "\n" ++ "\u0085") " p ").run
        welcomed = pure (.refused .missingFields, welcomed) := by
  have h₁ : IsBlank "\u2003\t" := List.all_eq_true.mp (by decide)
  have h₂ : IsBlank "\n" := List.all_eq_true.mp (by decide)
  have h₃ : IsBlank "\u3000" := List.all_eq_true.mp (by decide)
  have h₄ : IsBlank "\u0085" := List.all_eq_true.mp (by decide)
  refine ⟨h₁, h₂, h₃, h₄, ?_, ?_⟩
  · rw [(submit_pad h₁ h₂ h₃ h₄ "http://a.test/" "ad min" " p " welcomed).1]
    decide +kernel
  · obtain ⟨hpad, hrefused, -⟩ := submit_pad h₁ h₂ h₃ h₄ "http://a.test/" "\n" " p " welcomed
    exact hpad.trans (hrefused (Or.inr (Or.inl h₂)))

end Session

end DnsConsole
