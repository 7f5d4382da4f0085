import DnsConsole.Proofs.Session.Effect
import DnsConsole.Proofs.Text.Blank

/-!
# What the login form takes

A field is blank if nothing is left of it by trimming.  A server that is not empty and has no blank at
either end is taken as it stands (`validate_of_acceptable`), and it lands in a server field that is
still blank (`prefill?_of_blank`).  A form with a blank field or without a password is refused and no
other (`validate_eq_error_iff`); one that is taken is sent as one request (`requests_submit`).
-/

namespace DnsConsole

namespace Login

/-- A text that the form takes as a server as it stands. -/
structure Acceptable (server : String) : Prop where
  nonempty : server ≠ ""
  trimmed : Text.Trimmed server.toList

theorem trim_eq_self {s : String} (h : Text.Trimmed s.toList) : Text.trim s = s := by
  rw [Text.trim, Text.trimChars_eq_self_iff.mpr h, String.ofList_toList]

theorem trim_eq_empty_iff {s : String} :
    Text.trim s = "" ↔ ∀ c ∈ s.toList, Text.isBlank c = true := by
  rw [← Text.trimChars_eq_nil_iff, ← Text.toList_trim, String.toList_eq_nil_iff]

theorem prefill?_of_blank {current : String} (h : ∀ c ∈ current.toList, Text.isBlank c = true)
    (discovered : String) : prefill? current discovered = some discovered := by
  rw [prefill?, trim_eq_empty_iff.mpr h]
  rfl

theorem validate_of_acceptable {server username password : String} (h : Acceptable server)
    (husername : ∃ c ∈ username.toList, Text.isBlank c = false) (hpassword : password ≠ "") :
    validate server username password = .ok ⟨server, Text.trim username, password⟩ := by
  have hname : Text.trim username ≠ "" := by
    obtain ⟨c, hc, hblank⟩ := husername
    intro hempty
    rw [trim_eq_empty_iff.mp hempty c hc] at hblank
    cases hblank
  rw [Session.validate_eq, trim_eq_self h.trimmed, if_neg]
  rintro (hempty | hempty | hempty)
  · exact h.nonempty hempty
  · exact hname hempty
  · exact hpassword hempty

theorem trim_trim (s : String) : Text.trim (Text.trim s) = Text.trim s :=
  trim_eq_self (Text.toList_trim s ▸ Text.trimmed_trimChars s.toList)

/-- A text of nothing but blanks. -/
def IsBlank (s : String) : Prop :=
  ∀ c ∈ s.toList, Text.isBlank c = true

theorem validate_eq_error_iff {server username password : String} :
    validate server username password = .error .missingFields ↔
      IsBlank server ∨ IsBlank username ∨ password = "" := by
  rw [IsBlank, IsBlank, ← trim_eq_empty_iff, ← trim_eq_empty_iff, Session.validate_eq]
  split
  next h => exact ⟨fun _ => h, fun _ => rfl⟩
  next h => exact ⟨fun hok => (nomatch hok), fun hmissing => absurd hmissing h⟩

end Login

namespace Session

variable {σ τ : Type} [Storage σ] [Api.Transport τ] {server username password : String}

theorem requests_submit {k : Login.Credentials}
    (h : Login.validate server username password = .ok k) (c : Client σ τ) :
    ((Step.submit server username password).run c).trace.requests =
      [Api.exchangeRequest k.server k.username k.password] := by
  rw [Step.run, requests_run (does_start (.submit server username password) c.storage)]
  simp only [start, h]
  rfl

/-- A form that is refused changes nothing and is seen by nobody. -/
theorem run_submit_of_error {e : Login.FormError}
    (h : Login.validate server username password = .error e) (c : Client σ τ) :
    (Step.submit server username password).run c = pure (.refused e, c) := by
  unfold Step.run
  simp only [start, h]
  rfl

end Session

end DnsConsole
