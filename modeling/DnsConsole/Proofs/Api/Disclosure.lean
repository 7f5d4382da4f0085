import DnsConsole.Api.Auth
import DnsConsole.Proofs.Json.Unreadable
import Mathlib.Data.List.Basic

/-!
# What the log tells of an unreadable token reply

A reply of status 200 whose body holds no token is logged with the error of its decoding.  Of the digits
in the body the log tells nothing (`log_eq_of_unreadable`), with two exceptions.  The error may show a
value: a number or a text that stands where the token or the record belongs is written out, so that a
server that sends its token as a number has it logged (`log_tells_number_in_place_of_token`).  And the
digits of a Unicode escape decide which character it stands for.
-/

namespace DnsConsole.Api

open Json (Alike Front)
open Text.Decimal (isDigit)

theorem digitBlind_tokenSchema : tokenSchema.DigitBlind where
  key := by decide
  read := Json.agree_readTextField

/-- The log of an exchange whose answer holds no token. -/
theorem log_of_unreadable {body : String} {e : Json.DecodeError} (h : decodeToken body = .error e)
    (server username password : String) (more : List Outcome) :
    ((exchange server username password).run (Script.mk (.ok ⟨200, body⟩ :: more))).trace.log =
      [⟨.warn, .api,
        "token exchange with " ++ server ++ " returned an unreadable body: " ++ e.message⟩] := by
  have hresult : exchangeResult server (.ok ⟨200, body⟩) = do
      record .warn .api
        ("token exchange with " ++ server ++ " returned an unreadable body: " ++ e.message)
      return .error .network := by
    rw [exchangeResult]
    simp only [Response.isOk, h]
    rfl
  change [] ++ ((exchangeResult server (.ok ⟨200, body⟩)).trace.log ++ []) = _
  rw [hresult]
  rfl

theorem decodeToken_error {body : String} {e : Json.DecodeError} (h : decodeToken body = .error e) :
    tokenSchema.decode body = .error e := by
  unfold decodeToken at h
  cases hd : tokenSchema.decode body with
  | error e' =>
    rw [hd] at h
    cases h
    rfl
  | ok token =>
    rw [hd] at h
    cases h

/-- **The log of an unreadable reply tells nothing of the digits in its body**, unless the error shows
a value or the digits belong to a Unicode escape. -/
theorem log_eq_of_unreadable (server username password a b d d' : String) (more : List Outcome)
    {e e' : Json.DecodeError} (hlength : d.length = d'.length)
    (hd : ∀ c ∈ d.toList, isDigit c = true) (hd' : ∀ c ∈ d'.toList, isDigit c = true)
    (hzero : d.toList.head? ≠ some '0') (hzero' : d'.toList.head? ≠ some '0')
    (he : decodeToken (a ++ d ++ b) = .error e) (he' : decodeToken (a ++ d' ++ b) = .error e')
    (hplace : ((Front.plain false).behind a.toList).isUnicode = false)
    (hshow : e.cause.showsValue = false) :
    ((exchange server username password).run
        (Script.mk (.ok ⟨200, a ++ d ++ b⟩ :: more))).trace.log =
      ((exchange server username password).run
        (Script.mk (.ok ⟨200, a ++ d' ++ b⟩ :: more))).trace.log := by
  have halike : Alike (.plain false) (a ++ d ++ b).toList (a ++ d' ++ b).toList := by
    rw [String.toList_append, String.toList_append, String.toList_append, String.toList_append,
      List.append_assoc, List.append_assoc]
    exact Alike.block hplace hlength hd hd' hzero hzero'
  have hsame : e = e' :=
    digitBlind_tokenSchema.error_eq halike (decodeToken_error he) (decodeToken_error he') hshow
  rw [log_of_unreadable he, log_of_unreadable he', hsame]

/-- A token that is cut short stays out of the log. -/
theorem log_eq_of_token_cut_short :
    ((exchange "http://dns.test" "admin" "secret").run
        (Script.mk [.ok ⟨200, "\x7b\"token\":\"" ++ "1734" ++ ""⟩])).trace.log =
      ((exchange "http://dns.test" "admin" "secret").run
        (Script.mk [.ok ⟨200, "\x7b\"token\":\"" ++ "5209" ++ ""⟩])).trace.log :=
  have he : decodeToken ("\x7b\"token\":\"" ++ "1734" ++ "") = .error ⟨.endOf .string, 1, 14⟩ := by
    decide +kernel
  have he' : decodeToken ("\x7b\"token\":\"" ++ "5209" ++ "") = .error ⟨.endOf .string, 1, 14⟩ := by
    decide +kernel
  log_eq_of_unreadable "http://dns.test" "admin" "secret" "\x7b\"token\":\"" "" "1734" "5209" [] rfl
    (List.all_eq_true.mp (by decide +kernel)) (List.all_eq_true.mp (by decide +kernel))
    (by decide +kernel) (by decide +kernel) he he'
    (by decide +kernel) rfl

/-- A number that stands in place of the token is logged. -/
theorem log_tells_number_in_place_of_token :
    ¬ ∀ (server username password a b d d' : String) (e e' : Json.DecodeError),
      d.length = d'.length → (∀ c ∈ d.toList, isDigit c = true) →
      (∀ c ∈ d'.toList, isDigit c = true) →
      d.toList.head? ≠ some '0' → d'.toList.head? ≠ some '0' →
      decodeToken (a ++ d ++ b) = .error e → decodeToken (a ++ d' ++ b) = .error e' →
      ((exchange server username password).run
          (Script.mk [.ok ⟨200, a ++ d ++ b⟩])).trace.log =
        ((exchange server username password).run
          (Script.mk [.ok ⟨200, a ++ d' ++ b⟩])).trace.log := by
  intro h
  have he : decodeToken ("\x7b\"token\":" ++ "111111" ++ "\x7d") =
      .error ⟨.wrongType (.integer 111111) "a string", 1, 15⟩ := by decide +kernel
  have he' : decodeToken ("\x7b\"token\":" ++ "222222" ++ "\x7d") =
      .error ⟨.wrongType (.integer 222222) "a string", 1, 15⟩ := by decide +kernel
  have hlog := h "http://dns.test" "admin" "secret" "\x7b\"token\":" "\x7d" "111111" "222222" _ _ rfl
    (List.all_eq_true.mp (by decide +kernel)) (List.all_eq_true.mp (by decide +kernel))
    (by decide +kernel) (by decide +kernel) he he'
  rw [log_of_unreadable he, log_of_unreadable he'] at hlog
  revert hlog
  decide +kernel

/-- The digits of a Unicode escape decide what comes of it: here the first half of a pair, and a
character. -/
example :
    decodeToken ("\x7b\"token\":\"\\ud" ++ "800" ++ "\"") = .error ⟨.unfinishedPair, 1, 17⟩ ∧
      decodeToken ("\x7b\"token\":\"\\ud" ++ "111" ++ "\"") = .error ⟨.endOf .object, 1, 17⟩ := by
  decide +kernel

end DnsConsole.Api
