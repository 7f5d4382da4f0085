import DnsConsole.Api.Auth
import DnsConsole.Proofs.Login.Form
import DnsConsole.Proofs.Text.Base64
import DnsConsole.Proofs.Text.Pieces
import DnsConsole.Proofs.Text.Utf8

/-!
# Credentials in a header, and forms that are sent alike

A server takes a username and a password out of the header that carries them by undoing what was done
to put them in: it reads the base64 text behind `Basic `, reads the bytes as UTF-8, and cuts the text at
its first colon.  The first two give back what was put in for every username and password, and the
last exactly for a username without a colon (`basicHeader_undone`).  So of a username and a password the
header keeps the text that they make together and nothing else (`basicHeader_inj`).

The form takes every username that is not blank.  A colon in a username can therefore stand where another
form ends its username, and then the two are sent alike (`sent_alike_iff`).  Nothing else is: of two
usernames with as many colons each is told from the other.
-/

namespace DnsConsole

namespace Api

/-- A header tells no more of a username and a password than the text that they make together. -/
theorem basicHeader_inj {username password username' password' : String} :
    basicHeader username password = basicHeader username' password' ↔
      username.toList ++ ':' :: password.toList = username'.toList ++ ':' :: password'.toList := by
  have hcolon : ":".toList = [':'] := rfl
  rw [basicHeader, basicHeader, String.append_right_inj, String.ofList_inj, Text.Base64.encode_inj,
    Text.Utf8.encode_inj]
  simp only [String.toList_append, hcolon, List.append_assoc, List.singleton_append]

/-- **The header that carries credentials can be undone**, and they are told apart in it exactly if the
username holds no colon. -/
theorem basicHeader_undone (username password : String) :
    ∃ text decoded, basicHeader username password = "Basic " ++ String.ofList text ∧
      Text.Base64.IsPadded text ∧
      Text.Base64.decode? text = some (Text.Utf8.encode (username ++ ":" ++ password).toList) ∧
      Text.Utf8.decode? (Text.Utf8.encode (username ++ ":" ++ password).toList) = some decoded ∧
      (Text.cut ':' decoded = (username.toList, some password.toList) ↔ ':' ∉ username.toList) := by
  have htext : (username ++ ":" ++ password).toList = username.toList ++ ':' :: password.toList := by
    rw [String.toList_append, String.toList_append, List.append_assoc]
    rfl
  refine ⟨_, _, rfl, Text.Base64.isPadded_encode _, Text.Base64.decode?_encode _,
    Text.Utf8.decode?_encode _, ?_⟩
  rw [htext]
  exact Text.cut_append_iff

end Api

namespace Login

/-- The same text cut at a later colon: the username goes on with a colon and the front of the password
up to the next colon. -/
def Credentials.CutLater (k k' : Credentials) : Prop :=
  ∃ r, k'.username.toList = k.username.toList ++ ':' :: r ∧
    k.password.toList = r ++ ':' :: k'.password.toList

theorem Credentials.CutLater.count_lt {k k' : Credentials} (h : k.CutLater k') :
    k.username.toList.count ':' < k'.username.toList.count ':' := by
  obtain ⟨r, husername, -⟩ := h
  rw [husername, List.count_append, List.count_cons_self]
  omega

/-- What two credentials of one server have in common when the same is sent of them. -/
theorem exchangeRequest_eq_iff {k k' : Credentials} (h : k.server = k'.server) :
    Api.exchangeRequest k.server k.username k.password =
        Api.exchangeRequest k'.server k'.username k'.password ↔
      k = k' ∨ k.CutLater k' ∨ k'.CutLater k := by
  obtain ⟨server, username, password⟩ := k
  obtain ⟨server', username', password'⟩ := k'
  obtain rfl : server = server' := h
  simp only [Api.exchangeRequest, Api.Request.mk.injEq, Option.some.injEq, true_and,
    Api.basicHeader_inj, Text.append_cons_eq_append_cons_iff, String.toList_inj,
    Credentials.mk.injEq, Credentials.CutLater]

end Login

namespace Session

variable {σ τ : Type} [Storage σ] [Api.Transport τ]

section

variable {server username password server' username' password' : String} {k k' : Login.Credentials}
  (h : Login.validate server username password = .ok k)
  (h' : Login.validate server' username' password' = .ok k')
include h h'

theorem requests_submit_eq_iff (hserver : k.server = k'.server) (c c' : Client σ τ) :
    ((Step.submit server username password).run c).trace.requests =
        ((Step.submit server' username' password').run c').trace.requests ↔
      (Text.trim username = Text.trim username' ∧ password = password') ∨
        k.CutLater k' ∨ k'.CutLater k := by
  rw [requests_submit h, requests_submit h', List.singleton_inj,
    Login.exchangeRequest_eq_iff hserver]
  cases validate_ok h
  cases validate_ok h'
  obtain hserver : Text.trim server = Text.trim server' := hserver
  rw [Login.Credentials.mk.injEq, hserver, eq_self, true_and]

/-- **Two forms are sent alike exactly if they are the same or differ in where a colon ends the
username.**  So if their usernames hold as many colons, as when neither holds one, they have the same
username and the same password. -/
theorem sent_alike_iff (hserver : k.server = k'.server) (c c' : Client σ τ) :
    (((Step.submit server username password).run c).trace.requests =
        ((Step.submit server' username' password').run c').trace.requests ↔
      (Text.trim username = Text.trim username' ∧ password = password') ∨
        k.CutLater k' ∨ k'.CutLater k) ∧
    ((Text.trim username).toList.count ':' = (Text.trim username').toList.count ':' →
      ((Step.submit server username password).run c).trace.requests =
        ((Step.submit server' username' password').run c').trace.requests →
      Text.trim username = Text.trim username' ∧ password = password') := by
  refine ⟨requests_submit_eq_iff h h' hserver c c', fun hcount hrequests => ?_⟩
  have hcases := (requests_submit_eq_iff h h' hserver c c').mp hrequests
  cases validate_ok h
  cases validate_ok h'
  rcases hcases with hsame | hlater | hlater
  · exact hsame
  · exact absurd hcount hlater.count_lt.ne
  · exact absurd hcount hlater.count_lt.ne'

end

/-- A client that has not logged in. -/
def newcomer : Client Entries Api.Script :=
  ⟨.empty, ⟨[]⟩⟩

/-- A form is sent like one whose username goes on behind a colon; of two forms with the same colons only
the blanks around the username differ. -/
theorem sent_alike_of_moved_colon :
    ((Step.submit " http://dns.test" "a" "b:c").run newcomer).trace.requests =
      ((Step.submit "http://dns.test\t" "a:b " "c").run newcomer).trace.requests ∧
    (Text.trim "a:b " = Text.trim "a:b" ∧ "c" = "c") := by
  have h : Login.validate " http://dns.test" "a" "b:c" = .ok ⟨"http://dns.test", "a", "b:c"⟩ := by
    decide +kernel
  have hlater : Login.validate "http://dns.test\t" "a:b " "c" =
      .ok ⟨"http://dns.test", "a:b", "c"⟩ := by decide +kernel
  have hbare : Login.validate "http://dns.test" "a:b" "c" = .ok ⟨"http://dns.test", "a:b", "c"⟩ := by
    decide +kernel
  exact ⟨(sent_alike_iff h hlater rfl newcomer newcomer).1.mpr (Or.inr (Or.inl ⟨['b'], rfl, rfl⟩)),
    (sent_alike_iff hlater hbare rfl newcomer newcomer).2 (by decide +kernel) (by decide +kernel)⟩

/-- The form lets through a username with a colon that is taken for the end of another one. -/
theorem colon_in_username_not_told_apart :
    ¬ ∀ (c : Client Entries Api.Script) (server username password server' username' password' : String)
      (k k' : Login.Credentials), Login.validate server username password = .ok k →
        Login.validate server' username' password' = .ok k' → k.server = k'.server →
        ((Step.submit server username password).run c).trace.requests =
          ((Step.submit server' username' password').run c).trace.requests →
        Text.trim username = Text.trim username' ∧ password = password' := by
  intro h
  have hsame := h newcomer "http://dns.test" "a" "b:c" "http://dns.test" "a:b" "c"
    ⟨"http://dns.test", "a", "b:c"⟩ ⟨"http://dns.test", "a:b", "c"⟩ (by decide +kernel)
    (by decide +kernel) rfl (by decide +kernel)
  exact absurd hsame.2 (by decide)

end Session

end DnsConsole
