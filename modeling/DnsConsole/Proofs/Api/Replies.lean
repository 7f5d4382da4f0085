import DnsConsole.Api.Call
import DnsConsole.Proofs.Json.Fields
import DnsConsole.Proofs.Session.Liveness

/-!
# Replies that are understood, and replies that are written

The two replies are the records of the grammar with their own key and their own kind of value
(`decoded_iff_isRecord`).  What holds of every record has been proved for every schema; here the two
schemas are shown to read what their grammar says.

What is written for a text is one of the strings that spell it (`spells_encode`), whichever of the three
ways a character is shown in, so that a token that is written is decoded again
(`decodeToken_encodeToken`).  Written tokens are thus told apart by their texts, and a body that is
answered to a login with a written token leaves just this token in the storage: `round_trip`.  The digits
of a port are a number that spells it, so that a port comes back as well (`decodePort_encodePort`).
-/

namespace DnsConsole

/-! ### What is decoded -/

namespace Api

open Json (IsBlank IsText IsPort IsRecord)

theorem reads_tokenSchema : tokenSchema.Reads IsText where
  start := by
    rintro w text ⟨x, -, rfl⟩
    exact ⟨'"', x ++ ['"'], rfl, rfl, by decide⟩
  sound h := Json.readTextField_eq_ok_iff.mp h
  complete ha hw _ := Json.readTextField_eq_ok_iff.mpr ⟨_, _, ha, hw, rfl⟩

theorem reads_portSchema : portSchema.Reads IsPort where
  start := by
    rintro w port ⟨hw, -⟩
    obtain ⟨c, t, rfl, hc⟩ := hw.head
    exact ⟨c, t, rfl, Json.isSpace_of_isDigit hc, Json.ne_of_isDigit hc rfl⟩
  sound h := Json.exists_of_readPortField h
  complete ha hw hr := Json.readPortField_append ha hw hr

theorem decode_eq_ok_iff {α : Type} {s : Json.Schema α} {body : String} {v : α} :
    s.decode body = .ok v ↔ s.decodeChars body.toList = .ok v := by
  unfold Json.Schema.decode
  cases s.decodeChars body.toList <;> simp [Except.mapError]

theorem decodeToken_eq_ok_iff {body token : String} :
    decodeToken body = .ok token ↔ IsRecord "token".toList IsText token.toList body.toList := by
  have hmap : decodeToken body = .ok token ↔ tokenSchema.decode body = .ok token.toList := by
    unfold decodeToken
    rcases tokenSchema.decode body with e | text
    · simp [Except.map]
    · simp [Except.map, ← String.toList_inj]
  rw [hmap, decode_eq_ok_iff]
  exact reads_tokenSchema.decodeChars_eq_ok_iff

theorem decodePort_eq_ok_iff {body : String} {port : UInt16} :
    decodePort body = .ok port ↔ IsRecord "port".toList IsPort port body.toList :=
  decode_eq_ok_iff.trans reads_portSchema.decodeChars_eq_ok_iff

/-- **What is decoded is the wire format**: a body gives a token or a port exactly if it is a record with
the key and a value of it. -/
theorem decoded_iff_isRecord (body : String) :
    (∀ token, decodeToken body = .ok token ↔
      IsRecord "token".toList IsText token.toList body.toList) ∧
    (∀ port, decodePort body = .ok port ↔
      IsRecord "port".toList IsPort port body.toList) :=
  ⟨fun _ => decodeToken_eq_ok_iff, fun _ => decodePort_eq_ok_iff⟩

/-- The key and the token may be written with escapes. -/
example :
    decodeToken "\x7b \"t\\u006fken\": \"\\ud83d\\ude00\" \x7d" =
      .ok (String.singleton (Char.ofNat 0x1F600)) := by
  decide +kernel

end Api

/-! ### What is written -/

namespace Json

/-- The digits of a control character. -/
theorem fourHex_pair {n : ℕ} (h : n < 256) : FourHex ('0' :: '0' :: Text.Hex.pair n.toUInt8) n := by
  have hn : n.toUInt8.toNat = n := UInt8.toNat_ofNat_of_lt' h
  have hdigit : ∀ {d : ℕ}, d < 16 → IsHexDigit d.digitChar d := fun hd => ⟨hd, Or.inl rfl⟩
  have hzero : IsHexDigit '0' 0 := hdigit (d := 0) (by decide)
  have hfour := FourHex.mk hzero hzero (hdigit (show n / 16 < 16 by omega))
    (hdigit (show n % 16 < 16 by omega))
  have hvalue : 0 * 4096 + 0 * 256 + n / 16 * 16 + n % 16 = n := by omega
  rw [hvalue] at hfour
  unfold Text.Hex.pair
  rwa [hn]

/-- What is written for a character spells it. -/
theorem spells_encodeChar (c : Char) {w text : List Char} (hw : Spells w text) :
    Spells (encodeChar c ++ w) (c :: text) := by
  unfold encodeChar
  split
  · exact .escape (.short .quote) hw
  · exact .escape (.short .backslash) hw
  · exact .escape (.short .backspace) hw
  · exact .escape (.short .formFeed) hw
  · exact .escape (.short .lineFeed) hw
  · exact .escape (.short .carriageReturn) hw
  · exact .escape (.short .tab) hw
  next hquote hbackslash _ _ _ _ _ =>
    split
    next hcontrol =>
      have hfour := fourHex_pair (Nat.lt_trans hcontrol (by decide))
      have hn : ¬ IsSurrogate c.toNat := fun h => by
        unfold IsSurrogate at h
        omega
      have hescape := Escape.unicode hfour hn
      rw [Char.ofNat_toNat] at hescape
      exact .escape hescape hw
    next hcontrol => exact .plain ⟨hquote, hbackslash, Nat.le_of_not_lt hcontrol⟩ hw

theorem spells_encode (text : List Char) : Spells (text.flatMap encodeChar) text := by
  induction text with
  | nil => exact .nil
  | cons c text ih => exact spells_encodeChar c ih

theorem isText_encodeText (text : List Char) : IsText (encodeText text) text :=
  ⟨_, spells_encode text, rfl⟩

/-- The digits of a port are a port. -/
theorem isPort_digits (port : UInt16) : IsPort (Text.Decimal.digits port.toNat) port := by
  refine ⟨?_, Text.Decimal.number_digits port.toNat⟩
  by_cases h : port.toNat = 0
  · rw [h]
    exact .zero
  · have hdigits : IsDigits (Text.Decimal.digits port.toNat) :=
      isDigits_iff.mpr ⟨Text.Decimal.digits_ne_nil _, fun _ => Text.Decimal.isDigit_of_mem_digits⟩
    exact .digits hdigits (Text.Decimal.head?_digits h)

end Json

namespace Api

open Json (IsText IsRecord)

/-- An object of one member is a record. -/
theorem isRecord_encodeMember {α : Type} {Literal : List Char → α → Prop} {value : List Char} {v : α}
    (key : String) (h : Literal value v) :
    IsRecord key.toList Literal v (encodeMember key value).toList := by
  have hmember : Json.Member key.toList value _ :=
    .mk Json.isBlank_nil (Json.spells_encode key.toList) Json.isBlank_nil Json.isBlank_nil
      Json.isBlank_nil
  have hobject : Json.IsObject key.toList Literal v _ :=
    .mk ⟨value, h, hmember⟩ (List.forall_mem_nil _) (List.forall_mem_nil _)
  refine ⟨[], _, [], Json.isBlank_nil, Json.isBlank_nil, Or.inl hobject, ?_⟩
  simp [encodeMember, Json.encodeText]

theorem decodeToken_encodeToken (token : String) : decodeToken (encodeToken token) = .ok token :=
  decodeToken_eq_ok_iff.mpr (isRecord_encodeMember "token" (Json.isText_encodeText token.toList))

theorem decodePort_encodePort (port : UInt16) : decodePort (encodePort port) = .ok port :=
  decodePort_eq_ok_iff.mpr (isRecord_encodeMember "port" (Json.isPort_digits port))

theorem encodeToken_inj {token token' : String} :
    encodeToken token = encodeToken token' ↔ token = token' := by
  refine ⟨fun h => ?_, fun h => h ▸ rfl⟩
  have hdecoded := congrArg decodeToken h
  rw [decodeToken_encodeToken, decodeToken_encodeToken] at hdecoded
  exact Except.ok.inj hdecoded

end Api

namespace Session

variable {τ : Type} [Api.Transport τ]

/-- A login that is answered with a written token stores it. -/
theorem login_encodeToken {c : Client Entries τ} {k : Login.Credentials} {token : String}
    (h : (Api.Transport.get c.transport (Api.exchangeRequest k.server k.username k.password)).1 =
      .ok ⟨200, Api.encodeToken token⟩) :
    ((login k).run c).value.1 = .ok () ∧
      ((login k).run c).value.2.storage = save c.storage k.server token := by
  have htoken := Api.token?_eq_some_iff.mpr ⟨_, h, rfl, Api.decodeToken_encodeToken token⟩
  have hok := login_ok_iff.mpr ⟨token, htoken⟩
  obtain ⟨stored, hstored, hstorage⟩ := login_ok_cases hok
  obtain rfl : token = stored := Option.some.inj (htoken.symm.trans hstored)
  exact ⟨hok, hstorage⟩

/-- **A token that is written is read back**: it is decoded again, bodies of one token and no others are
written alike once they have been decoded, and a login that is answered with a written token stores this
token and its server. -/
theorem round_trip :
    (∀ token, Api.decodeToken (Api.encodeToken token) = .ok token) ∧
    (∀ body body' token token', Api.decodeToken body = .ok token →
      Api.decodeToken body' = .ok token' →
      Api.decodeToken (Api.encodeToken token) = .ok token ∧
        (Api.decodeToken body = Api.decodeToken body' ↔
          Api.encodeToken token = Api.encodeToken token')) ∧
    (∀ (c : Client Entries τ) (k : Login.Credentials) (token : String),
      (Api.Transport.get c.transport (Api.exchangeRequest k.server k.username k.password)).1 =
        .ok ⟨200, Api.encodeToken token⟩ →
      ((login k).run c).value.1 = .ok () ∧
        ((login k).run c).value.2.storage.get? "authToken" = some token ∧
        ((login k).run c).value.2.storage.get? "server" = some k.server) := by
  refine ⟨Api.decodeToken_encodeToken, fun body body' token token' hbody hbody' => ?_,
    fun c k token h => ?_⟩
  · refine ⟨Api.decodeToken_encodeToken token, ?_⟩
    rw [hbody, hbody', Api.encodeToken_inj, Except.ok.injEq]
  · obtain ⟨hok, hstorage⟩ := login_encodeToken h
    rw [hstorage, get?_save, get?_save]
    exact ⟨hok, rfl, rfl⟩

/-- A token of a quotation mark, a backslash and control characters, in two spellings, and a login with
it. -/
theorem round_trip_of_control_characters :
    Api.decodeToken "[\"\\u0022\\\\\\u0007\\u000a\"]" = .ok "\"\\\x07\n" ∧
    Api.decodeToken "\x7b\"token\":\"\\\"\\u005c\\u0007\\n\"\x7d" = .ok "\"\\\x07\n" ∧
    Api.encodeToken "\"\\\x07\n" = "\x7b\"token\":\"\\\"\\\\\\u0007\\n\"\x7d" ∧
    ((login ⟨"http://dns.test", "admin", "secret"⟩).run
      (promised (Api.encodeToken "\"\\\x07\n"))).value.2.storage.get? "authToken" =
        some "\"\\\x07\n" := by
  have hlist : Api.decodeToken "[\"\\u0022\\\\\\u0007\\u000a\"]" = .ok "\"\\\x07\n" := by
    decide +kernel
  have hobject : Api.decodeToken "\x7b\"token\":\"\\\"\\u005c\\u0007\\n\"\x7d" =
      .ok "\"\\\x07\n" := by
    decide +kernel
  obtain ⟨-, hpair, hlogin⟩ := @round_trip Api.Script _
  obtain ⟨hdecoded, -⟩ := hpair _ _ _ _ hlist hobject
  exact ⟨hlist, hobject, by decide +kernel,
    (hlogin (promised (Api.encodeToken "\"\\\x07\n")) ⟨"http://dns.test", "admin", "secret"⟩
      "\"\\\x07\n" rfl).2.1⟩

end Session

end DnsConsole
