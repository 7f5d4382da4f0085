import DnsConsole.Proofs.Server.Config

/-!
# Ports that are read

A port variable that is unset or blank gives the default, one that spells a number up to 65535 between
blanks gives this number, and every other text is refused with its name and the text as it was set.
`PortReading` says so, and what a port variable gives is always such a reading (`portReading`); the rest
is read off it (`portIn_eq_default_iff`, `portIn_eq_ok_iff`, `portIn_eq_error_iff`).  Of the
configuration nothing else can fail, and the first of its two ports is reported
(`ofEnvironment_eq_error_iff`).
-/

namespace DnsConsole.Server

open Number.Unsigned (Spells)
open Text (isBlank trimChars trimChars_eq_nil_iff)

/-- The value of a variable, if it is set, is text. -/
def Legible (env : Environment) (name : String) : Prop :=
  ∀ value, env.get? name.toList = some value → ∃ text, Text.Utf8.decode? value = some text

/-- A variable is set to a text that is not blank and is no port number. -/
structure Malformed (env : Environment) (name : String) (text : List Char) : Prop where
  set : env.text? name.toList = some text
  filled : ∃ c ∈ text, isBlank c = false
  noPort : ∀ n, Spells (trimChars text) n → 65535 < n

/-- What a port variable gives. -/
inductive PortReading (env : Environment) (name : String) (default : UInt16) :
    Except ConfigError UInt16 → Prop
  | absent (htext : env.text? name.toList = none) : PortReading env name default (.ok default)
  | blank {text : List Char} (htext : env.text? name.toList = some text)
    (h : ∀ c ∈ text, isBlank c = true) : PortReading env name default (.ok default)
  | number {text : List Char} {port : UInt16} (htext : env.text? name.toList = some text)
    (hfilled : ∃ c ∈ text, isBlank c = false) (h : Spells (trimChars text) port.toNat) :
    PortReading env name default (.ok port)
  | malformed {text : List Char} (h : Malformed env name text) :
    PortReading env name default (.error (.invalidPort name (String.ofList text)))

section

variable {env : Environment} {name : String} {default : UInt16} {text : List Char}

/-! ### One variable -/

theorem not_blank_iff : (¬ ∀ c ∈ text, isBlank c = true) ↔ ∃ c ∈ text, isBlank c = false := by
  simp

theorem portReading_of_filled (htext : env.text? name.toList = some text)
    (hfilled : ∃ c ∈ text, isBlank c = false) :
    PortReading env name default (portIn env name default) := by
  have hne : trimChars text ≠ [] := fun hnil =>
    not_blank_iff.mpr hfilled (trimChars_eq_nil_iff.mp hnil)
  rcases portIn_of_text htext hne with ⟨port, hspells, hok⟩ | ⟨hnone, herror⟩
  · rw [hok]
    exact .number htext hfilled hspells
  · rw [herror]
    refine .malformed ⟨htext, hfilled, fun n hn => Nat.lt_of_not_le fun hle => ?_⟩
    -- a number that is not too large is one of the ports
    have hport : (UInt16.ofNat n).toNat = n := UInt16.toNat_ofNat_of_lt' (Nat.lt_succ_of_le hle)
    exact hnone (UInt16.ofNat n) (hport.symm ▸ hn)

/-- **What comes of a port variable.** -/
theorem portReading (env : Environment) (name : String) (default : UInt16) :
    PortReading env name default (portIn env name default) := by
  cases htext : env.text? name.toList with
  | none =>
    have hdefault : portIn env name default = .ok default := by
      unfold portIn
      rw [htext]
    rw [hdefault]
    exact .absent htext
  | some text =>
    by_cases hblank : ∀ c ∈ text, isBlank c = true
    · have hdefault : portIn env name default = .ok default := by
        unfold portIn
        rw [htext]
        dsimp only
        rw [trimChars_eq_nil_iff.mpr hblank]
        rfl
      rw [hdefault]
      exact .blank htext hblank
    · exact portReading_of_filled htext (not_blank_iff.mp hblank)

/-- A text that is not blank is read as the number that it spells. -/
theorem portIn_eq_ok_iff {port : UInt16} (htext : env.text? name.toList = some text)
    (hfilled : ∃ c ∈ text, isBlank c = false) :
    portIn env name default = .ok port ↔ Spells (trimChars text) port.toNat := by
  have hreading := portReading env name default
  generalize portIn env name default = r at hreading ⊢
  cases hreading with
  | absent hnone => cases htext.symm.trans hnone
  | blank htext' h =>
    cases htext.symm.trans htext'
    exact absurd h (not_blank_iff.mpr hfilled)
  | @number _ port' htext' _ h =>
    cases htext.symm.trans htext'
    rw [Except.ok.injEq]
    exact ⟨fun heq => heq ▸ h, fun hport => UInt16.toNat_inj.mp (h.unique hport)⟩
  | malformed h =>
    cases htext.symm.trans h.set
    exact ⟨fun heq => (nomatch heq), fun hport =>
      absurd port.toNat_lt (Nat.not_lt.mpr (h.noPort _ hport))⟩

/-- The texts that are refused are those that are not blank and spell no port number. -/
theorem portIn_eq_error_iff {e : ConfigError} :
    portIn env name default = .error e ↔
      ∃ text, Malformed env name text ∧ e = .invalidPort name (String.ofList text) := by
  have hreading := portReading env name default
  generalize portIn env name default = r at hreading ⊢
  cases hreading with
  | absent hnone =>
    exact ⟨fun heq => (nomatch heq), fun ⟨_, h, _⟩ => nomatch hnone.symm.trans h.set⟩
  | blank htext hblank =>
    refine ⟨fun heq => (nomatch heq), fun ⟨_, h, _⟩ => ?_⟩
    cases htext.symm.trans h.set
    exact absurd hblank (not_blank_iff.mpr h.filled)
  | @number _ port htext _ hspells =>
    refine ⟨fun heq => (nomatch heq), fun ⟨_, h, _⟩ => ?_⟩
    cases htext.symm.trans h.set
    exact absurd port.toNat_lt (Nat.not_lt.mpr (h.noPort _ hspells))
  | malformed h =>
    constructor
    · intro heq
      cases heq
      exact ⟨_, h, rfl⟩
    · rintro ⟨_, h', rfl⟩
      cases h.set.symm.trans h'.set
      rfl

theorem text?_eq_none_iff (hlegible : Legible env name) :
    env.text? name.toList = none ↔ env.get? name.toList = none := by
  unfold Environment.text?
  cases hget : env.get? name.toList with
  | none => exact ⟨fun _ => rfl, fun _ => rfl⟩
  | some value =>
    obtain ⟨text, htext⟩ := hlegible value hget
    simp [htext]

/-- The default is what an unset variable, a blank one and its own number give. -/
theorem portIn_eq_default_iff (hlegible : Legible env name) :
    portIn env name default = .ok default ↔
      env.get? name.toList = none ∨ ∃ text, env.text? name.toList = some text ∧
        ((∀ c ∈ text, isBlank c = true) ∨ Spells (trimChars text) default.toNat) := by
  rw [← text?_eq_none_iff hlegible]
  have hreading := portReading env name default
  generalize portIn env name default = r at hreading ⊢
  cases hreading with
  | absent hnone => exact ⟨fun _ => Or.inl hnone, fun _ => rfl⟩
  | blank htext h => exact ⟨fun _ => Or.inr ⟨_, htext, Or.inl h⟩, fun _ => rfl⟩
  | number htext hfilled h =>
    rw [Except.ok.injEq]
    constructor
    · rintro rfl
      exact Or.inr ⟨_, htext, Or.inr h⟩
    · rintro (hnone | ⟨_, htext', hblank | hspells⟩)
      · cases htext.symm.trans hnone
      · cases htext.symm.trans htext'
        exact absurd hblank (not_blank_iff.mpr hfilled)
      · cases htext.symm.trans htext'
        exact UInt16.toNat_inj.mp (h.unique hspells)
  | malformed h =>
    refine ⟨fun heq => (nomatch heq), ?_⟩
    rintro (hnone | ⟨_, htext', hblank | hspells⟩)
    · cases hnone.symm.trans h.set
    · cases htext'.symm.trans h.set
      exact absurd hblank (not_blank_iff.mpr h.filled)
    · cases htext'.symm.trans h.set
      exact absurd default.toNat_lt (Nat.not_lt.mpr (h.noPort _ hspells))

/-! ### The configuration -/

/-- Of two ports that are refused the first is reported. -/
theorem ofEnvironment_eq_error_iff {e : ConfigError} :
    Config.ofEnvironment env = .error e ↔
      portIn env "PORT" 8000 = .error e ∨
        (∀ e', portIn env "PORT" 8000 ≠ .error e') ∧ portIn env "API_PORT" 8080 = .error e := by
  unfold Config.ofEnvironment
  cases portIn env "PORT" 8000 with
  | error => simp [bind, Except.bind]
  | ok => cases portIn env "API_PORT" 8080 <;> simp [bind, Except.bind, pure, Except.pure]

theorem forall_portIn_ne_error_iff :
    (∀ e, portIn env name default ≠ .error e) ↔ ∀ text, ¬ Malformed env name text := by
  constructor
  · intro h text hmalformed
    exact h _ (portIn_eq_error_iff.mpr ⟨text, hmalformed, rfl⟩)
  · intro h e herror
    obtain ⟨text, hmalformed, -⟩ := portIn_eq_error_iff.mp herror
    exact h text hmalformed

end

/-- **A port variable takes exactly the port numbers.**  If its value is text or it is unset, it gives the
default exactly if it is unset or blank or spells the default.  A text that is not blank gives exactly
the number that it spells, and if that is none up to 65535, the variable is refused with its name and the
text as it was set; nothing else is refused.  The configuration fails exactly if one of its ports is
refused, whatever its directory is, and reports the first of them. -/
theorem ports_read_exactly (env : Environment) :
    (∀ (name : String) (default : UInt16),
      (Legible env name →
        (portIn env name default = .ok default ↔
          env.get? name.toList = none ∨ ∃ text, env.text? name.toList = some text ∧
            ((∀ c ∈ text, isBlank c = true) ∨ Spells (trimChars text) default.toNat))) ∧
      (∀ text, env.text? name.toList = some text → (∃ c ∈ text, isBlank c = false) →
        ∀ port : UInt16,
          portIn env name default = .ok port ↔ Spells (trimChars text) port.toNat) ∧
      ∀ e, portIn env name default = .error e ↔
        ∃ text, Malformed env name text ∧ e = .invalidPort name (String.ofList text)) ∧
    ∀ e, Config.ofEnvironment env = .error e ↔
      (∃ text, Malformed env "PORT" text ∧ e = .invalidPort "PORT" (String.ofList text)) ∨
        (∀ text, ¬ Malformed env "PORT" text) ∧
          ∃ text, Malformed env "API_PORT" text ∧ e = .invalidPort "API_PORT" (String.ofList text) := by
  refine ⟨fun name default => ⟨portIn_eq_default_iff, fun text htext hfilled port =>
    portIn_eq_ok_iff htext hfilled, fun e => portIn_eq_error_iff⟩, fun e => ?_⟩
  rw [ofEnvironment_eq_error_iff, forall_portIn_ne_error_iff, portIn_eq_error_iff,
    portIn_eq_error_iff]

/-- The greatest port, written with leading zeros, beside a number that is too large by one and a
directory that is no text. -/
def boundEnvironment : Environment :=
  ⟨[(Text.Utf8.encode "PORT".toList, Text.Utf8.encode "\u2003+00065535\n".toList),
    (Text.Utf8.encode "API_PORT".toList, Text.Utf8.encode " 65536".toList),
    (Text.Utf8.encode "SITE_ROOT".toList, [0xff])]⟩

/-- The one is read whatever its default is, and the other is reported with its blank. -/
theorem ports_read_exactly_at_bound :
    portIn boundEnvironment "PORT" 8000 = .ok 65535 ∧
      portIn boundEnvironment "PORT" 65535 = .ok 65535 ∧
      Config.ofEnvironment boundEnvironment = .error (.invalidPort "API_PORT" " 65536") := by
  obtain ⟨hports, hconfig⟩ := ports_read_exactly boundEnvironment
  have htext : boundEnvironment.text? "PORT".toList = some "\u2003+00065535\n".toList := by
    decide +kernel
  have hspells : Spells (trimChars "\u2003+00065535\n".toList) 65535 := by
    have hdigits : ∀ c ∈ "00065535".toList, Text.Decimal.isDigit c = true :=
      List.all_eq_true.mp (by decide)
    exact .signed (by decide) hdigits
  have htooLarge : Spells (trimChars " 65536".toList) 65536 := by
    have hdigits : ∀ c ∈ "65536".toList, Text.Decimal.isDigit c = true :=
      List.all_eq_true.mp (by decide)
    exact .plain (by decide) hdigits
  have hlegible : Legible boundEnvironment "PORT" := fun value hget =>
    ⟨_, (Environment.text?_of_get? hget).symm.trans htext⟩
  refine ⟨((hports "PORT" 8000).2.1 _ htext ⟨'+', by decide, by decide⟩ 65535).mpr hspells,
    ((hports "PORT" 65535).1 hlegible).mpr (Or.inr ⟨_, htext, Or.inr hspells⟩),
    (hconfig _).mpr (Or.inr ⟨fun text h => ?_, " 65536".toList, ⟨by decide +kernel,
      ⟨'6', by decide, by decide⟩, fun n hn => ?_⟩, rfl⟩)⟩
  · cases htext.symm.trans h.set
    exact absurd (h.noPort _ hspells) (by decide)
  · rw [hn.unique htooLarge]
    decide

end DnsConsole.Server
