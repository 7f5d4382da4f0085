import DnsConsole.Environment
import DnsConsole.Proofs.Text.Utf8

/-!
# Variables and what is read of a file

A variable that is set to a text has this text afterwards and no other variable changes
(`text?_set`); a default is put only where there is no text, so that it comes second to it
(`text?_setDefault`).

A file is a list of lines (`lines`), whatever the environment is.  `readLines` takes from them the settings in
front of the first line that is not understood, and says whether there is such a line: it changes no
environment, but looks a name up among the settings that it has seen already (`meaning`).

The loader sets variables as it goes.  What it leaves behind is the same: a variable has the text that it
had before, or else the value of the first setting of it (`text?_load`).  A file that is not understood to
its end is read as far as it is (`exists_front`): its settings are those of the text in front of the first
line that is not understood.
-/

namespace DnsConsole.Environment

/-! ### Texts of variables -/

open Text (Utf8.encode Utf8.decode? Utf8.decode?_encode Utf8.encode_inj)

theorem text?_of_get? {env : Environment} {name : List Char} {value : List UInt8}
    (h : env.get? name = some value) : env.text? name = Utf8.decode? value := by
  unfold text?
  rw [h]
  rfl

theorem mem_vars_of_get? {env : Environment} {name : List Char} {value : List UInt8}
    (h : env.get? name = some value) : (Utf8.encode name, value) ∈ env.vars := by
  obtain ⟨front, back, hvars, -⟩ := List.lookup_eq_some_iff.mp h
  rw [hvars]
  exact List.mem_append_right front List.mem_cons_self

theorem get?_set_self (env : Environment) (name : List Char) (value : List UInt8) :
    (env.set (Utf8.encode name) value).get? name = some value :=
  List.lookup_cons_self

theorem get?_set_of_ne {env : Environment} {name other : List Char} (h : other ≠ name)
    (value : List UInt8) : (env.set (Utf8.encode name) value).get? other = env.get? other := by
  have hne : Utf8.encode other ≠ Utf8.encode name := fun heq => h (Utf8.encode_inj.mp heq)
  unfold get? set
  rw [List.lookup_cons, beq_false_of_ne hne]

/-- A text that is set. -/
theorem text?_set (env : Environment) (name value other : List Char) :
    (env.set (Utf8.encode name) (Utf8.encode value)).text? other =
      if other = name then some value else env.text? other := by
  by_cases h : other = name
  · rw [if_pos h, h, text?_of_get? (get?_set_self env name _), Utf8.decode?_encode]
  · rw [if_neg h]
    unfold text?
    rw [get?_set_of_ne h]

/-- A default comes second to the text that there is. -/
theorem text?_setDefault (env : Environment) (name value other : List Char) :
    (env.setDefault name value).text? other =
      (env.text? other).or ([(name, value)].lookup other) := by
  have hlookup : [(name, value)].lookup other = if other = name then some value else none := by
    by_cases h : other = name
    · rw [if_pos h, h, List.lookup_cons_self]
    · rw [if_neg h, List.lookup_cons, beq_false_of_ne h]
      rfl
  rw [hlookup]
  unfold setDefault
  cases htext : env.text? name with
  | some text =>
    rw [if_pos Option.isSome_some]
    by_cases h : other = name
    · rw [h, htext]
      rfl
    · rw [if_neg h, Option.or_none]
  | none =>
    rw [Option.isSome_none, if_neg Bool.false_ne_true, text?_set]
    by_cases h : other = name
    · rw [if_pos h, if_pos h, h, htext]
      rfl
    · rw [if_neg h, if_neg h, Option.or_none]

/-! ### Lines -/

/-- The lines of a file; `none` stands for a last line that is cut short. -/
def lines (cs : List Char) : List (Option (List Char)) :=
  match h : firstLine cs with
  | .last => []
  | .unfinished => [none]
  | .text line rest =>
    have := length_rest_of_firstLine h
    some line :: lines rest
termination_by cs.length

theorem lines_of_last {cs : List Char} (h : firstLine cs = .last) : lines cs = [] := by
  rw [lines]
  split <;> simp_all

theorem lines_of_unfinished {cs : List Char} (h : firstLine cs = .unfinished) :
    lines cs = [none] := by
  rw [lines]
  split <;> simp_all

theorem lines_of_text {cs line rest : List Char} (h : firstLine cs = .text line rest) :
    lines cs = some line :: lines rest := by
  rw [lines]
  split <;> simp_all

theorem lines_nil : lines [] = [] :=
  lines_of_last rfl

/-! ### Settings -/

/-- The settings of a file in order, and whether all of it was understood. -/
structure Reading where
  settings : List (List Char × List Char)
  complete : Bool
  deriving DecidableEq, Repr

/-- What a name stands for behind some settings: its text in the environment, or else the value of the
first setting of it, or nothing. -/
def meaning (env : Environment) (seen : List (List Char × List Char)) (name : List Char) : List Char :=
  ((env.text? name).or (seen.lookup name)).getD []

/-- What is read of lines behind the settings that have been seen. -/
def readLines (env : Environment) (seen : List (List Char × List Char)) :
    List (Option (List Char)) → Reading
  | [] => ⟨seen, true⟩
  | none :: _ => ⟨seen, false⟩
  | some line :: rest =>
    match entryOf (env.meaning seen) line with
    | .blank => env.readLines seen rest
    | .malformed => ⟨seen, false⟩
    | .setting name value => env.readLines (seen ++ [(name, value)]) rest

/-- A text without the byte order mark at its start. -/
def withoutMark : List Char → List Char
  | '\uFEFF' :: r => r
  | cs => cs

/-- What is read of a file. -/
def reading (env : Environment) (file : String) : Reading :=
  env.readLines [] (lines (withoutMark file.toList))

/-! ### What the loader leaves behind -/

/-- The texts of an environment are those of another one, and behind them the values of some
settings. -/
def Completes (env' env : Environment) (seen : List (List Char × List Char)) : Prop :=
  ∀ name, env'.text? name = (env.text? name).or (seen.lookup name)

theorem Completes.expand {env' env : Environment} {seen : List (List Char × List Char)}
    (h : Completes env' env seen) : env'.expand = env.meaning seen := by
  funext name
  unfold Environment.expand meaning
  rw [h name]

theorem Completes.setDefault {env' env : Environment} {seen : List (List Char × List Char)}
    (h : Completes env' env seen) (name value : List Char) :
    Completes (env'.setDefault name value) env (seen ++ [(name, value)]) := by
  intro other
  rw [text?_setDefault, h other, List.lookup_append, Option.or_assoc]

/-- The loader puts the settings that are read behind the texts there are. -/
theorem Completes.loadLines {env' env : Environment} {seen : List (List Char × List Char)}
    {cs : List Char} (h : Completes env' env seen) :
    Completes (env'.loadLines cs) env (env.readLines seen (lines cs)).settings := by
  -- by `h.expand` a name means the same to the loader and to `readLines`, so that each line is the same
  fun_induction Environment.loadLines env' cs generalizing seen with
  | case1 env' cs hline =>
    rw [lines_of_last hline]
    exact h
  | case2 env' cs hline =>
    rw [lines_of_unfinished hline]
    exact h
  | case3 env' cs line rest hline hlength hentry ih =>
    rw [h.expand] at hentry
    rw [lines_of_text hline, readLines, hentry]
    exact ih h
  | case4 env' cs line rest hline hlength hentry =>
    rw [h.expand] at hentry
    rw [lines_of_text hline, readLines, hentry]
    exact h
  | case5 env' cs line rest hline hlength name value hentry ih =>
    rw [h.expand] at hentry
    rw [lines_of_text hline, readLines, hentry]
    exact ih (h.setDefault name value)

theorem load_eq (env : Environment) (file : String) :
    env.load file = env.loadLines (withoutMark file.toList) := by
  unfold load
  generalize file.toList = cs
  fun_cases withoutMark cs with
  | case1 r => rfl
  | case2 cs hmark =>
    split
    next r => exact (hmark r rfl).elim
    next => rfl

/-- **What a file leaves behind**: a variable has its own text, or else the value of the first setting of
it. -/
theorem text?_load (env : Environment) (file : String) (name : List Char) :
    (env.load file).text? name = (env.text? name).or ((env.reading file).settings.lookup name) := by
  have hstart : Completes env env [] := fun name => by
    rw [List.lookup_nil, Option.or_none]
  rw [load_eq]
  exact hstart.loadLines name

/-! ### The part that is understood -/

theorem behindBreak_append {cs : List Char} (h : '\n' ∉ cs) (t : List Char) :
    behindBreak (cs ++ '\n' :: t) = t := by
  have hne : ∀ c ∈ cs, decide (c ≠ '\n') = true := fun c hc =>
    decide_eq_true fun heq => h (heq ▸ hc)
  unfold behindBreak
  rw [List.dropWhile_append_of_pos hne]
  rfl

theorem exists_of_behindBreak {cs : List Char} (h : behindBreak cs ≠ []) :
    ∃ front, '\n' ∉ front ∧ cs = front ++ '\n' :: behindBreak cs := by
  induction cs with
  | nil => exact absurd rfl h
  | cons c cs ih =>
    by_cases hc : c = '\n'
    · subst hc
      exact ⟨[], List.not_mem_nil, rfl⟩
    · have hskip : behindBreak (c :: cs) = behindBreak cs := by
        have hpos : (c ≠ '\n') = True := eq_true hc
        simp only [behindBreak, List.dropWhile_cons, hpos, decide_true, if_true]
      rw [hskip] at h ⊢
      obtain ⟨front, hfront, hcs⟩ := ih h
      refine ⟨c :: front, ?_, congrArg (c :: ·) hcs⟩
      rw [List.mem_cons]
      rintro (heq | hmem)
      · exact hc heq.symm
      · exact hfront hmem

/-- A line with something behind it ends the same way in front of anything else. -/
theorem exists_of_lineFrom {p : Position} {cs line rest : List Char}
    (h : lineFrom p cs = .text line rest) (hne : rest ≠ []) :
    ∃ front, '\n' ∈ front ∧ cs = front ++ rest ∧
      ∀ t, lineFrom p (front ++ t) = .text line t := by
  induction cs generalizing p line with
  | nil =>
    unfold lineFrom at h
    split at h
    · cases h
      exact absurd rfl hne
    · cases h
  | cons c cs ih =>
    by_cases hcomment : p = .afterBlank ∧ c = '#'
    · rw [lineFrom, if_pos hcomment] at h
      obtain ⟨rfl, rfl⟩ := Line.text.inj h
      obtain ⟨front, hfront, hcs⟩ := exists_of_behindBreak hne
      refine ⟨c :: (front ++ ['\n']), by simp, ?_, fun t => ?_⟩
      · simpa using hcs
      · have hbreak := behindBreak_append hfront t
        rw [List.cons_append, lineFrom, if_pos hcomment, List.append_assoc]
        exact congrArg (Line.text []) hbreak
    · by_cases hbreak : c = '\n' ∧ p.next c = .outside
      · rw [lineFrom, if_neg hcomment, if_pos hbreak] at h
        obtain ⟨rfl, rfl⟩ := Line.text.inj h
        refine ⟨[c], by simp [hbreak.1], rfl, fun t => ?_⟩
        rw [List.singleton_append, lineFrom, if_neg hcomment, if_pos hbreak]
      · rw [lineFrom, if_neg hcomment, if_neg hbreak] at h
        cases hline : lineFrom (p.next c) cs with
        | last | unfinished =>
          rw [hline] at h
          cases h
        | text line' rest' =>
          rw [hline] at h
          obtain ⟨rfl, rfl⟩ := Line.text.inj h
          obtain ⟨front, hmem, hcs, hfront⟩ := ih hline
          refine ⟨c :: front, List.mem_cons_of_mem c hmem, congrArg (c :: ·) hcs, fun t => ?_⟩
          rw [List.cons_append, lineFrom, if_neg hcomment, if_neg hbreak, hfront t]
          rfl

/-- A text whose first line is a comment. -/
def StartsWithComment (cs : List Char) : Prop :=
  ((cs.takeWhile (· ≠ '\n')).dropWhile Text.isBlank).head? = some '#'

instance (cs : List Char) : Decidable (StartsWithComment cs) := by
  unfold StartsWithComment
  infer_instance

theorem firstLine_of_ne_nil {cs : List Char} (h : cs ≠ []) :
    firstLine cs =
      if StartsWithComment cs then .text [] (behindBreak cs) else lineFrom .outside cs := by
  have hempty : cs.isEmpty = false := List.isEmpty_eq_false_iff.mpr h
  unfold firstLine
  rw [hempty, if_neg Bool.false_ne_true]
  rfl

/-- Whether the first line is a comment is decided in front of the line break. -/
theorem startsWithComment_append {cs : List Char} (h : '\n' ∈ cs) (t : List Char) :
    StartsWithComment (cs ++ t) ↔ StartsWithComment cs := by
  have htake : (cs ++ t).takeWhile (· ≠ '\n') = cs.takeWhile (· ≠ '\n') := by
    obtain ⟨a, b, rfl, ha⟩ := List.eq_append_cons_of_mem h
    have hne : ∀ c ∈ a, decide (c ≠ '\n') = true := fun c hc =>
      decide_eq_true fun heq => ha (heq ▸ hc)
    rw [List.append_assoc, List.takeWhile_append_of_pos hne, List.takeWhile_append_of_pos hne]
    rfl
  unfold StartsWithComment
  rw [htake]

/-- The first line of a text with something behind it is the first line also in front of anything
else. -/
theorem exists_of_firstLine {cs line rest : List Char} (h : firstLine cs = .text line rest)
    (hne : rest ≠ []) :
    ∃ front, cs = front ++ rest ∧ ∀ t, firstLine (front ++ t) = .text line t := by
  have hcs : cs ≠ [] := by
    rintro rfl
    cases h
  rw [firstLine_of_ne_nil hcs] at h
  -- the line break stands in `front`, so that the text behind it cannot make the line a comment
  have hfirst : ∀ front, '\n' ∈ front → cs = front ++ rest → ∀ t, firstLine (front ++ t) =
      if StartsWithComment cs then .text [] (behindBreak (front ++ t))
      else lineFrom .outside (front ++ t) := by
    intro front hmem hfront t
    have hcomment : StartsWithComment cs ↔ StartsWithComment (front ++ t) := by
      rw [hfront, startsWithComment_append hmem, startsWithComment_append hmem]
    rw [firstLine_of_ne_nil (List.append_ne_nil_of_left_ne_nil (List.ne_nil_of_mem hmem) t)]
    simp only [hcomment]
  split at h
  next hcomment =>
    obtain ⟨rfl, rfl⟩ := Line.text.inj h
    obtain ⟨a, ha, hbreak⟩ := exists_of_behindBreak hne
    have hfront : cs = (a ++ ['\n']) ++ behindBreak cs := by simpa using hbreak
    refine ⟨a ++ ['\n'], hfront, fun t => ?_⟩
    rw [hfirst _ (by simp) hfront, if_pos hcomment, List.append_assoc]
    exact congrArg (Line.text []) (behindBreak_append ha t)
  next hcomment =>
    obtain ⟨front, hmem, hfront, hline⟩ := exists_of_lineFrom h hne
    refine ⟨front, hfront, fun t => ?_⟩
    rw [hfirst front hmem hfront, if_neg hcomment, hline t]

/-- The reading stops in front of a text: its first line is malformed or cut short. -/
def Stops (lookup : List Char → List Char) (cs : List Char) : Prop :=
  firstLine cs = .unfinished ∨
    ∃ line rest, firstLine cs = .text line rest ∧ entryOf lookup line = .malformed

/-- A text that is not understood to its end has a part in front that is, with the same settings. -/
theorem exists_front_of_lines {env : Environment} {seen : List (List Char × List Char)}
    {cs : List Char} (h : (env.readLines seen (lines cs)).complete = false) :
    ∃ front back, cs = front ++ back ∧
      env.readLines seen (lines front) = ⟨(env.readLines seen (lines cs)).settings, true⟩ ∧
      Stops (env.meaning (env.readLines seen (lines cs)).settings) back := by
  fun_induction lines cs generalizing seen with
  | case1 cs hline => cases h
  | case2 cs hline => exact ⟨[], cs, rfl, by rw [lines_nil]; rfl, Or.inl hline⟩
  | case3 cs line rest hline hlength ih =>
    -- a line that is understood comes to the front, and the rest of the front is that of the rest
    have hunderstood : ∀ seen', (∀ ls, env.readLines seen (some line :: ls) = env.readLines seen' ls) →
        ∃ front back, cs = front ++ back ∧
          env.readLines seen (lines front) =
            ⟨(env.readLines seen (some line :: lines rest)).settings, true⟩ ∧
          Stops (env.meaning (env.readLines seen (some line :: lines rest)).settings) back := by
      intro seen' hstep
      rw [hstep] at h ⊢
      have hne : rest ≠ [] := by
        rintro rfl
        rw [lines_nil] at h
        cases h
      obtain ⟨a, hcs, ha⟩ := exists_of_firstLine hline hne
      obtain ⟨front, back, hrest, hread, hstop⟩ := ih h
      refine ⟨a ++ front, back, ?_, ?_, hstop⟩
      · rw [hcs, hrest, List.append_assoc]
      · rw [lines_of_text (ha front), hstep, hread]
    cases hentry : entryOf (env.meaning seen) line with
    | malformed =>
      have hstop : ∀ ls, env.readLines seen (some line :: ls) = ⟨seen, false⟩ := fun ls => by
        rw [readLines, hentry]
      rw [hstop]
      exact ⟨[], cs, rfl, by rw [lines_nil]; rfl, Or.inr ⟨line, rest, hline, hentry⟩⟩
    | blank => exact hunderstood seen fun ls => by rw [readLines, hentry]
    | setting name value =>
      exact hunderstood (seen ++ [(name, value)]) fun ls => by rw [readLines, hentry]

/-- A part in front of a text has the byte order mark that the text has. -/
theorem exists_of_withoutMark {cs front back : List Char} (h : withoutMark cs = front ++ back) :
    ∃ marked, cs = marked ++ back ∧ withoutMark marked = front := by
  fun_cases withoutMark cs with
  | case1 r => exact ⟨'\uFEFF' :: front, congrArg ('\uFEFF' :: ·) h, rfl⟩
  | case2 cs hmark =>
    have hcs : cs = front ++ back := by
      rw [← h]
      fun_cases withoutMark cs with
      | case1 r => exact (hmark r rfl).elim
      | case2 => rfl
    refine ⟨front, hcs, ?_⟩
    fun_cases withoutMark front with
    | case1 r => exact (hmark (r ++ back) hcs).elim
    | case2 => rfl

/-- A file that is not understood to its end has a part in front that is, with the same settings: what
stands behind it is not understood. -/
theorem exists_front {env : Environment} {file : String} (h : (env.reading file).complete = false) :
    ∃ (front : String) (back : List Char), file.toList = front.toList ++ back ∧
      env.reading front = ⟨(env.reading file).settings, true⟩ ∧
      Stops (env.meaning (env.reading file).settings) back := by
  obtain ⟨front, back, hcs, hread, hstop⟩ := exists_front_of_lines h
  obtain ⟨marked, hfile, hmarked⟩ := exists_of_withoutMark hcs
  refine ⟨String.ofList marked, back, ?_, ?_, hstop⟩
  · rw [String.toList_ofList, hfile]
  · unfold reading
    rw [String.toList_ofList, hmarked, hread]

end DnsConsole.Environment
