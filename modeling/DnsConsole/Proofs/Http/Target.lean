import DnsConsole.Http.Message
import DnsConsole.Proofs.Text.Pieces
import Mathlib.Data.List.DropRight
import Mathlib.Data.List.TakeDrop

/-!
# Targets written and read again

A target with a slash put behind its path is read back from its text, if the path has no slash at its end
before that (`ofText_withSlash`).  The condition stands for two things.  The path is not the one that is
taken for an empty path, so that it is in the text that was read; and the slash is put behind no other
slash, so that it makes no scheme of what was none.
-/

namespace DnsConsole.Http.Target

open Text (cut)

/-! ### Paths and queries -/

/-- A path and a query that are told apart in their text. -/
structure IsPlain (t : Target) : Prop where
  path_ne : t.path ≠ []
  question_not_mem : '?' ∉ t.path
  hash_not_mem : '#' ∉ t.reference

/-- What is taken for the path and the query of a text stands at its front. -/
theorem exists_of_ofPath (origin cs : List Char) :
    ∃ path query tail, '?' ∉ path ∧ '#' ∉ path ++ queryText query ∧
      cs = path ++ queryText query ++ tail ∧
        ofPath origin cs = ⟨origin, if path.isEmpty then ['/'] else path, query⟩ := by
  have hcs := (List.takeWhile_append_dropWhile (p := (· ≠ '#')) (l := cs)).symm
  have hhash : '#' ∉ cs.takeWhile (· ≠ '#') := fun h => by
    simpa using List.mem_takeWhile_imp h
  unfold ofPath
  rcases Text.cut_cases '?' (cs.takeWhile (· ≠ '#')) with ⟨hq, hcut⟩ | ⟨a, r, hq, ha, hcut⟩
  · refine ⟨cs.takeWhile (· ≠ '#'), none, cs.dropWhile (· ≠ '#'), hq, ?_, ?_, by rw [hcut]⟩
    · rwa [queryText, List.append_nil]
    · rwa [queryText, List.append_nil]
  · rw [ha] at hcs hhash
    exact ⟨a, some r, _, hq, hhash, hcs, by rw [hcut]⟩

theorem isPlain_ofPath (origin cs : List Char) : (ofPath origin cs).IsPlain := by
  obtain ⟨path, query, tail, hq, hhash, -, heq⟩ := exists_of_ofPath origin cs
  rw [heq]
  by_cases hpath : path = []
  · rw [hpath] at hhash
    exact ⟨by simp [hpath], by simp [hpath], by simpa [reference, hpath] using hhash⟩
  · exact ⟨by simp [hpath], by simpa [hpath] using hq, by simpa [reference, hpath] using hhash⟩

/-- A path is what stands in front of the query, unless it is the one of an empty text. -/
theorem path_ofPath (origin cs : List Char) :
    (ofPath origin cs).path = ['/'] ∨ ∃ tail, cs = (ofPath origin cs).path ++ tail := by
  obtain ⟨path, query, tail, -, -, hcs, heq⟩ := exists_of_ofPath origin cs
  rw [heq]
  by_cases hpath : path = []
  · exact Or.inl (by simp [hpath])
  · exact Or.inr ⟨queryText query ++ tail, by simp [hpath, hcs]⟩

theorem ofPath_reference {t : Target} (h : t.IsPlain) : ofPath t.origin t.reference = t := by
  have htake : t.reference.takeWhile (· ≠ '#') = t.reference := by
    have hall : ∀ c ∈ t.reference, decide (c ≠ '#') = true := by
      intro c hc
      have hne : c ≠ '#' := fun he => h.hash_not_mem (he ▸ hc)
      simpa using hne
    have happend : (t.reference ++ []).takeWhile (· ≠ '#') = t.reference ++ [].takeWhile (· ≠ '#') :=
      List.takeWhile_append_of_pos hall
    simpa using happend
  have hcut : cut '?' t.reference = (t.path, t.query) := by
    unfold reference queryText
    split
    next hq => rw [List.append_nil, hq, Text.cut_of_not_mem h.question_not_mem]
    next q hq => rw [hq, Text.cut_append h.question_not_mem]
  have hpath : t.path.isEmpty = false := List.isEmpty_eq_false_iff.mpr h.path_ne
  unfold ofPath
  rw [htake, hcut]
  dsimp only
  rw [hpath]
  rfl

theorem IsPlain.withSlash {t : Target} (h : t.IsPlain) : t.withSlash.IsPlain := by
  have hhash := h.hash_not_mem
  refine ⟨by simp [Target.withSlash], by simpa [Target.withSlash] using h.question_not_mem, ?_⟩
  simpa [Target.withSlash, Target.reference] using hhash

/-! ### Schemes -/

/-- What may stand in a scheme, and in an authority behind it. -/
def isInner (c : Char) : Bool :=
  c != '/' && c != '?' && c != '#'

theorem splitScheme?_append {scheme : List Char} (h : ∀ c ∈ scheme, isInner c = true)
    (r : List Char) : splitScheme? (scheme ++ ':' :: '/' :: '/' :: r) = some (scheme, r) := by
  induction scheme with
  | nil => rfl
  | cons c scheme ih =>
    have hc : ¬ (c = '/' ∨ c = '?' ∨ c = '#') := by
      have hc := h c List.mem_cons_self
      simpa [isInner, not_or, and_assoc] using hc
    have ih := ih fun d hd => h d (List.mem_cons_of_mem c hd)
    rw [List.cons_append, splitScheme?]
    · rw [if_neg hc, ih]
      rfl
    · rintro r' rfl ht
      rcases scheme with _ | ⟨d, scheme⟩
      · simp at ht
      · have hd := h d (List.mem_cons_of_mem _ List.mem_cons_self)
        obtain ⟨rfl, -⟩ := List.cons.inj ht
        exact absurd hd (by decide)

theorem eq_of_splitScheme? {cs scheme r : List Char} (h : splitScheme? cs = some (scheme, r)) :
    cs = scheme ++ ':' :: '/' :: '/' :: r ∧ ∀ c ∈ scheme, isInner c = true := by
  fun_induction splitScheme? cs generalizing scheme with
  | case1 t =>
    obtain ⟨rfl, rfl⟩ := Prod.mk.inj (Option.some.inj h)
    exact ⟨rfl, by simp⟩
  | case2 c t _ hc => cases h
  | case3 c t _ hc ih =>
    obtain ⟨⟨scheme', r'⟩, hs, heq⟩ := Option.map_eq_some_iff.mp h
    obtain ⟨rfl, rfl⟩ := Prod.mk.inj heq
    obtain ⟨rfl, hall⟩ := ih hs
    refine ⟨rfl, List.forall_mem_cons.mpr ⟨?_, hall⟩⟩
    simpa [isInner, not_or, and_assoc] using hc
  | case4 => cases h

/-- A slash behind a path makes no scheme of a text that has none. -/
theorem splitScheme?_slash {path tail rest : List Char} (h : splitScheme? (path ++ tail) = none)
    (hlast : path.getLast? ≠ some '/') (hrest : rest.head? ≠ some '/') :
    splitScheme? (path ++ '/' :: rest) = none := by
  rw [Option.eq_none_iff_forall_not_mem]
  rintro ⟨scheme, r⟩ hs
  obtain ⟨heq, hall⟩ := eq_of_splitScheme? hs
  rcases List.append_eq_append_iff.mp heq with ⟨as, rfl, has⟩ | ⟨bs, rfl, hbs⟩
  · rcases as with _ | ⟨a, as⟩
    · simp at has
    · obtain ⟨rfl, -⟩ := List.cons.inj has
      have hslash := hall '/' (by simp)
      exact absurd hslash (by decide)
  · -- how much of the mark of a scheme is in the path
    rcases bs with _ | ⟨b₁, _ | ⟨b₂, _ | ⟨b₃, bs⟩⟩⟩
    · simp at hbs
    · have hrest' : '/' :: r = rest := (List.cons.inj (List.cons.inj hbs).2).2
      exact hrest (by rw [← hrest']; rfl)
    · have hslash : '/' = b₂ := (List.cons.inj (List.cons.inj hbs).2).1
      exact hlast (by simp [← hslash])
    · simp only [List.cons_append, List.cons.injEq] at hbs
      obtain ⟨rfl, rfl, rfl, -⟩ := hbs
      have hsome := splitScheme?_append hall (bs ++ tail)
      rw [List.append_assoc] at h
      simp only [List.cons_append] at h
      rw [h] at hsome
      cases hsome

theorem schemeName_cases (name : List Char) :
    schemeName name = name ∨ schemeName name = "http".toList ∨ schemeName name = "https".toList := by
  unfold schemeName
  dsimp only
  split
  next h => exact Or.inr h
  next => exact Or.inl rfl

theorem schemeName_schemeName (name : List Char) : schemeName (schemeName name) = schemeName name := by
  rcases schemeName_cases name with h | h | h
  · rw [h, h]
  · rw [h]
    decide
  · rw [h]
    decide

theorem isInner_schemeName {name : List Char} (h : ∀ c ∈ name, isInner c = true) :
    ∀ c ∈ schemeName name, isInner c = true := by
  rcases schemeName_cases name with hn | hn | hn
  · rwa [hn]
  · rw [hn]
    exact List.all_eq_true.mp (by decide +kernel)
  · rw [hn]
    exact List.all_eq_true.mp (by decide +kernel)

/-! ### Texts -/

theorem ofText_of_none {s : String} (h : splitScheme? s.toList = none) :
    ofText s = ofPath [] s.toList := by
  unfold ofText
  rw [h]

/-- The text of a whole URL: a scheme, an authority, and what stands behind them. -/
structure IsUrl (s : String) (scheme authority rest : List Char) : Prop where
  text : s.toList = scheme ++ ':' :: '/' :: '/' :: (authority ++ rest)
  scheme : ∀ c ∈ scheme, isInner c = true
  authority : ∀ c ∈ authority, isInner c = true
  rest : ∀ c ∈ rest.head?, isInner c = false

theorem IsUrl.ofText_eq {s : String} {scheme authority rest : List Char}
    (h : IsUrl s scheme authority rest) :
    ofText s = ofPath (schemeName scheme ++ "://".toList ++ authority) rest := by
  have hspan : (authority ++ rest).span (fun c => c != '/' && c != '?' && c != '#') =
      (authority, rest) := by
    change (authority ++ rest).span isInner = (authority, rest)
    exact Text.span_append h.authority h.rest
  unfold ofText
  rw [h.text, splitScheme?_append h.scheme]
  dsimp only
  rw [hspan]

theorem exists_isUrl {s : String} {scheme r : List Char}
    (h : splitScheme? s.toList = some (scheme, r)) :
    ∃ authority rest, IsUrl s scheme authority rest := by
  obtain ⟨hs, hscheme⟩ := eq_of_splitScheme? h
  refine ⟨r.takeWhile isInner, r.dropWhile isInner, ?_, hscheme, fun c hc => ?_, fun c hc => ?_⟩
  · rw [hs, List.takeWhile_append_dropWhile]
  · exact List.mem_takeWhile_imp hc
  · have hhead := List.head?_dropWhile_not isInner r
    rw [hc] at hhead
    simpa using hhead

/-- A path of a whole URL starts with a slash, unless it is empty. -/
theorem head_path_ofPath {origin rest : List Char} (hrest : ∀ c ∈ rest.head?, isInner c = false) :
    (ofPath origin rest).path.head? = some '/' := by
  have hplain := isPlain_ofPath origin rest
  rcases path_ofPath origin rest with hroot | ⟨tail, htail⟩
  · rw [hroot]
    rfl
  obtain ⟨c, p, hpath⟩ := List.exists_cons_of_ne_nil hplain.path_ne
  have hinner : isInner c = false := hrest c (by rw [htail, hpath]; rfl)
  have hquestion : c ≠ '?' := fun hc => hplain.question_not_mem (by simp [hpath, hc])
  have hhash : c ≠ '#' := fun hc => hplain.hash_not_mem (by simp [reference, hpath, hc])
  have hslash : c = '/' := by
    by_contra hne
    simp [isInner, hquestion, hhash, hne] at hinner
  rw [hpath, hslash]
  rfl

theorem reference_withSlash (t : Target) :
    t.withSlash.reference = t.path ++ '/' :: queryText t.query := by
  simp [reference, withSlash]

theorem head?_queryText (query : Option (List Char)) : (queryText query).head? ≠ some '/' := by
  cases query <;> simp [queryText]

/-- An origin begins with a scheme, or with the colon behind it. -/
theorem head?_origin_ofText (s : String) : (ofText s).origin.head? ≠ some '/' := by
  cases hs : splitScheme? s.toList with
  | none =>
    rw [ofText_of_none hs]
    have horigin : (ofPath [] s.toList).origin = [] := rfl
    simp [horigin]
  | some p =>
    obtain ⟨authority, rest, hurl⟩ := exists_isUrl hs
    have hinner := isInner_schemeName hurl.scheme
    rw [hurl.ofText_eq]
    change (schemeName p.1 ++ "://".toList ++ authority).head? ≠ some '/'
    cases hname : schemeName p.1 with
    | nil => simp
    | cons c name =>
      have hc : isInner c = true := hinner c (by rw [hname]; exact List.mem_cons_self)
      intro hslash
      obtain rfl : c = '/' := Option.some.inj hslash
      exact absurd hc (by decide)

/-- With a slash behind its path a target begins with two slashes if its path does, and if there is no
origin in front of that. -/
theorem slashes_text_withSlash_iff {t : Target} (horigin : t.origin.head? ≠ some '/')
    (hlast : t.path.getLast? ≠ some '/') :
    "//".toList <+: t.withSlash.text ↔ t.origin = [] ∧ "//".toList <+: t.path := by
  have htext : t.withSlash.text = t.origin ++ (t.path ++ '/' :: queryText t.query) := by
    rw [← reference_withSlash]
    rfl
  rw [htext]
  change ['/', '/'] <+: _ ↔ _ ∧ ['/', '/'] <+: _
  cases ho : t.origin with
  | cons c origin =>
    have hc : '/' ≠ c := fun he => horigin (by rw [ho, ← he]; rfl)
    simp [List.cons_prefix_cons, hc]
  | nil =>
    have hquery := head?_queryText t.query
    rcases hpath : t.path with _ | ⟨a, _ | ⟨b, path⟩⟩
    · cases hq : queryText t.query with
      | nil => simp [List.cons_prefix_cons]
      | cons d q =>
        have hd : '/' ≠ d := fun he => hquery (by rw [hq, ← he]; rfl)
        simp [List.cons_prefix_cons, hd]
    · have ha : '/' ≠ a := fun he => hlast (by rw [hpath, ← he]; rfl)
      simp [List.cons_prefix_cons, ha]
    · simp [List.cons_prefix_cons]

theorem isPlain_ofText (s : String) : (ofText s).IsPlain := by
  cases hs : splitScheme? s.toList with
  | none =>
    rw [ofText_of_none hs]
    exact isPlain_ofPath [] s.toList
  | some p =>
    obtain ⟨authority, rest, hurl⟩ := exists_isUrl hs
    rw [hurl.ofText_eq]
    exact isPlain_ofPath _ rest

/-- **A target is read back with a slash behind its path.** -/
theorem ofText_withSlash {s : String} (h : (ofText s).path.getLast? ≠ some '/') :
    ofText (String.ofList (ofText s).withSlash.text) = (ofText s).withSlash := by
  cases hs : splitScheme? s.toList with
  | none =>
    rw [ofText_of_none hs] at h ⊢
    have hplain := (isPlain_ofPath [] s.toList).withSlash
    rcases path_ofPath [] s.toList with hroot | ⟨tail, htail⟩
    · exact absurd (by rw [hroot]; rfl) h
    rw [htail] at hs
    have hnone := splitScheme?_slash hs h (head?_queryText (ofPath [] s.toList).query)
    rw [← reference_withSlash] at hnone
    have htext : (ofPath [] s.toList).withSlash.text = (ofPath [] s.toList).withSlash.reference := rfl
    rw [htext, ofText_of_none (by rwa [String.toList_ofList]), String.toList_ofList]
    exact ofPath_reference hplain
  | some p =>
    obtain ⟨authority, rest, hurl⟩ := exists_isUrl hs
    rw [hurl.ofText_eq]
    generalize horigin : schemeName p.1 ++ "://".toList ++ authority = origin
    have hplain := (isPlain_ofPath origin rest).withSlash
    have hhead : (ofPath origin rest).path.head? = some '/' := head_path_ofPath hurl.rest
    have hagain : IsUrl (String.ofList (ofPath origin rest).withSlash.text) (schemeName p.1) authority
        (ofPath origin rest).withSlash.reference := by
      refine ⟨?_, isInner_schemeName hurl.scheme, hurl.authority, fun c hc => ?_⟩
      · rw [String.toList_ofList]
        change origin ++ _ = _
        rw [← horigin]
        simp
      · rw [reference_withSlash, List.head?_append, hhead] at hc
        obtain rfl := Option.some.inj hc
        decide
    rw [hagain.ofText_eq, schemeName_schemeName, horigin]
    exact ofPath_reference hplain

end DnsConsole.Http.Target
