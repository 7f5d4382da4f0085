import DnsConsole.Proofs.Session.History
import Mathlib.Data.Finset.Card

/-!
# Entries as a finite map

A storage is filled with pairs and then edited: values are put under keys, keys are taken out, and a
session is saved or cleared, which does so for its two keys.  All of this comes down to writes, each of
a value or of nothing under one key (`foldl_apply`), and the entries are the map that the writes make.

* `get?_eq_some_iff`: under a key stands what was last written there.
* `card_keys`: the size is the number of keys, because no key is held twice.
* `lastWritten_swap`: writes under different keys can be swapped wherever they stand.
* `finite_map`: this, for the entries that edits leave.
-/

namespace DnsConsole.Session

/-! ### Writes -/

/-- A value put under a key, or nothing put there: the key is taken out. -/
structure Write where
  key : String
  value? : Option String
  deriving DecidableEq, Repr

/-- The value was written under the key, and nothing was done to the key since. -/
def LastWritten (ws : List Write) (key value : String) : Prop :=
  ∃ front back, ws = front ++ ⟨key, some value⟩ :: back ∧ ∀ w ∈ back, w.key ≠ key

theorem lastWritten_append_singleton {ws : List Write} {w : Write} {key value : String} :
    LastWritten (ws ++ [w]) key value ↔
      w = ⟨key, some value⟩ ∨ w.key ≠ key ∧ LastWritten ws key value := by
  constructor
  · rintro ⟨front, back, h, hback⟩
    rcases List.eq_nil_or_concat back with rfl | ⟨back, x, rfl⟩
    · obtain ⟨-, hw⟩ := List.append_inj' h rfl
      exact Or.inl (List.singleton_inj.mp hw)
    · rw [List.concat_eq_append, ← List.cons_append, ← List.append_assoc] at h
      obtain ⟨rfl, hw⟩ := List.append_inj' h rfl
      obtain rfl := List.singleton_inj.mp hw
      rw [List.concat_eq_append, List.forall_mem_append] at hback
      exact Or.inr ⟨hback.2 w List.mem_cons_self, front, back, rfl, hback.1⟩
  · rintro (rfl | ⟨hne, front, back, rfl, hback⟩)
    · exact ⟨ws, [], rfl, List.forall_mem_nil _⟩
    · refine ⟨front, back ++ [w], by simp, ?_⟩
      rw [List.forall_mem_append]
      exact ⟨hback, by simpa using hne⟩

/-- What was last written under a key is a matter of the writes under it. -/
theorem lastWritten_iff_getLast? {ws : List Write} {key value : String} :
    LastWritten ws key value ↔
      (ws.filter fun w => w.key = key).getLast? = some ⟨key, some value⟩ := by
  induction ws using List.reverseRecOn with
  | nil => simp [LastWritten]
  | append_singleton ws w ih =>
    rw [lastWritten_append_singleton, ih, List.filter_append]
    by_cases h : w.key = key
    · rw [List.filter_singleton]
      simp [h]
    · have hne : w ≠ ⟨key, some value⟩ := fun hw => h (congrArg Write.key hw)
      simp [h, hne]

/-- No key is written in both lists. -/
def Apart (a b : List Write) : Prop :=
  ∀ w ∈ a, ∀ x ∈ b, w.key ≠ x.key

instance (a b : List Write) : Decidable (Apart a b) :=
  inferInstanceAs (Decidable (∀ w ∈ a, ∀ x ∈ b, w.key ≠ x.key))

theorem filter_append_comm {a b : List Write} (h : Apart a b) (key : String) :
    (a ++ b).filter (fun w => w.key = key) = (b ++ a).filter (fun w => w.key = key) := by
  rw [List.filter_append, List.filter_append]
  by_cases ha : ∃ w ∈ a, w.key = key
  · obtain ⟨w, hw, rfl⟩ := ha
    have hb : b.filter (fun x => x.key = w.key) = [] :=
      List.filter_eq_nil_iff.mpr fun x hx => by simpa using (h w hw x hx).symm
    rw [hb, List.append_nil, List.nil_append]
  · have ha : a.filter (fun w => w.key = key) = [] :=
      List.filter_eq_nil_iff.mpr fun w hw => by simpa using fun hkey => ha ⟨w, hw, hkey⟩
    rw [ha, List.append_nil, List.nil_append]

/-- Writes under different keys can be swapped wherever they stand. -/
theorem lastWritten_swap {a b : List Write} (h : Apart a b) (front back : List Write)
    (key value : String) :
    LastWritten (front ++ (a ++ b) ++ back) key value ↔
      LastWritten (front ++ (b ++ a) ++ back) key value := by
  rw [lastWritten_iff_getLast?, lastWritten_iff_getLast?]
  simp only [List.filter_append front, List.filter_append _ back, filter_append_comm h]

namespace Entries

/-! ### Keys -/

/-- The keys that are held. -/
def keys (e : Entries) : Finset String :=
  (e.pairs.map Prod.fst).toFinset

theorem mem_keys {e : Entries} {key : String} : key ∈ e.keys ↔ (e.get? key).isSome := by
  unfold keys get?
  rw [List.mem_toFinset, List.mem_map, List.lookup_isSome_iff]
  exact exists_congr fun p => and_congr_right fun _ => eq_comm.trans beq_iff_eq.symm

/-- **The size is the number of keys**, since none is held twice. -/
theorem card_keys (e : Entries) : e.keys.card = e.size :=
  (List.toFinset_card_of_nodup e.nodup).trans (List.length_map _)

theorem isEmpty_iff {e : Entries} : e.isEmpty = true ↔ ∀ key, e.get? key = none := by
  have hempty : e.isEmpty = true ↔ e.keys = ∅ := by
    rw [← Finset.card_eq_zero, card_keys]
    exact List.isEmpty_iff_length_eq_zero
  rw [hempty, Finset.eq_empty_iff_forall_notMem]
  simp only [mem_keys, Option.not_isSome_iff_eq_none]

/-- Two storages that cannot be told apart. -/
structure Alike (e e' : Entries) : Prop where
  get? : ∀ key, e.get? key = e'.get? key
  size : e.size = e'.size
  isEmpty : e.isEmpty = e'.isEmpty

/-- What is read under the keys tells everything. -/
theorem alike_of_get? {e e' : Entries} (h : ∀ key, e.get? key = e'.get? key) : Alike e e' where
  get? := h
  size := by
    rw [← card_keys, ← card_keys]
    congr 1
    ext key
    rw [mem_keys, mem_keys, h]
  isEmpty := by
    rw [Bool.eq_iff_iff, isEmpty_iff, isEmpty_iff]
    simp only [h]

/-! ### Entries that writes make -/

/-- The entries after a write. -/
def write (e : Entries) (w : Write) : Entries :=
  match w.value? with
  | some value => e.insert w.key value
  | none => e.erase w.key

theorem get?_write (e : Entries) (w : Write) (key : String) :
    (e.write w).get? key = if w.key = key then w.value? else e.get? key := by
  obtain ⟨k, value?⟩ := w
  cases value? with
  | none => exact get?_erase e k key
  | some value => exact get?_insert e k value key

/-- **Under a key stands what was last written there.** -/
theorem get?_eq_some_iff {ws : List Write} {key value : String} :
    (ws.foldl write empty).get? key = some value ↔ LastWritten ws key value := by
  induction ws using List.reverseRecOn with
  | nil => simp [LastWritten]
  | append_singleton ws w ih =>
    rw [List.foldl_append, List.foldl_cons, List.foldl_nil, get?_write, lastWritten_append_singleton]
    obtain ⟨k, value?⟩ := w
    by_cases h : k = key
    · simp [h]
    · simp [h, ih]

end Entries

/-! ### Edits -/

/-- What can be done to the entries. -/
inductive Edit
  | insert (key value : String)
  | erase (key : String)
  | save (server token : String)
  | clear
  deriving DecidableEq, Repr

/-- The entries after an edit. -/
def Edit.apply (e : Entries) : Edit → Entries
  | .insert key value => e.insert key value
  | .erase key => e.erase key
  | .save server token => Session.save e server token
  | .clear => Session.clear e

/-- The step of a run that does an edit. -/
def Edit.step : Edit → Step
  | .insert key value => .insert key value
  | .erase key => .erase key
  | .save server token => .save server token
  | .clear => .clear

/-- What an edit writes. -/
def Edit.writes : Edit → List Write
  | .insert key value => [⟨key, some value⟩]
  | .erase key => [⟨key, none⟩]
  | .save server token => [⟨"server", some server⟩, ⟨"authToken", some token⟩]
  | .clear => [⟨"server", none⟩, ⟨"authToken", none⟩]

/-- Everything that pairs and then edits write. -/
def written (pairs : List (String × String)) (edits : List Edit) : List Write :=
  pairs.map (fun p => ⟨p.1, some p.2⟩) ++ edits.flatMap Edit.writes

namespace Entries

/-- The entries that pairs fill and then edits change. -/
def edited (pairs : List (String × String)) (edits : List Edit) : Entries :=
  edits.foldl Edit.apply (ofList pairs)

/-- Steps that do edits leave the edited entries and ask nobody. -/
theorem after_steps {τ : Type} [Api.Transport τ] (c : Client Entries τ) (edits : List Edit) :
    after c (edits.map Edit.step) = ⟨edits.foldl Edit.apply c.storage, c.transport⟩ := by
  induction edits generalizing c with
  | nil => rfl
  | cons edit edits ih =>
    have hstep : (edit.step.run c).value.2 = ⟨edit.apply c.storage, c.transport⟩ := by
      cases edit <;> rfl
    rw [List.map_cons, List.foldl_cons]
    show after (edit.step.run c).value.2 (edits.map Edit.step) = _
    rw [hstep, ih]

theorem apply_eq (e : Entries) (edit : Edit) : edit.apply e = edit.writes.foldl write e := by
  cases edit <;> rfl

theorem foldl_apply (e : Entries) (edits : List Edit) :
    edits.foldl Edit.apply e = (edits.flatMap Edit.writes).foldl write e := by
  induction edits generalizing e with
  | nil => rfl
  | cons edit edits ih =>
    rw [List.foldl_cons, ih, apply_eq, List.flatMap_cons, List.foldl_append]

theorem edited_eq (pairs : List (String × String)) (edits : List Edit) :
    edited pairs edits = (written pairs edits).foldl write empty := by
  rw [edited, foldl_apply, written, List.foldl_append, List.foldl_map]
  rfl

theorem get?_edited {pairs : List (String × String)} {edits : List Edit} {key value : String} :
    (edited pairs edits).get? key = some value ↔ LastWritten (written pairs edits) key value := by
  rw [edited_eq, get?_eq_some_iff]

/-- Edits of different keys can be swapped wherever they stand. -/
theorem alike_swap {a b : Edit} (h : Apart a.writes b.writes) (pairs : List (String × String))
    (before after : List Edit) :
    Alike (edited pairs (before ++ a :: b :: after)) (edited pairs (before ++ b :: a :: after)) := by
  refine alike_of_get? fun key => Option.ext fun value => ?_
  have hswap := lastWritten_swap h (written pairs before) (after.flatMap Edit.writes) key value
  rw [get?_edited, get?_edited]
  simpa only [written, List.flatMap_append, List.flatMap_cons, List.append_assoc] using hswap

/-- **Entries are a finite map.**  Whatever pairs fill them and whatever edits a run then does, what is
read under a key is what was last written there, and nothing where nothing was written or the key was
taken out since; the size is the number of keys that can be read, and the entries are empty exactly if
there is none; and edits of different keys can be swapped, wherever they stand, with the same to be read,
the same size and the same emptiness. -/
theorem finite_map (pairs : List (String × String)) (edits : List Edit) :
    (∀ (τ : Type) [Api.Transport τ] (t : τ),
      after ⟨ofList pairs, t⟩ (edits.map Edit.step) = ⟨edited pairs edits, t⟩) ∧
    (∀ key value, (edited pairs edits).get? key = some value ↔
      LastWritten (written pairs edits) key value) ∧
    (∀ key, (edited pairs edits).get? key = none ↔
      ∀ value, ¬ LastWritten (written pairs edits) key value) ∧
    (∃ keys : Finset String, (∀ key, key ∈ keys ↔ ((edited pairs edits).get? key).isSome) ∧
      (edited pairs edits).size = keys.card) ∧
    ((edited pairs edits).isEmpty = true ↔ ∀ key, (edited pairs edits).get? key = none) ∧
    ∀ a b : Edit, Apart a.writes b.writes → ∀ more : List Edit,
      Alike (edited pairs (edits ++ a :: b :: more)) (edited pairs (edits ++ b :: a :: more)) := by
  refine ⟨fun τ _ t => after_steps _ edits, fun key value => get?_edited, fun key => ?_,
    ⟨_, fun key => mem_keys, (card_keys _).symm⟩, isEmpty_iff, fun a b h => alike_swap h pairs edits⟩
  rw [Option.eq_none_iff_forall_ne_some]
  exact forall_congr' fun value => not_congr get?_edited

/-- A session is cleared, and saved again behind the edit of another key. -/
theorem finite_map_of_swapped_edits :
    Apart Edit.clear.writes (Edit.insert "theme" "light").writes ∧
    Alike (edited [("theme", "dark"), ("server", "http://a.test"), ("theme", "blue")]
        [.erase "theme", .clear, .insert "theme" "light", .save "http://b.test" ""])
      (edited [("theme", "dark"), ("server", "http://a.test"), ("theme", "blue")]
        [.erase "theme", .insert "theme" "light", .clear, .save "http://b.test" ""]) := by
  have h : Apart Edit.clear.writes (Edit.insert "theme" "light").writes := by decide
  exact ⟨h, (finite_map _ [.erase "theme"]).2.2.2.2.2 _ _ h _⟩

end Entries

end DnsConsole.Session
