import DnsConsole.Trace

/-!
# Storage

A session lives in a storage of texts under text keys.  `Entries` is such a storage, a list of pairs in
which no key occurs twice: reading a key gives what was last written under it, unless it was erased
since, and `size` counts the keys that can be read.

The client side of the console is also rendered on the server, where there is no browser: no page is
open, the storage drops what is written and holds nothing, and no request can be made (`Browserless`).
-/

namespace DnsConsole.Session

/-- A storage of texts under text keys. -/
class Storage (σ : Type) where
  get? : σ → String → Option String
  insert : σ → String → String → σ
  erase : σ → String → σ

/-- The list of pairs with a value put under a key, in its place if the key is there. -/
def put (k v : String) : List (String × String) → List (String × String)
  | [] => [(k, v)]
  | (key, value) :: rest => if key = k then (k, v) :: rest else (key, value) :: put k v rest

/-- The list of pairs without a key. -/
def remove (k : String) (entries : List (String × String)) : List (String × String) :=
  entries.filter (·.1 ≠ k)

theorem lookup_cons (key value x : String) (es : List (String × String)) :
    ((key, value) :: es).lookup x = if key = x then some value else es.lookup x := by
  by_cases h : key = x
  · rw [if_pos h, h, List.lookup_cons_self]
  · rw [if_neg h, List.lookup_cons, beq_false_of_ne (Ne.symm h)]

theorem lookup_put (k v x : String) (es : List (String × String)) :
    (put k v es).lookup x = if k = x then some v else es.lookup x := by
  induction es with
  | nil => exact lookup_cons k v x []
  | cons e r ih =>
    rw [put, lookup_cons]
    by_cases h : e.1 = k
    · rw [if_pos h, lookup_cons, h]
      by_cases hx : k = x
      · rw [if_pos hx, if_pos hx]
      · rw [if_neg hx, if_neg hx, if_neg hx]
    · rw [if_neg h, lookup_cons, ih]
      by_cases hx : e.1 = x
      · rw [if_pos hx, if_neg (fun hk => h (hx.trans hk.symm)), if_pos hx]
      · rw [if_neg hx, if_neg hx]

theorem lookup_remove (k x : String) (es : List (String × String)) :
    (remove k es).lookup x = if k = x then none else es.lookup x := by
  induction es with
  | nil => exact (ite_self none).symm
  | cons e r ih =>
    rw [lookup_cons]
    by_cases h : e.1 = k
    · have hdropped : remove k (e :: r) = remove k r := List.filter_cons_of_neg (by simpa using h)
      rw [hdropped, ih, h]
      by_cases hx : k = x
      · rw [if_pos hx, if_pos hx]
      · rw [if_neg hx, if_neg hx, if_neg hx]
    · have hkept : remove k (e :: r) = e :: remove k r := List.filter_cons_of_pos (by simpa using h)
      rw [hkept, lookup_cons, ih]
      by_cases hx : e.1 = x
      · rw [if_pos hx, if_neg (fun hk => h (hx.trans hk.symm)), if_pos hx]
      · rw [if_neg hx, if_neg hx]

theorem fst_mem_put {k v x : String} {es : List (String × String)} :
    x ∈ (put k v es).map Prod.fst ↔ x = k ∨ x ∈ es.map Prod.fst := by
  induction es with
  | nil => simp [put]
  | cons e r ih =>
    simp only [put]
    split
    · simp_all
    · simp_all; grind

theorem nodup_put {k v : String} {es : List (String × String)} (h : (es.map Prod.fst).Nodup) :
    ((put k v es).map Prod.fst).Nodup := by
  induction es with
  | nil => simp [put]
  | cons e r ih =>
    simp only [List.map_cons, List.nodup_cons] at h
    simp only [put]
    split
    next hk => simpa [← hk] using h
    next hk =>
      rw [List.map_cons, List.nodup_cons, fst_mem_put]
      exact ⟨fun hx => hx.elim hk h.1, ih h.2⟩

theorem nodup_remove {k : String} {es : List (String × String)} (h : (es.map Prod.fst).Nodup) :
    ((remove k es).map Prod.fst).Nodup :=
  List.Nodup.sublist (List.Sublist.map _ List.filter_sublist) h

/-- A storage in memory. -/
structure Entries where
  pairs : List (String × String)
  nodup : (pairs.map Prod.fst).Nodup
  deriving Repr

namespace Entries

/-- The storage that holds nothing. -/
def empty : Entries := ⟨[], by simp⟩

/-- The value under a key. -/
def get? (e : Entries) (k : String) : Option String :=
  e.pairs.lookup k

/-- The storage with a value written under a key. -/
def insert (e : Entries) (k v : String) : Entries :=
  ⟨put k v e.pairs, nodup_put e.nodup⟩

/-- The storage without a key. -/
def erase (e : Entries) (k : String) : Entries :=
  ⟨remove k e.pairs, nodup_remove e.nodup⟩

/-- The storage that some pairs fill, the later ones overwriting the earlier ones. -/
def ofList (pairs : List (String × String)) : Entries :=
  pairs.foldl (fun e p => e.insert p.1 p.2) empty

@[simp] theorem get?_empty (k : String) : empty.get? k = none := rfl

theorem get?_insert (e : Entries) (k v x : String) :
    (e.insert k v).get? x = if k = x then some v else e.get? x :=
  lookup_put k v x e.pairs

theorem get?_erase (e : Entries) (k x : String) :
    (e.erase k).get? x = if k = x then none else e.get? x :=
  lookup_remove k x e.pairs

/-- How many keys the storage holds. -/
def size (e : Entries) : Nat :=
  e.pairs.length

/-- Whether the storage holds nothing. -/
def isEmpty (e : Entries) : Bool :=
  e.pairs.isEmpty

end Entries

instance : Storage Entries := ⟨Entries.get?, Entries.insert, Entries.erase⟩

/-- Warns about a write that the storage of the browser refused, and says whether it was accepted. -/
def reportWrite (accepted : Bool) (action key : String) : Traced Bool :=
  if accepted then pure true
  else do
    record .warn .store ("localStorage rejected " ++ action ++ " of " ++ key)
    return false

/-! ### Without a browser -/

/-- The storage and the transport where there is no browser. -/
inductive Browserless
  | absent
  deriving DecidableEq, Repr

instance : Storage Browserless where
  get? _ _ := none
  insert s _ _ := s
  erase s _ := s

instance : Api.Transport Browserless where
  get t _ := (.error .unavailable, t)

/-- The URL of the page that is open: none. -/
def Browserless.pageUrl? : Browserless → Option String
  | absent => none

end DnsConsole.Session
