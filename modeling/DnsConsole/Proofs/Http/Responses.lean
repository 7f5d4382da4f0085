import DnsConsole.Http.Coding

/-!
# What becomes of a response

A response may carry a header more than once; `Response.values` are its values in order.  What is done to
an answer on its way touches its status never, its body only for HEAD, and no header but those that it
speaks of (`values_addHeaders`, `values_measured`, `values_compress`).

A router finds the same part for a path with a layer as without it, so that the layer can be looked at by
itself: what compression does inside of a route it does outside as well (`answer_layer_compressing`), if
what the route answers is produced while it is sent or is too short to be compressed.
-/

namespace DnsConsole.Http

/-! ### Headers -/

/-- The values under a name, in order. -/
def valuesOf (name : String) (headers : List (String × String)) : List String :=
  (headers.filter fun h => h.1 = name).map (·.2)

theorem mem_valuesOf_iff {name value : String} {headers : List (String × String)} :
    value ∈ valuesOf name headers ↔ (name, value) ∈ headers := by
  simp [valuesOf]

theorem valuesOf_append (name : String) (a b : List (String × String)) :
    valuesOf name (a ++ b) = valuesOf name a ++ valuesOf name b := by
  simp [valuesOf]

/-- Only values of other names are dropped. -/
theorem valuesOf_filter {name : String} {p : String × String → Bool}
    (h : ∀ value, p (name, value) = true) (headers : List (String × String)) :
    valuesOf name (headers.filter p) = valuesOf name headers := by
  unfold valuesOf
  rw [List.filter_filter]
  congr 1
  refine List.filter_congr fun x _ => ?_
  obtain ⟨n, value⟩ := x
  by_cases hn : n = name
  · subst hn
    simp [h value]
  · simp [hn]

namespace Response

/-- The values of a header of a response, in order. -/
def values (r : Response) (name : String) : List String :=
  valuesOf name r.headers

theorem mem_values_iff {r : Response} {name value : String} :
    value ∈ r.values name ↔ (name, value) ∈ r.headers :=
  mem_valuesOf_iff

theorem values_addHeaders (r : Response) (headers : List (String × String)) (name : String) :
    (r.addHeaders headers).values name = r.values name ++ valuesOf name headers :=
  valuesOf_append name r.headers headers

theorem values_answering (request : Request) (r : Response) (name : String) :
    (r.answering request).values name = r.values name := by
  unfold answering
  split <;> rfl

/-- The headers that compression adds or takes away. -/
def codingHeaders : List String :=
  ["vary", "content-encoding", "content-length", "accept-ranges"]

theorem values_compress {name : String} (h : name ∉ codingHeaders) (request : Request) (r : Response) :
    (r.compress request).values name = r.values name := by
  obtain ⟨hvary, hencoding, hlength, hranges⟩ :
      name ≠ "vary" ∧ name ≠ "content-encoding" ∧ name ≠ "content-length" ∧ name ≠ "accept-ranges" := by
    simpa [codingHeaders] using h
  have hadded : (r.addHeaders [("vary", "accept-encoding")]).values name = r.values name := by
    rw [values_addHeaders]
    simp [valuesOf, hvary.symm]
  unfold compress
  split
  · dsimp only
    split
    · exact hadded
    · unfold values at hadded ⊢
      rw [valuesOf_append, valuesOf_filter (by simp [hlength, hranges]), hadded]
      simp [valuesOf, hencoding.symm]
  · rfl

theorem headers_answering (request : Request) (r : Response) :
    (r.answering request).headers = r.headers := by
  unfold answering
  split <;> rfl

theorem values_measured {name : String} (h : name ≠ "content-length") (r : Response) :
    r.measured.values name = r.values name := by
  unfold measured
  split
  · rfl
  · rw [values_addHeaders]
    simp [valuesOf, h.symm]

/-! ### Status and body -/

theorem status_compress (request : Request) (r : Response) :
    (r.compress request).status = r.status := by
  unfold compress
  split
  · dsimp only
    split <;> rfl
  · rfl

theorem body_compress (request : Request) (r : Response) : (r.compress request).body = r.body := by
  unfold compress
  split
  · dsimp only
    split <;> rfl
  · rfl

theorem status_answering (request : Request) (r : Response) :
    (r.answering request).status = r.status := by
  unfold answering
  split <;> rfl

theorem streamed_answering (request : Request) (r : Response) :
    (r.answering request).streamed = r.streamed := by
  unfold answering
  split <;> rfl

theorem length_body_answering_le (request : Request) (r : Response) :
    (r.answering request).body.length ≤ r.body.length := by
  unfold answering
  split
  · exact Nat.zero_le _
  · exact Nat.le_refl _

theorem status_measured (r : Response) : r.measured.status = r.status := by
  unfold measured
  split <;> rfl

theorem body_measured (r : Response) : r.measured.body = r.body := by
  unfold measured
  split <;> rfl

theorem streamed_measured (r : Response) : r.measured.streamed = r.streamed := by
  unfold measured
  split <;> rfl

/-- A response that is produced while it is sent has no length to tell. -/
theorem measured_of_streamed {r : Response} (h : r.streamed = true) : r.measured = r := by
  unfold measured
  rw [h]
  rfl

/-! ### Compression -/

/-- A response that is short is not compressed. -/
theorem compress_of_short {r : Response} (hstreamed : r.streamed = false) (hshort : r.body.length < 32)
    (request : Request) : r.compress request = r := by
  have hlong : ¬ 32 ≤ r.body.length := Nat.not_le.mpr hshort
  have hsmall : r.isCompressible = false := by
    unfold isCompressible
    rw [hstreamed, Bool.false_or, decide_eq_false hlong, Bool.and_false]
  unfold compress
  rw [hsmall]
  rfl

/-- There is nothing to compress where there is no body. -/
theorem compress_empty (request : Request) (status : Nat) (headers : List (String × String)) :
    (empty status headers).compress request = empty status headers :=
  compress_of_short rfl (by decide : ([] : List UInt8).length < 32) request

theorem streamed_compress {r : Response} (h : r.streamed = true) (request : Request) :
    (r.compress request).streamed = true := by
  unfold compress
  split
  · dsimp only
    split
    · exact h
    · rfl
  · exact h

/-- What is produced while it is sent is compressed whether it is sent or left out. -/
theorem compress_answering {r : Response} (h : r.streamed = true) (request : Request) :
    (r.answering request).compress request = (r.compress request).answering request := by
  have hsame : r.withoutBody.isCompressible = r.isCompressible := by
    unfold isCompressible withoutBody header?
    rw [h, Bool.true_or, Bool.true_or]
  unfold answering
  split
  · unfold compress
    rw [hsame]
    split
    · dsimp only
      split <;> rfl
    · rfl
  · rfl

end Response

/-! ### Routes -/

namespace Route

theorem answer_of_asksContent {r : Route} {request : Request} (h : request.asksContent = true) :
    r.answer request = (r.content request).measured.answering request :=
  if_pos h

theorem answer_of_not_asksContent {r : Route} {request : Request} (h : request.asksContent = false) :
    r.answer request = ((r.refusal request).addHeaders Response.knownMethods).measured :=
  if_neg (Bool.eq_false_iff.mp h)

theorem status_answer (r : Route) (request : Request) :
    (r.answer request).status =
      if request.asksContent then (r.content request).status else (r.refusal request).status := by
  unfold answer
  split
  · rw [Response.status_answering, Response.status_measured]
  · rw [Response.status_measured]
    rfl

theorem values_answer {name : String} (hlength : name ≠ "content-length") (hallow : name ≠ "allow")
    (r : Route) (request : Request) :
    (r.answer request).values name =
      if request.asksContent then (r.content request).values name
      else (r.refusal request).values name := by
  unfold answer
  split
  · rw [Response.values_answering, Response.values_measured hlength]
  · rw [Response.values_measured hlength, Response.values_addHeaders]
    simp [valuesOf, Response.knownMethods, hallow.symm]

/-- What a route answers is produced while it is sent or is short, and a refusal is short. -/
structure IsLight (r : Route) (request : Request) : Prop where
  content : (r.content request).streamed = true ∨ (r.content request).body.length < 32
  streamed : (r.refusal request).streamed = false
  refusal : (r.refusal request).body.length < 32

theorem answer_layer_compressing {r : Route} {request : Request} (h : r.IsLight request) :
    (r.layer compressing).answer request = (r.answer request).compress request := by
  cases hasks : request.asksContent with
  | true =>
    rw [answer_of_asksContent hasks, answer_of_asksContent hasks]
    have hinner : (r.layer compressing).content request = (r.content request).compress request := rfl
    rw [hinner]
    cases hstreamed : (r.content request).streamed with
    | true =>
      rw [Response.measured_of_streamed (Response.streamed_compress hstreamed request),
        Response.measured_of_streamed hstreamed, Response.compress_answering hstreamed]
    | false =>
      have hshort := h.content.resolve_left (Bool.eq_false_iff.mp hstreamed)
      rw [Response.compress_of_short hstreamed hshort, Response.compress_of_short]
      · rw [Response.streamed_answering, Response.streamed_measured, hstreamed]
      · refine Nat.lt_of_le_of_lt (Response.length_body_answering_le request _) ?_
        rwa [Response.body_measured]
  | false =>
    rw [answer_of_not_asksContent hasks, answer_of_not_asksContent hasks]
    have hinner : (r.layer compressing).refusal request = r.refusal request :=
      Response.compress_of_short h.streamed h.refusal request
    rw [hinner, Response.compress_of_short]
    · exact (Response.streamed_measured _).trans h.streamed
    · rw [Response.body_measured]
      exact h.refusal

end Route

/-! ### Routers -/

namespace Router

theorem below?_eq_none_iff {front path : List Char} :
    below? front path = none ↔ path ≠ front ∧ ¬ front ++ ['/'] <+: path := by
  unfold below?
  by_cases hfront : path = front
  · simp [hfront]
  · by_cases hbelow : front ++ ['/'] <+: path
    · rw [if_neg hfront, if_pos (List.isPrefixOf_iff_prefix.mpr hbelow)]
      exact ⟨(fun h => nomatch h), fun h => absurd hbelow h.2⟩
    · rw [if_neg hfront, if_neg fun h => hbelow (List.isPrefixOf_iff_prefix.mp h)]
      exact ⟨fun _ => ⟨hfront, hbelow⟩, fun _ => rfl⟩

/-- A service behind a path sees a shorter one. -/
theorem length_of_below? {front path below : List Char} (hfront : 1 < front.length)
    (h : below? front path = some below) : below.length < path.length := by
  unfold below? at h
  split at h
  next hpath =>
    obtain rfl := Option.some.inj h
    rw [hpath]
    exact hfront
  next =>
    split at h
    next hprefix =>
      obtain rfl := Option.some.inj h
      have hle := (List.isPrefixOf_iff_prefix.mp hprefix).length_le
      rw [List.length_append] at hle
      rw [List.length_drop]
      omega
    next => cases h

theorem lookup_layer (router : Router) (f : Layer) (path : List Char) :
    (router.layer f).routes.lookup path = (router.routes.lookup path).map (Route.layer f) := by
  unfold layer
  dsimp only
  induction router.routes with
  | nil => rfl
  | cons p routes ih =>
    rw [List.map_cons, List.lookup_cons, List.lookup_cons, ih]
    cases path == p.1 <;> rfl

theorem find?_layer (router : Router) (f : Layer) (p : List Char → Bool) :
    (router.layer f).nested.find? (fun x => p x.1) =
      (router.nested.find? fun x => p x.1).map fun x => (x.1, f x.2) :=
  List.find?_map

theorem answer_of_route {router : Router} {request : Request} {r : Route}
    (h : router.routes.lookup request.target.path = some r) :
    router.answer request = r.answer request := by
  unfold answer
  rw [h]

/-- **Compression may be put around a router or around its answers.** -/
theorem answer_layer_compressing {router : Router} {request : Request}
    (h : ∀ r, router.routes.lookup request.target.path = some r → r.IsLight request) :
    (router.layer compressing).answer request = (router.answer request).compress request := by
  unfold answer
  rw [lookup_layer]
  cases hroute : router.routes.lookup request.target.path with
  | some r => exact Route.answer_layer_compressing (h r hroute)
  | none =>
    dsimp only [Option.map_none]
    rw [find?_layer router compressing fun path => (below? path request.target.path).isSome]
    cases router.nested.find? fun p => (below? p.1 request.target.path).isSome with
    | some p => rfl
    | none => rfl

end Router

end DnsConsole.Http
