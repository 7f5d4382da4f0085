import DnsConsole.Http.ContentType
import DnsConsole.Http.Router
import DnsConsole.Text.Numerals
import DnsConsole.Text.Pieces

/-!
# Compression

A client says which codings it accepts, each with a weight between 0 and 1.  `preferred` picks the one of the
greatest weight among those that the server knows, compression winning a tie.  `compress` applies the
choice to a response that is worth it.  The body of a compressed response stays here what it is before
compression; the header tells that it is sent compressed, and it is compressed while it is sent.
-/

namespace DnsConsole.Http

/-- A coding that the server knows. -/
inductive Coding
  | identity
  | gzip
  deriving DecidableEq, Repr

namespace Coding

/-- The coding of a name, in either case. -/
def ofName? (name : List Char) : Option Coding :=
  let name := name.map Char.toLower
  if name = "gzip".toList ∨ name = "x-gzip".toList then some gzip
  else if name = "identity".toList then some identity
  else none

/-- The thousandths that up to three decimals spell. -/
def thousandths? (decimals : List Char) : Option Nat :=
  if decimals.length ≤ 3 ∧ decimals.all Text.Decimal.isDigit then
    some (Text.Decimal.number 0 (decimals ++ List.replicate (3 - decimals.length) '0'))
  else none

/-- A weight in thousandths: `q=0` or `q=1`, with up to three decimals and at most 1. -/
def weight? (cs : List Char) : Option Nat :=
  match cs with
  | q :: '=' :: whole :: r =>
    if (q = 'q' ∨ q = 'Q') ∧ (whole = '0' ∨ whole = '1') then
      let units := Text.Decimal.value whole * 1000
      match r with
      | [] => some units
      | '.' :: decimals => do
        let n := units + (← thousandths? decimals)
        if n ≤ 1000 then some n else none
      | _ => none
    else none
  | _ => none

/-- The coding and the weight of one entry; an entry that is not understood counts for nothing. -/
def item? (cs : List Char) : Option (Coding × Nat) := do
  let (name, parameter) := Text.cut ';' cs
  let coding ← ofName? (Text.trimChars name)
  match parameter with
  | none => return (coding, 1000)
  | some p => return (coding, ← weight? (Text.trimChars p))

/-- The entries of all headers. -/
def entries (values : List String) : List (Coding × Nat) :=
  ((values.filter Request.isPlain).flatMap fun v => Text.split ',' v.toList).filterMap item?

/-- The greatest weight of a coding among some entries; 0 if there is none. -/
def greatestWeight (coding : Coding) (es : List (Coding × Nat)) : Nat :=
  ((es.filter (·.1 = coding)).map (·.2)).foldl max 0

/-- The coding that is preferred: compression if it is accepted at all and no less than the plain
body. -/
def preferred (values : List String) : Coding :=
  let es := entries values
  let weight := greatestWeight gzip es
  if 0 < weight ∧ greatestWeight identity es ≤ weight then gzip else identity

end Coding

namespace Response

/-- Whether a response is worth compressing: it is not compressed yet, not a part of something, of a
type that can get smaller, and not shorter than 32 bytes. -/
def isCompressible (r : Response) : Bool :=
  (r.header? "content-encoding").isNone && (r.header? "content-range").isNone &&
    (match r.header? "content-type" with
      | some type => ContentType.isCompressible type
      | none => true) &&
    (r.streamed || 32 ≤ r.body.length)

/-- The response as it is sent, compressed if it is worth it and the client prefers that. -/
def compress (request : Request) (r : Response) : Response :=
  if r.isCompressible then
    let r := r.addHeaders [("vary", "accept-encoding")]
    match Coding.preferred (request.all "accept-encoding") with
    | .identity => r
    | .gzip =>
      { r with
        headers :=
          r.headers.filter (fun h => h.1 != "content-length" && h.1 != "accept-ranges") ++
            [("content-encoding", "gzip")],
        streamed := true }
  else r

end Response

/-- The layer that compresses answers. -/
def compressing : Layer := fun service request =>
  (service request).compress request

end DnsConsole.Http
