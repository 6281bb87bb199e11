/-
**Requests and responses.**

A request names an address and how it is asked for. A response has a status, headers and a body,
which arrives whole or piece by piece; instead of a piece a failure may arrive.

* `Headers`: named values, the names alike in any letter case;
* `Codec`: how the bytes of a body are read;
* `Response.isRefusal`: whether the status says that the request was refused;
* `Response.text`, `Response.data`: the body as text and as data;
* `Response.arrivals`: the pieces in which the body arrives.
-/

import AssetFetch.Failure
import AssetFetch.Text.LowerCase

namespace AssetFetch

open AssetFetch.Text

/-- A request. `authorization` is the whole value of the header of that name. -/
structure Request where
  url : Value
  accept : String
  authorization : Option String
  timeout : Value
  streamed : Bool
  deriving Inhabited, Repr

/-- Named values in the order of their first mention. -/
abbrev Headers := List (String × Value)

namespace Headers

/-- Whether two names are the same header. -/
def sameName (left right : String) : Bool :=
  lower left == lower right

/-- Sets a header; the name is written as in the last mention, at the place of the first. -/
def set (name : String) (value : Value) : Headers → Headers
  | [] => [(name, value)]
  | (key, old) :: rest =>
    if sameName key name then (name, value) :: rest else (key, old) :: set name value rest

/-- The headers of a list of mentions. -/
def ofMentions (mentions : List (String × Value)) : Headers :=
  mentions.foldl (fun headers mention => set mention.1 mention.2 headers) []

/-- The value of a header. -/
def value? (headers : Headers) (name : String) : Option Value :=
  (headers.find? fun header => sameName header.1 name).map Prod.snd

/-- The headers as a value. -/
def toValue (headers : Headers) : Value :=
  .record (headers.map fun header => (LooseText.ofString header.1, header.2))

end Headers

/-- A body: all its bytes, or what arrives bit by bit. -/
inductive Body where
  | whole (bytes : Bytes)
  | pieces (arrivals : List (Except Failure Bytes))
  deriving Inhabited

/-- How the bytes of a body are read as text and as data. Both depend on what the headers declare
and on what the bytes look like, and both may fail, though not as a lookup or a download does. -/
structure Codec where
  text : Bytes → Except Failure LooseText
  data : Bytes → Except Failure Value
  text_foreign : ∀ bytes failure, text bytes = .error failure → failure.isFetch = false
  data_foreign : ∀ bytes failure, data bytes = .error failure → failure.isFetch = false

/-- The codec of UTF-8: what is damaged is replaced, and data is JSON with so many lists and records
inside each other. -/
def Codec.utf8 (depth : Nat) : Codec where
  text bytes := .ok (decodeLossy bytes)
  data bytes := (Json.read depth (decodeLossy bytes)).mapError .ofJson
  text_foreign _ _ failed := nomatch failed
  data_foreign bytes failure failed := by
    cases read : Json.read depth (decodeLossy bytes) with
    | ok value =>
      rw [read] at failed
      cases failed
    | error fault =>
      rw [read] at failed
      cases failed
      cases fault <;> rfl

instance : Inhabited Codec := ⟨.utf8 Json.Depths.usual.read⟩

/-- A response. -/
structure Response where
  status : Int
  headers : Headers
  body : Body
  codec : Codec
  deriving Inhabited

/-- Everything that arrives, or the first failure among it. -/
def gather : List (Except Failure Bytes) → Except Failure Bytes
  | [] => .ok []
  | .error failure :: _ => .error failure
  | .ok bytes :: rest => (gather rest).map (bytes ++ ·)

/-- Bytes cut into stretches of `1 + more`, the last one possibly shorter. -/
def cutInto (more : Nat) (bytes : Bytes) : List Bytes :=
  match bytes with
  | [] => []
  | first :: rest => (first :: rest.take more) :: cutInto more (rest.drop more)
termination_by bytes.length
decreasing_by simp only [List.length_cons, List.length_drop]; omega

/-- The stretches in which bytes are handed over: of a size, none at all if that is zero, and in one
piece if it is negative. -/
def stretches : (size : Int) → Bytes → List Bytes
  | .ofNat 0, _ => []
  | .ofNat (more + 1), bytes => cutInto more bytes
  | .negSucc _, bytes => if bytes.isEmpty then [] else [bytes]

namespace Response

/-- Whether the request was refused. -/
def isRefusal (response : Response) : Bool :=
  400 ≤ response.status && response.status < 600

/-- All bytes of the body. A response of status zero has none that could be read at once. -/
def bytes (response : Response) : Except Failure Bytes :=
  if response.status == 0 then .ok []
  else
    match response.body with
    | .whole bytes => .ok bytes
    | .pieces arrivals => gather arrivals

/-- The body as text. -/
def text (response : Response) : Except Failure LooseText :=
  response.bytes.bind response.codec.text

/-- The body as data. -/
def data (response : Response) : Except Failure Value :=
  response.bytes.bind response.codec.data

/-- The pieces in which the body arrives; a whole body is cut into stretches of a size. -/
def arrivals (response : Response) (size : Int) : List (Except Failure Bytes) :=
  match response.body with
  | .whole bytes => (stretches size bytes).map .ok
  | .pieces arrivals => arrivals

end Response

end AssetFetch
