import Whereto.Failure
import Whereto.Json.Decode
import Whereto.Url.Basic

/-!
Requests over the network. How they are carried is left open: a network is a function that takes
a request and may give a response.
-/

namespace Whereto

/-- What is requested, and under which name. -/
structure Request where
  url : Url
  agent : Option String
  deriving DecidableEq, Repr

structure Response where
  status : Nat
  body : ByteArray

/-- How requests are carried; without a response the connection failed. -/
abbrev Network (m : Type → Type) := Request → m (Option Response)

/-- A network that nobody answers on. -/
def Network.silent : Network Id := fun _ => none

/-- The characters that the name of a host may have in a request. -/
def isHostChar (c : Char) : Bool := c.isAlphanum || "-._~:[]!$&'()*+,;=".toList.contains c

/-- The longest URL in a request, in bytes. -/
def longestUrl : Nat := 65534

/-- Only requests with a host and one of these schemes are sent. -/
def Request.isSendable (r : Request) : Bool :=
  ["http", "https"].contains r.url.scheme && r.url.host.any (·.toList.all isHostChar) &&
    r.url.text.utf8ByteSize ≤ longestUrl

/-- What a response holds, unless its status tells of an error. -/
def Response.decode {α : Type} (r : Response) (d : Json.Decoder α) : Except HttpFault α :=
  if 400 ≤ r.status ∧ r.status ≤ 599 then .error (.status r.status)
  else
    match String.fromUTF8? r.body with
    | none => .error .decode
    | some text =>
      match Json.decodeText d text with
      | .ok a => .ok a
      | .error _ => .error .decode

/-- Sends a request and reads the response. -/
def Network.fetch {m : Type → Type} [Monad m] {α : Type} (net : Network m) (r : Request)
    (d : Json.Decoder α) : m (Except HttpFault α) :=
  if r.isSendable then do
    match ← net r with
    | none => return .error .transport
    | some response => return response.decode d
  else return .error .builder

end Whereto
