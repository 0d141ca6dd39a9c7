import Whereto.Http.Network

/-!
Requests and responses as bytes on a connection that is closed after one of each.
-/

namespace Whereto

namespace Request

/-- The host to connect to; the brackets of an address are no part of it. -/
def hostName (r : Request) : String :=
  String.ofList ((r.url.host.getD "").toList.filter fun c => c ≠ '[' && c ≠ ']')

/-- The port to connect to. -/
def port (r : Request) : Nat :=
  (r.url.port.orElse fun _ => Url.schemePorts.lookup r.url.scheme).getD 80

def lineEnd : String := "\r\n"

/-- The request as it is sent. -/
def wireText (r : Request) : String :=
  let agent := (r.agent.map fun a => "user-agent: " ++ a ++ lineEnd).getD ""
  "GET " ++ r.url.target ++ " HTTP/1.1" ++ lineEnd ++ "host: " ++ r.url.authority ++ lineEnd ++
    "accept: */*" ++ lineEnd ++ agent ++ "connection: close" ++ lineEnd ++ lineEnd

end Request

namespace Response

abbrev Bytes := List UInt8

/-- A byte as a character of the head of a response. -/
def headChar (b : UInt8) : Char := Char.ofNat b.toNat

/-- A line without its end, and what follows it. -/
def readLine? : Bytes → Option (List Char × Bytes)
  | [] => none
  | 13 :: 10 :: rest => some ([], rest)
  | 10 :: rest => some ([], rest)
  | b :: rest => (readLine? rest).map fun p => (headChar b :: p.1, p.2)

/-- The name of a header in lower case, and its value. -/
def readHeader? (line : List Char) : Option (String × String) :=
  match line.dropWhile (· ≠ ':') with
  | ':' :: value =>
    some (String.ofList ((line.takeWhile (· ≠ ':')).map Char.toLower),
      Text.trim (String.ofList value))
  | _ => none

/-- The headers up to the empty line, and the body. -/
def readHeaders? : Nat → Bytes → Option (List (String × String) × Bytes)
  | 0, _ => none
  | fuel + 1, bytes => do
    let (line, rest) ← readLine? bytes
    if line.isEmpty then return ([], rest)
    let header ← readHeader? line
    let (headers, body) ← readHeaders? fuel rest
    return (header :: headers, body)

/-- A body in chunks, each after its length. -/
def readChunks? : Nat → Bytes → Option Bytes
  | 0, _ => none
  | fuel + 1, bytes => do
    let (line, rest) ← readLine? bytes
    let size ← Url.digitsBelow? 16 (line.takeWhile fun c => (Url.hexValue? c).isSome)
    if size = 0 then return []
    if rest.length < size then none
    let (_, next) ← readLine? (rest.drop size)
    let more ← readChunks? fuel next
    return rest.take size ++ more

def readStatus? (line : List Char) : Option Nat :=
  match Text.cut ' ' line with
  | _ :: code :: _ => if code.length = 3 then Url.digitsBelow? 10 code else none
  | _ => none

/-- The body that the headers announce. -/
def readBody? (status : Nat) (headers : List (String × String)) (body : Bytes) : Option Bytes :=
  if status = 204 ∨ status = 304 then some []
  else if headers.lookup "transfer-encoding" = some "chunked" then
    readChunks? (body.length + 1) body
  else
    match headers.lookup "content-length" with
    | none => some body
    | some text => do
      let size ← Url.digitsBelow? 10 text.toList
      if body.length < size then none else some (body.take size)

/-- The response that was received, if it is complete. -/
def ofBytes? (bytes : Bytes) : Option Response := do
  let (line, rest) ← readLine? bytes
  let status ← readStatus? line
  let (headers, body) ← readHeaders? (rest.length + 1) rest
  let body ← readBody? status headers body
  return ⟨status, ⟨body.toArray⟩⟩

end Response

end Whereto
