import Whereto.Url.Host

/-!
URLs, as browsers read them: white space and control characters around a URL do not count, nor
do tabs and line ends in it, and the dots of a path are resolved. A path is kept as the list of
its segments; the path that is a lone slash is the list of one empty segment.
-/

namespace Whereto

/-- A path in segments, or a text that is not divided. -/
inductive UrlPath where
  | segments (ss : List String)
  | undivided (text : String)
  deriving DecidableEq, Repr

structure Url where
  scheme : String
  host : Option String
  port : Option Nat
  path : UrlPath
  query : Option String
  fragment : Option String
  deriving DecidableEq, Repr

namespace Url

/-! Schemes. -/

/-- The port that a scheme has where none is given; only special schemes have one. -/
def schemePorts : List (String × Nat) :=
  [("http", 80), ("https", 443), ("ws", 80), ("wss", 443), ("ftp", 21)]

def fileScheme : String := "file"

def isSpecialScheme (scheme : String) : Bool :=
  scheme = fileScheme || schemePorts.any (·.1 = scheme)

def isSpecial (u : Url) : Bool := isSpecialScheme u.scheme

def isSchemeChar (c : Char) : Bool := c.isAlphanum || c = '+' || c = '-' || c = '.'

/-- The scheme and what follows its colon. -/
def readScheme? (cs : List Char) : Option (String × List Char) :=
  match cs.takeWhile isSchemeChar, cs.dropWhile isSchemeChar with
  | c :: name, ':' :: rest =>
    if c.isAlpha then some (String.ofList ((c :: name).map Char.toLower), rest) else none
  | _, _ => none

/-! Paths. -/

def oneDot : List String := [".", "%2e", "%2E"]

def twoDots : List String :=
  ["..", "%2e%2e", "%2e%2E", "%2E%2e", "%2E%2E", ".%2e", ".%2E", "%2e.", "%2E."]

/-- Goes on to a segment: one dot stays, two dots go back, and a path that ends with dots ends
with a slash. -/
def enterSegment (done : List String) (s : String) (isLast : Bool) : List String :=
  let ending := if isLast then [""] else []
  if twoDots.contains s then done.dropLast ++ ending
  else if oneDot.contains s then done ++ ending
  else done ++ [s]

def resolveDots (done : List String) : List String → List String
  | [] => done
  | [s] => enterSegment done s true
  | s :: ss => resolveDots (enterSegment done s false) ss

def isSlash (special : Bool) (c : Char) : Bool := c = '/' || (special && c = '\\')

/-- The segments of a path after its first slash. -/
def readSegments (special : Bool) (cs : List Char) : List String :=
  let unified := cs.map fun c => if isSlash special c then '/' else c
  resolveDots [] ((Text.cut '/' unified).map fun s => String.ofList (Percent.encode inPath s))

/-! Authorities. -/

def endsAuthority (special : Bool) (c : Char) : Bool := isSlash special c || c = '?' || c = '#'

def largestPort : Nat := 65535

/-- What stands before the last at sign, if there is one, and what stands behind it. -/
def afterAt (cs : List Char) : Option (List Char) × List Char :=
  let back := cs.reverse
  if back.contains '@' then
    (some ((back.dropWhile (· ≠ '@')).drop 1).reverse, (back.takeWhile (· ≠ '@')).reverse)
  else (none, cs)

/-- The host and what follows it; a colon between brackets does not end it. -/
def splitHost (inBrackets : Bool) : List Char → List Char × List Char
  | [] => ([], [])
  | c :: cs =>
    if c = ':' ∧ !inBrackets then ([], c :: cs)
    else
      let (host, rest) := splitHost (if c = '[' then true else if c = ']' then false
        else inBrackets) cs
      (c :: host, rest)

/-- The port after the colon, and what follows it. The usual port of the scheme is left out. A
backslash ends a port wherever it stands. -/
def readPort (scheme : String) (cs : List Char) : Except Fault (Option Nat × List Char) :=
  let digits := cs.takeWhile (· ≠ '\\')
  let rest := cs.dropWhile (· ≠ '\\')
  if digits.isEmpty then .ok (none, rest)
  else if !digits.all Char.isDigit then .error .badPort
  else
    match digitsBelow? 10 digits with
    | some n =>
      if largestPort < n then .error .badPort
      else .ok (if schemePorts.contains (scheme, n) then none else some n, rest)
    | none => .error .badPort

/-- Whether something is left of a user when the empty password is left out. -/
def namesUser (user : List Char) : Bool := !user.isEmpty && user ≠ [':']

/-- Host and port, and what follows them. -/
def readAuthority (scheme : String) (cs : List Char) (atEnd : Bool) :
    Except Fault (Option String × Option Nat × List Char) := do
  let special := isSpecialScheme scheme
  let (user, place) := afterAt cs
  let (host, rest) := splitHost false place
  let name ←
    if special then if host.isEmpty then .error .emptyHost else readHost host
    else readOtherHost host
  if name.isEmpty ∧ (!rest.isEmpty ∨ user.any fun u => namesUser u || (u.isEmpty && !atEnd)) then
    .error .emptyHost
  else
    let (port, more) ← readPort scheme (rest.drop 1)
    return (if name.isEmpty then none else some name, port, more)

/-! URLs. -/

def stops (c : Char) : Bool := c = '?' || c = '#'

/-- The query in what follows a path. -/
def readQuery (special : Bool) : List Char → Option String
  | '?' :: cs =>
    some (String.ofList (Percent.encode (inQuery special) (cs.takeWhile (· ≠ '#'))))
  | _ => none

/-- The fragment in what follows a path. -/
def readFragment (cs : List Char) : Option String :=
  match cs.dropWhile (· ≠ '#') with
  | '#' :: rest => some (String.ofList (Percent.encode inFragment rest))
  | _ => none

/-- Path, query and fragment. -/
def readRest (scheme : String) (host : Option String) (port : Option Nat) (cs : List Char) :
    Url :=
  let special := isSpecialScheme scheme
  let path := cs.takeWhile (!stops ·)
  let ss := match path with
    | [] => if special then [""] else []
    | c :: rest => readSegments special (if isSlash special c then rest else path)
  let more := cs.dropWhile (!stops ·)
  ⟨scheme, host, port, .segments ss, readQuery special more, readFragment more⟩

def readWithAuthority (scheme : String) (cs : List Char) : Except Fault Url := do
  let special := isSpecialScheme scheme
  let authority := cs.takeWhile (!endsAuthority special ·)
  let rest := cs.dropWhile (!endsAuthority special ·)
  let (host, port, more) ← readAuthority scheme authority rest.isEmpty
  return readRest scheme host port (more ++ rest)

/-- Whether a text names a drive, which is part of a path and no host. -/
def isDrive : List Char → Bool
  | [c, d] => c.isAlpha && (d = ':' || d = '|')
  | _ => false

/-- A file: after two slashes comes a host, which may be left out or be this one. -/
def readFile (cs : List Char) : Except Fault Url :=
  match cs with
  | a :: b :: rest =>
    if isSlash true a && isSlash true b then do
      let name := rest.takeWhile (!endsAuthority true ·)
      let more := rest.dropWhile (!endsAuthority true ·)
      if isDrive name then return readRest fileScheme none none rest
      let host ← if name.isEmpty then pure none
        else (readHost name).map fun h => if h = "localhost" then none else some h
      return readRest fileScheme host none more
    else .ok (readRest fileScheme none none cs)
  | _ => .ok (readRest fileScheme none none cs)

def readScheme (scheme : String) (cs : List Char) : Except Fault Url :=
  if scheme = fileScheme then readFile cs
  else if isSpecialScheme scheme then readWithAuthority scheme (cs.dropWhile (isSlash true))
  else
    match cs with
    | '/' :: '/' :: rest => readWithAuthority scheme rest
    | '/' :: rest => .ok (readRest scheme none none ('/' :: rest))
    | _ =>
      let path := cs.takeWhile (!stops ·)
      let more := cs.dropWhile (!stops ·)
      .ok ⟨scheme, none, none, .undivided (String.ofList (Percent.encode isControl path)),
        readQuery false more, readFragment more⟩

/-- Tabs and line ends count nowhere in a URL. -/
def isDropped (c : Char) : Bool := c = '\t' || c = '\n' || c = '\r'

def isPadding (c : Char) : Bool := c.toNat ≤ 0x20

def read (text : String) : Except Fault Url :=
  let inner := ((text.toList.dropWhile isPadding).reverse.dropWhile isPadding).reverse
  match readScheme? (inner.filter (!isDropped ·)) with
  | some (scheme, rest) => readScheme scheme rest
  | none => .error .relative

/-! Longer URLs. -/

/-- The path without an empty segment at its end; a lone slash stays. -/
def withoutTrailing (ss : List String) : List String :=
  if 1 < ss.length ∧ ss.getLast? = some "" then ss.dropLast else ss

/-- A segment added to a path. A segment of dots alone is skipped; one that becomes such when
tabs and line ends are dropped goes the way of the dots. -/
def addSegment (special : Bool) (ss : List String) (s : String) : List String :=
  if s = "." ∨ s = ".." then ss
  else
    let kept := s.toList.filter (!isDropped ·)
    let encoded := String.ofList (Percent.encode (inSegment special) kept)
    enterSegment (if ss = [""] then [] else ss) encoded true

/-- The URL with segments added to its path, if that is divided. -/
def extend? (u : Url) (added : List String) : Option Url :=
  match u.path with
  | .segments ss =>
    some { u with path := .segments (added.foldl (addSegment u.isSpecial) (withoutTrailing ss)) }
  | .undivided _ => none

def formPair (p : String × String) : String :=
  String.ofList (encodeForm p.1.toList ++ '=' :: encodeForm p.2.toList)

def formText : List (String × String) → String
  | [] => ""
  | [p] => formPair p
  | p :: ps => formPair p ++ "&" ++ formText ps

/-- A query with pairs added to it. -/
def addPairs (pairs : List (String × String)) : Option String → String
  | some q => if q.isEmpty then formText pairs else q ++ "&" ++ formText pairs
  | none => formText pairs

/-- The URL with pairs added to its query. -/
def withQuery (u : Url) (pairs : List (String × String)) : Url :=
  { u with query := some (addPairs pairs u.query) }

def pathText : UrlPath → String
  | .segments ss => String.join (ss.map fun s => "/" ++ s)
  | .undivided text => text

/-- The host and, if it is not the usual one, the port. -/
def authority (u : Url) : String :=
  u.host.getD "" ++ (u.port.map fun p => ":" ++ toString p).getD ""

/-- What is asked of the host: path and query. -/
def target (u : Url) : String :=
  match u.query with
  | some q => pathText u.path ++ "?" ++ q
  | none => pathText u.path

/-- The whole URL, without its user. -/
def text (u : Url) : String :=
  u.scheme ++ ":" ++ (if u.host.isSome then "//" ++ u.authority else "") ++ u.target ++
    (u.fragment.map fun f => "#" ++ f).getD ""

end Url

end Whereto
