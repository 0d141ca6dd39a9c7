import Whereto.Domain.Name
import Whereto.Url.Fault
import Whereto.Url.Percent

/-!
Hosts of URLs: IPv6 addresses in brackets, IPv4 addresses in any of their spellings, and domain
names. A host is kept as the text under which it is looked for.
-/

namespace Whereto.Url

/-! IPv4 addresses. -/

def digitBelow? (base : Nat) (c : Char) : Option Nat := (hexValue? c).filter (· < base)

def digitsBelow? (base : Nat) (cs : List Char) : Option Nat :=
  cs.foldlM (fun n c => (digitBelow? base c).map (base * n + ·)) 0

/-- A part of an address: hexadecimal after `0x`, octal after `0`, or else decimal. -/
def ipv4Part? : List Char → Option Nat
  | [] => none
  | '0' :: 'x' :: cs => digitsBelow? 16 cs
  | '0' :: 'X' :: cs => digitsBelow? 16 cs
  | '0' :: c :: cs => digitsBelow? 8 (c :: cs)
  | cs => digitsBelow? 10 cs

/-- The parts of a name; a point at its end does not count. -/
def nameParts (cs : List Char) : List (List Char) :=
  let parts := Text.cut '.' cs
  if 1 < parts.length ∧ parts.getLast? = some [] then parts.dropLast else parts

/-- A name whose last part is a number is meant as an address. -/
def endsInNumber (cs : List Char) : Bool :=
  match (nameParts cs).getLast? with
  | some last => (!last.isEmpty && last.all Char.isDigit) || (ipv4Part? last).isSome
  | none => false

/-- A number as so many bytes, the highest first. -/
def bytesOf : Nat → Nat → List Nat
  | 0, _ => []
  | count + 1, n => n / Nat.pow 256 count % 256 :: bytesOf count n

/-- The bytes of an address: all numbers but the last are bytes, and the last fills the rest. -/
def ipv4Bytes? (ns : List Nat) : Option (List Nat) :=
  match ns.reverse with
  | last :: others =>
    let left := 4 - others.length
    if others.length < 4 ∧ others.all (· < 256) ∧ last < Nat.pow 256 left then
      some (others.reverse ++ bytesOf left last)
    else none
  | [] => none

/-- The usual spelling of an address. -/
def ipv4Text? (cs : List Char) : Option String :=
  (((nameParts cs).mapM ipv4Part?).bind ipv4Bytes?).map fun bytes =>
    ".".intercalate (bytes.map toString)

/-! IPv6 addresses. -/

/-- Four decimal bytes without leading zeros. -/
def isDottedQuad (cs : List Char) : Bool :=
  let parts := Text.cut '.' cs
  parts.length = 4 && parts.all fun p =>
    !p.isEmpty && p.all Char.isDigit && (p.length = 1 || p.head? ≠ some '0') &&
      (digitsBelow? 10 p).any (· < 256)

def isHexGroup (cs : List Char) : Bool :=
  !cs.isEmpty && cs.length ≤ 4 && cs.all fun c => (hexValue? c).isSome

/-- How many groups of sixteen bits are written, if that is what the text is. The last two may
be written as an IPv4 address where `atEnd` holds. -/
def groupCount? (atEnd : Bool) (cs : List Char) : Option Nat :=
  if cs.isEmpty then some 0
  else
    let groups := Text.cut ':' cs
    match groups.getLast? with
    | some last =>
      if groups.all isHexGroup then some groups.length
      else if atEnd && isDottedQuad last && groups.dropLast.all isHexGroup then
        some (groups.length + 1)
      else none
    | none => none

/-- The text before and after the first pair of colons. -/
def atColons? : List Char → Option (List Char × List Char)
  | ':' :: ':' :: cs => some ([], cs)
  | c :: cs => (atColons? cs).map fun p => (c :: p.1, p.2)
  | [] => none

/-- Eight groups, or fewer with a pair of colons for the zeros left out. -/
def isIpv6 (cs : List Char) : Bool :=
  match atColons? cs with
  | none => groupCount? true cs = some 8
  | some (before, after) =>
    match groupCount? false before, groupCount? true after with
    | some m, some n => m + n ≤ 7
    | _, _ => false

/-! Hosts. -/

/-- The characters that no host may have. -/
def hostStops : List Char :=
  ['\x00', '\t', '\n', '\r', ' ', '#', '/', ':', '<', '>', '?', '@', '[', '\\', ']', '^', '|']

/-- What stands between brackets, if anything does. -/
def bracketed? : List Char → Option (Option (List Char))
  | '[' :: cs => some (if cs.getLast? = some ']' then some cs.dropLast else none)
  | _ => none

/-- The host of a URL with a scheme that is known. -/
def readHost (cs : List Char) : Except Fault String :=
  match bracketed? cs with
  | some (some inner) => if isIpv6 inner then .ok (String.ofList cs) else .error .badIpv6
  | some none => .error .badIpv6
  | none =>
    match (Percent.decodeText? cs).bind fun s => Domain.ascii? s.toList with
    | none => .error .badDomain
    | some name =>
      if name.isEmpty then .error .emptyHost
      else if endsInNumber name then
        match ipv4Text? name with
        | some address => .ok address
        | none => .error .badIpv4
      else .ok (String.ofList name)

/-- The host of a URL with any other scheme. -/
def readOtherHost (cs : List Char) : Except Fault String :=
  match bracketed? cs with
  | some (some inner) => if isIpv6 inner then .ok (String.ofList cs) else .error .badIpv6
  | some none => .error .badIpv6
  | none =>
    if cs.any hostStops.contains then .error .badCharacter
    else .ok (String.ofList (Percent.encode isControl cs))

end Whereto.Url
