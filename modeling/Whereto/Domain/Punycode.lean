/-!
Punycode: international labels of domain names in ASCII (RFC 3492). The ASCII characters of a
label come first; after the last hyphen the others follow, each as its place and code point,
written as one number of digits whose weights adapt to the label.
-/

namespace Whereto.Domain.Punycode

def digitValue? (c : Char) : Option Nat :=
  if 'a' ≤ c ∧ c ≤ 'z' then some (c.toNat - 'a'.toNat)
  else if 'A' ≤ c ∧ c ≤ 'Z' then some (c.toNat - 'A'.toNat)
  else if '0' ≤ c ∧ c ≤ '9' then some (c.toNat - '0'.toNat + 26)
  else none

/-- The least digit that is not the last one of its number. -/
def threshold (k bias : Nat) : Nat := max 1 (min 26 (k - bias))

/-- Divides until the delta is small, and counts. -/
def settle (delta k : Nat) : Nat × Nat :=
  if 455 < delta then settle (delta / 35) (k + 36) else (delta, k)
termination_by delta
decreasing_by exact Nat.div_lt_self (by omega) (by omega)

def adapt (delta points : Nat) (first : Bool) : Nat :=
  let d := if first then delta / 700 else delta / 2
  let (d, k) := settle (d + d / points) 0
  k + 36 * d / (d + 38)

/-- One number, and what follows it. -/
def readNumber? (bias : Nat) : List Char → Nat → Nat → Nat → Option (Nat × List Char)
  | [], _, _, _ => none
  | c :: cs, k, weight, sum => do
    let d ← digitValue? c
    let t := threshold k bias
    if d < t then return (sum + d * weight, cs)
    else readNumber? bias cs (k + 36) (weight * (36 - t)) (sum + d * weight)

/-- Reads the characters that are not ASCII into the label; the first argument bounds their
number. -/
def insertAll? : Nat → List Char → List Char → (n i bias : Nat) → Option (List Char)
  | 0, _, _, _, _, _ => none
  | _ + 1, [], label, _, _, _ => some label
  | fuel + 1, c :: cs, label, n, i, bias => do
    let (j, rest) ← readNumber? bias (c :: cs) 36 1 i
    let size := label.length + 1
    let point := n + j / size
    if 0x10FFFF < point ∨ (0xD800 ≤ point ∧ point ≤ 0xDFFF) then none
    else
      let place := j % size
      insertAll? fuel rest (label.take place ++ Char.ofNat point :: label.drop place) point
        (place + 1) (adapt (j - i) size (i == 0))

/-- The least code point that is not ASCII. -/
def firstPoint : Nat := 0x80

def firstBias : Nat := 72

/-- The label that an ASCII text stands for. A hyphen that nothing comes before ends nothing. -/
def decode? (cs : List Char) : Option (List Char) :=
  let back := cs.reverse
  let head := ((back.dropWhile (· ≠ '-')).drop 1).reverse
  let tail := if head.isEmpty then cs else (back.takeWhile (· ≠ '-')).reverse
  insertAll? (cs.length + 1) tail (head.map Char.toLower) firstPoint 0 firstBias

/-! Encoding. -/

def digitChar (d : Nat) : Char :=
  Char.ofNat (if d < 26 then 'a'.toNat + d else '0'.toNat + (d - 26))

/-- One number: each digit but the last is at least as large as its threshold. -/
def writeNumber (bias k n : Nat) : List Char :=
  let t := threshold k bias
  if h : n < t then [digitChar n]
  else digitChar (t + (n - t) % (36 - t)) :: writeNumber bias (k + 36) ((n - t) / (36 - t))
termination_by n
decreasing_by
  have ht : 1 ≤ threshold k bias := by unfold threshold; omega
  exact Nat.lt_of_le_of_lt (Nat.div_le_self _ _) (by omega)

/-- What is written so far, and the state of the encoding: the number of characters it has taken
in, the distance to the next one, and the bias. -/
structure Writing where
  output : List Char
  taken : Nat
  delta : Nat
  bias : Nat
  first : Bool

/-- Goes over a character of the label while those of a code point are written. -/
def Writing.pass (point : Nat) (w : Writing) (c : Char) : Writing :=
  if c.toNat < point then { w with delta := w.delta + 1 }
  else if c.toNat = point then
    { output := w.output ++ writeNumber w.bias 36 w.delta
      taken := w.taken + 1
      delta := 0
      bias := adapt w.delta (w.taken + 1) w.first
      first := false }
  else w

/-- Writes all characters of a code point; those below `next` are written already. -/
def Writing.write (label : List Char) (next : Nat) (w : Writing) (point : Nat) : Writing :=
  let start := { w with delta := w.delta + (point - next) * (w.taken + 1) }
  let done := label.foldl (Writing.pass point) start
  { done with delta := done.delta + 1 }

def writeAll (label : List Char) (next : Nat) (w : Writing) : List Nat → Writing
  | [] => w
  | point :: points => writeAll label (point + 1) (w.write label next point) points

/-- A code point in its place among others. -/
def insertPoint (n : Nat) : List Nat → List Nat
  | [] => [n]
  | m :: ms => if n < m then n :: m :: ms else if n = m then m :: ms else m :: insertPoint n ms

/-- The text that stands for a label. -/
def encode (label : List Char) : List Char :=
  let plain := label.filter fun c => c.toNat < firstPoint
  let head := if plain.isEmpty then [] else plain ++ ['-']
  let points := (label.filter fun c => firstPoint ≤ c.toNat).foldl
    (fun ps c => insertPoint c.toNat ps) []
  (writeAll label firstPoint ⟨head, plain.length, 0, firstBias, true⟩ points).output

end Whereto.Domain.Punycode


