import Whereto.Text.Combining
import Whereto.Text.Composite

/-!
The normal form C of a text: characters are taken apart, their marks are put in order, and what
can be composed is composed again.
-/

namespace Whereto.Text

/-! Syllables of Hangul. -/

def firstSyllable : Nat := 0xAC00
def firstLead : Nat := 0x1100
def firstVowel : Nat := 0x1161

/-- One before the first trail: a syllable may have none. -/
def noTrail : Nat := 0x11A7

def leadCount : Nat := 19
def vowelCount : Nat := 21
def trailCount : Nat := 28

/-- A syllable without a trail is a lead and a vowel, one with a trail is one without and the
trail. -/
def syllableParts? (n : Nat) : Option (Nat × Nat) :=
  let i := n - firstSyllable
  if firstSyllable ≤ n ∧ i < leadCount * vowelCount * trailCount then
    if i % trailCount = 0 then
      some (firstLead + i / trailCount / vowelCount, firstVowel + i / trailCount % vowelCount)
    else some (n - i % trailCount, noTrail + i % trailCount)
  else none

def syllable? (a b : Nat) : Option Nat :=
  if firstLead ≤ a ∧ a < firstLead + leadCount ∧ firstVowel ≤ b ∧ b < firstVowel + vowelCount then
    some (firstSyllable + ((a - firstLead) * vowelCount + (b - firstVowel)) * trailCount)
  else if firstSyllable ≤ a ∧ a < firstSyllable + leadCount * vowelCount * trailCount ∧
      (a - firstSyllable) % trailCount = 0 ∧ noTrail < b ∧ b < noTrail + trailCount then
    some (a + (b - noTrail))
  else none

/-! Composites. -/

/-- The two characters that a character is made of. -/
def parts? (c : Char) : Option (Char × Char) :=
  let pair := ((composites.find? fun p => p.2.2 = c.toNat).map fun p => (p.1, p.2.1)).or
    (syllableParts? c.toNat)
  pair.map fun p => (Char.ofNat p.1, Char.ofNat p.2)

def composite? (a b : Char) : Option Char :=
  let found := ((composites.find? fun p => p.1 = a.toNat && p.2.1 = b.toNat).map (·.2.2)).or
    (syllable? a.toNat b.toNat)
  found.map Char.ofNat

/-- Takes the character apart, and the first of its parts again, as often as the fuel allows. -/
def takeApart : Nat → Char → List Char
  | 0, c => [c]
  | fuel + 1, c =>
    match parts? c with
    | some (a, b) => takeApart fuel a ++ [b]
    | none => [c]

/-- No character is made of more than four others. -/
def mostParts : Nat := 4

/-! The order of marks. -/

/-- Puts a character before others; a mark goes behind marks of lower classes. -/
def putMark (c : Char) : List Char → List Char
  | [] => [c]
  | d :: ds =>
    if combiningClass d ≠ 0 ∧ combiningClass d < combiningClass c then d :: putMark c ds
    else c :: d :: ds

def orderMarks : List Char → List Char
  | [] => []
  | c :: cs => putMark c (orderMarks cs)

/-! Composition. -/

/-- Whether marks, the last one first, keep a character from composing with what is before
them. -/
def isBlocked (kept : List Char) (c : Char) : Bool :=
  match kept with
  | [] => false
  | d :: _ => combiningClass c ≤ combiningClass d

/-- Composes a character with those that follow; `kept` are the marks, the last one first, that
were passed over. -/
def composeAfter (s : Char) (kept : List Char) : List Char → List Char
  | [] => s :: kept.reverse
  | c :: cs =>
    match if isBlocked kept c then none else composite? s c with
    | some t => composeAfter t kept cs
    | none =>
      if combiningClass c = 0 then s :: (kept.reverse ++ composeAfter c [] cs)
      else composeAfter s (c :: kept) cs

def compose : List Char → List Char
  | [] => []
  | c :: cs => composeAfter c [] cs

/-- The normal form C. -/
def normal (cs : List Char) : List Char :=
  compose (orderMarks (cs.flatMap (takeApart mostParts)))

end Whereto.Text
