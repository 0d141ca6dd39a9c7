import Whereto.Domain.Label

/-!
Domain names, and the ASCII names under which they are looked for.
-/

namespace Whereto.Domain

/-- The ASCII characters that no name has. -/
def isForbidden (c : Char) : Bool :=
  c.toNat ≤ 0x20 || c.toNat = 0x7F ||
    ['#', '%', '/', ':', '<', '>', '?', '@', '[', '\\', ']', '^', '|'].contains c

def labels (cs : List Char) : List (List Char) := Text.cut '.' cs

/-- Labels as a name. -/
def joinLabels : List (List Char) → List Char
  | [] => []
  | [l] => l
  | l :: ls => l ++ '.' :: joinLabels ls

/-- Whether decoded labels are those of a name. -/
def areLabels (ls : List (List Char)) : Bool :=
  let directions := ls.map (·.map Text.direction)
  ls.all isLabel && ls.all (fun l => !l.any isForbidden) &&
    (!directions.any (·.any (·.isRight)) || directions.all directionsFit)

/-- Whether a name is plain: ASCII, without labels in Punycode. -/
def isPlain (cs : List Char) : Bool :=
  cs.all Text.isAscii && !(labels cs).any fun l => isCoded (l.map Char.toLower)

/-- The labels of a name that is not plain. -/
def readLabels? (cs : List Char) : Option (List (List Char)) := do
  let mapped ← map? cs
  let ls ← (labels mapped).mapM decode?
  if areLabels ls then some ls else none

/-- A name in ASCII. Of a plain name only the case counts. -/
def ascii? (cs : List Char) : Option (List Char) :=
  if isPlain cs then
    let lower := cs.map Char.toLower
    if lower.any isForbidden then none else some lower
  else (readLabels? cs).map fun ls => joinLabels (ls.map encode)

end Whereto.Domain
