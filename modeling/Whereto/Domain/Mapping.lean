import Whereto.Domain.Excluded
import Whereto.Domain.Replacement
import Whereto.Text.Case
import Whereto.Text.Normal

/-!
The mapping of domain names (UTS 46): names that differ only in case, width or composition become
the same name.
-/

namespace Whereto.Domain

/-- What a character counts as; without it no name has the character. -/
def mapChar? (c : Char) : Option (List Char) :=
  if isExcluded c then none
  else if isIgnored c then some []
  else some ((replacement? c).getD (Text.lowerChar c))

/-- A name as it counts. -/
def map? (cs : List Char) : Option (List Char) :=
  (cs.mapM mapChar?).map fun parts => Text.normal parts.flatten

/-- Whether a text is one that the mapping can have given. -/
def isMapped (cs : List Char) : Bool :=
  cs.all (fun c => mapChar? c = some [c]) && Text.normal cs = cs

end Whereto.Domain
