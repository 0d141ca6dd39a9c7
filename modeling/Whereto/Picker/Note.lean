import Whereto.Place.Suggestion

/-!
What is worth noting about a picker: lookups that were shown or came too late, and attempts that
failed.
-/

namespace Whereto

inductive Note where
  /-- A lookup was shown, with as many suggestions, the first of them from a source. -/
  | resolved (query : String) (source : Option Source) (count : Nat)
  /-- A lookup came too late: another generation was the latest. -/
  | discarded (query : String) (generation latest : Nat)
  | locatingFailed (reason : String)
  | rejected (text : String)
  deriving DecidableEq, Repr

end Whereto
