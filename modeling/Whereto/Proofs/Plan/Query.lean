import Whereto.Keyed
import Whereto.Plan.Request
import Whereto.Proofs.Plan.DateText

/-!
The query of a plan request, read back. Every part of a request is in a pair of its own, so from
the pairs one gets the request again, and no two requests are sent alike.
-/

namespace Whereto

/-- The text of a level stands for no other level. -/
lemma PriceLevel.ofParam?_param (level : PriceLevel) : ofParam? level.param = some level := by
  cases level <;> decide

namespace PlanRequest

def flag? (text : String) : Option Bool :=
  if text = "true" then some true else if text = "false" then some false else none

lemma flag?_flag (b : Bool) : flag? (flag b) = some b := by
  cases b <;> rfl

def location? (pairs : List (String × String)) : Option String := Keyed.get? "location" pairs

def precise? (pairs : List (String × String)) : Option Bool :=
  (Keyed.get? "precise" pairs).bind flag?

def date? (pairs : List (String × String)) : Option Date :=
  (Keyed.get? "date" pairs).bind Date.ofText?

def price? (pairs : List (String × String)) : Option PriceLevel :=
  (Keyed.get? "price" pairs).bind PriceLevel.ofParam?

def nearby? (pairs : List (String × String)) : Option Bool :=
  (Keyed.get? "nearby" pairs).bind flag?

/-- The request that pairs are sent for. -/
def ofPairs? (pairs : List (String × String)) : Option PlanRequest := do
  let destination : Destination := ⟨← location? pairs, ← precise? pairs⟩
  some ⟨destination, ← date? pairs, ← price? pairs, ← nearby? pairs⟩

variable (r : PlanRequest)

lemma location?_queryPairs : location? r.queryPairs = some r.destination.location := by
  simp [location?, queryPairs, Keyed.get?]

lemma precise?_queryPairs : precise? r.queryPairs = some r.destination.precise := by
  simp [precise?, queryPairs, Keyed.get?, flag?_flag]

lemma date?_queryPairs : date? r.queryPairs = some r.date := by
  simp [date?, queryPairs, Keyed.get?, Date.ofText?_text]

lemma price?_queryPairs : price? r.queryPairs = some r.price := by
  simp [price?, queryPairs, Keyed.get?, PriceLevel.ofParam?_param]

lemma nearby?_queryPairs : nearby? r.queryPairs = some r.nearby := by
  simp [nearby?, queryPairs, Keyed.get?, flag?_flag]

lemma ofPairs?_queryPairs : ofPairs? r.queryPairs = some r := by
  rw [ofPairs?, location?_queryPairs, precise?_queryPairs, date?_queryPairs, price?_queryPairs,
    nearby?_queryPairs]
  rfl

/-- **Requests are sent without loss**: different requests give different pairs, and each part of a
request is read from its pairs. -/
theorem queryPairs_lossless :
    Function.Injective queryPairs ∧
    ∀ r : PlanRequest,
      location? r.queryPairs = some r.destination.location ∧
      precise? r.queryPairs = some r.destination.precise ∧
      date? r.queryPairs = some r.date ∧
      price? r.queryPairs = some r.price ∧
      nearby? r.queryPairs = some r.nearby := by
  refine ⟨fun r s h => ?_, fun r => ⟨r.location?_queryPairs, r.precise?_queryPairs,
    r.date?_queryPairs, r.price?_queryPairs, r.nearby?_queryPairs⟩⟩
  have hsome : some r = some s := by rw [← r.ofPairs?_queryPairs, h, s.ofPairs?_queryPairs]
  exact Option.some.inj hsome

end PlanRequest

end Whereto
