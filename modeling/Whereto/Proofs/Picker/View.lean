import Mathlib.Tactic.Lemma
import Whereto.Picker.Machine

/-!
What there is to see of a step: the field and the position after it, and what callers are told.
Most of what jobs do is not seen: they load the predictor and ask the sources. What is seen is the
end of a lookup under a ticket and the end of a lookup of the position.
-/

namespace Whereto.Picker

/-- Whether an output tells a caller something about the field. -/
def Output.tells : Output → Bool
  | .started _ | .spawned _ .load | .ask _ _ => false
  | .finish _ (.ready _) | .finish _ (.offered _) | .finish _ .nothing => false
  | _ => true

structure View where
  field : Field
  locator : Locator
  told : List Output

def Step.view (r : Step) : View := ⟨r.1.field, r.1.locator, r.2.filter Output.tells⟩

/-- The view of a picker that nothing happens to. -/
def still (p : Picker) : View := ⟨p.field, p.locator, []⟩

lemma mem_told {r : Step} {o : Output} (ho : o.tells = true) : o ∈ r.view.told ↔ o ∈ r.2 := by
  simp [Step.view, ho]

/-- The second of two steps is seen after what the first one told. -/
lemma view_andThen (r : Step) (f : Picker → Step) :
    (andThen r f).view =
      ⟨(f r.1).view.field, (f r.1).view.locator, r.view.told ++ (f r.1).view.told⟩ := by
  simp [andThen, Step.view]

lemma view_andThen_still {p : Picker} {r : Step} {f : Picker → Step} (hr : r.view = p.still)
    (hf : ∀ q, q.still = p.still → (f q).view = p.still) : (andThen r f).view = p.still := by
  have hq : r.1.still = p.still := by
    simp only [Step.view, still, View.mk.injEq] at hr ⊢
    exact ⟨hr.1, hr.2.1, trivial⟩
  rw [view_andThen, hf _ hq, hr]
  simp [still]

/-! ### Loading the predictor -/

@[simp] lemma view_warmUp (p : Picker) : p.warmUp.view = p.still := by
  unfold warmUp
  split <;> rfl

@[simp] lemma view_leave (p : Picker) (job : Nat) (failure : Option Failure) :
    (p.leave job failure).view = p.still := by
  unfold leave
  split <;> rfl

@[simp] lemma view_ensureReady (p : Picker) (job : Nat) : (p.ensureReady job).view = p.still := by
  unfold ensureReady
  split
  · exact view_leave p job none
  · split <;> rfl

@[simp] lemma view_loadNext (p : Picker) : p.loadNext.view = p.still := by
  unfold loadNext
  split <;> rfl

lemma view_loadDone_line (p : Picker) (line : List Nat) (r : Step) (hr : r.view = p.still) :
    (line.foldl (fun s j => andThen s (leave · j none)) r).view = p.still := by
  induction line generalizing r with
  | nil => exact hr
  | cons j line ih =>
    exact ih _ (view_andThen_still hr fun q hq => by rw [view_leave, hq])

@[simp] lemma view_loadDone (p : Picker) (job : Nat) : (p.loadDone job).view = p.still :=
  view_loadDone_line p _ _ rfl

@[simp] lemma view_loadFailed (p : Picker) (job : Nat) (e : Failure) :
    (p.loadFailed job e).view = p.still :=
  view_andThen_still (view_leave p job _) fun q hq => by rw [view_loadNext, hq]

/-! ### Looking up suggestions -/

/-- The end of a lookup under a ticket: it is shown, or it came too late. -/
def ending (p : Picker) (job : Nat) (t : Ticket) (found : List Suggestion) : View :=
  if t.generation = p.field.generation then
    ⟨p.field.display found, p.locator,
      (if p.isShort t.query then []
        else [.note (.resolved t.query (found.head?.map (·.source)) found.length)])
        ++ [.finish job (.applied true)]⟩
  else ⟨p.field, p.locator, [.note (.discarded t.query t.generation p.field.generation),
    .finish job (.applied false)]⟩

lemma view_conclude_display (p : Picker) (job : Nat) (t : Ticket) (found : List Suggestion) :
    (p.conclude job (.display t) found).view = p.ending job t found := by
  unfold conclude ending
  by_cases hg : t.generation = p.field.generation
  · by_cases hs : p.isShort t.query <;>
      simp [hg, hs, Step.view, Output.tells, retire]
  · simp [hg, Step.view, Output.tells, retire]

@[simp] lemma view_fallBack (p : Picker) (job : Nat) (query : String) (purpose : Purpose) :
    (p.fallBack job query purpose).view = p.still := by
  cases purpose <;> rfl

@[simp] lemma view_lookup (p : Picker) (job : Nat) (query : String) (purpose : Purpose) :
    (p.lookup job query purpose).view = p.still := by
  unfold lookup
  split
  · rfl
  · exact view_andThen_still (view_warmUp p) fun q hq => by rw [view_fallBack, hq]

lemma view_complete (p : Picker) (job : Nat) (t : Ticket) :
    (p.complete job t).view = if p.isShort t.query then p.ending job t [] else p.still := by
  unfold complete
  split
  · exact view_conclude_display p job t []
  · exact view_lookup p job t.query (.display t)

/-! ### Locating the device -/

/-- The end of a lookup of the position: what the locator knows goes into the field, if that was
asked for. -/
def settled (p : Picker) (job : Nat) (fill : Bool) : View :=
  if fill then
    match p.locator.error, p.locator.suggestion? with
    | some e, _ =>
      ⟨p.field, p.locator, [.note (.locatingFailed e.message), .finish job (.picked none)]⟩
    | none, some s => ⟨p.field.select s, p.locator, [.finish job (.picked (some s))]⟩
    | none, none => ⟨p.field, p.locator, [.finish job (.picked none)]⟩
  else p.still

@[simp] lemma view_settle (p : Picker) (job : Nat) (fill : Bool) :
    (p.settle job fill).view = p.settled job fill := by
  unfold settle settled
  cases fill with
  | false => rfl
  | true =>
    cases he : p.locator.error with
    | some e => simp [Step.view, Output.tells, retire]
    | none => cases hs : p.locator.suggestion? <;> simp [Step.view, Output.tells, retire, done]

/-- The call that looks the position up, to fill the field with it or not. -/
def locateCall (fill : Bool) : Call := if fill then .useLocation else .locate

lemma view_locate (p : Picker) (job : Nat) (fill : Bool) :
    (p.locate job fill).view =
      if p.locator.locating then p.settled job fill else ⟨p.field, p.locator.begin, []⟩ := by
  unfold locate
  split
  · exact view_settle p job fill
  · rfl

@[simp] lemma view_locatingFailed (p : Picker) (job : Nat) (fill : Bool) (e : LocatingFault) :
    (p.locatingFailed job fill e).view = { p with locator := p.locator.fail e }.settled job fill :=
  view_settle _ job fill

end Whereto.Picker
