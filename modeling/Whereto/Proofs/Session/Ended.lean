import Whereto.Proofs.Picker.Location
import Whereto.Proofs.Picker.Lookups
import Whereto.Proofs.Picker.Played
import Whereto.Proofs.Session.Rhythm
import Whereto.Proofs.Session.ShortText

/-!
The end of a session. What was typed and has no ticket yet is forgotten, wherever it waits, and
from then on all that happens is what somebody else asks the picker for. Lookups that have their
ticket go on: the end of the session is none of their business.
-/

namespace Whereto

namespace Session

open Picker (Input Output Trail)

variable {s : Session} {m : Move} {c : Course move} {a k n now job : ℕ} {i : Input} {t : Ticket}
  {shown : Bool}

/-! ### Nobody types any more -/

lemma ready?_of_ended (h : s.typing = none) : s.ready? = none := by
  unfold ready?
  rw [h]

lemma typing_move_of_ended (h : s.typing = none) : (s.move (now, m)).1.typing = none := by
  cases m with
  | input i => exact h
  | type text => simp [move, typeText, step, h]
  | fire => simp [move, fire, h]
  | pump => simp [move, pump, h]
  | leave => rfl

lemma typing_of_leave (hleave : (c.input a).2 = .leave) (han : a < n) :
    (c.state n).typing = none := by
  have hend : (c.state (a + 1)).typing = none := by
    rw [state_move hleave]
    rfl
  exact Course.invariant (c := c) (P := fun s => s.typing = none)
    (fun _ _ h => typing_move_of_ended h) han hend

/-- Once the session is over, only others ask the picker for something. -/
lemma asks_of_ended (h : s.typing = none) (hi : s.asks m = some i) :
    m = .input i ∨ ∃ text, m = .type text ∧ i = .setText text := by
  rcases asks_cases hi with hm | htype | ⟨query, -, hready, -⟩
  · exact .inl hm
  · exact .inr htype
  · rw [ready?_of_ended h] at hready
    cases hready

/-! ### Calls from outside -/

/-- Somebody calls the picker at a position, so that its field may come to another generation. A
call for the position of the device does so when it is over. -/
inductive Called (c : Course move) (n : ℕ) : Prop
  | typed {text : String} (h : (c.input n).2 = .type text)
  | direct {i : Input} (h : (c.input n).2 = .input i) (hi : i.isDirect = true)
  | picked {index : ℕ} (h : (c.input n).2 = .input (.selectIndex index))
  | located {k : ℕ} {x : Suggestion} (hkn : k ≤ n)
      (called : (c.input k).2 = .input (.start .useLocation))
      (filled : .finish (c.state k).picker.nextJob (.picked (some x)) ∈ c.output n)

/-- A suggestion that fills the field at the end of a call was asked for by that call. -/
lemma called_of_filled {x : Suggestion} (h0 : c.start.picker.jobs = [])
    (hi : (c.state n).asks (c.input n).2 = some i)
    (h : .finish job (.picked (some x)) ∈ ((c.state n).picker.step i).2) : Called c n := by
  obtain ⟨l, hsettles, -, -⟩ := Picker.finish_picked h
  have hplayed : ((trail c).played.state n).Settles ((trail c).played.input n) job true l := by
    rw [Trail.state_played, Trail.input_played hi]
    exact hsettles
  obtain ⟨k, hkn, hjob, hk⟩ := hplayed.started h0
  have hcall : (c.state k).asks (c.input k).2 = some (.start .useLocation) :=
    Trail.input_of_played hk nofun
  rw [Trail.state_played, state_trail] at hjob
  subst hjob
  exact .located hkn (input_of_start hcall) (mem_output.mpr ⟨i, hi, h⟩)

/-- What supersedes tickets after the end of the session is a call from outside. -/
lemma called_of_supersedes (h0 : c.start.picker.jobs = []) (hended : (c.state n).typing = none)
    (h : (trail c).Supersedes n) : Called c n := by
  obtain ⟨i, hi, hsup⟩ := h
  rcases asks_of_ended hended hi with hm | ⟨text, htype, -⟩
  · cases hsup with
    | short => exact .direct hm rfl
    | issue => exact .direct hm rfl
    | handle => exact .direct hm rfl
    | dispatch => exact .direct hm rfl
    | selection hsel =>
      cases hsel with
      | select => exact .direct hm rfl
      | picked h =>
        obtain ⟨index, rfl, -⟩ := Picker.picked_step h
        exact .picked hm
      | located h => exact called_of_filled h0 hi h
  · exact .typed htype

/-! ### Lookups -/

/-- Who asks for suggestions was dispatched by the session while there was one, or was started from
outside. -/
lemma launched_or_dispatched {q : Question} (hp : ∀ n, (c.state n).picker.Tidy)
    (h0 : c.start.picker.jobs = []) (hleave : (c.input a).2 = .leave) (hq : q.isSearch = true)
    (h : .ask job q ∈ c.output n) :
    ∃ k ≤ n, job = (c.state k).picker.nextJob ∧
      ((k < a ∧ ∃ t, Dispatches c k job t) ∨
        ∃ i, (c.input k).2 = .input i ∧ i.launches = true) := by
  have hplayed : .ask job q ∈ (trail c).played.output n := by
    rw [Trail.output_played, output_trail]
    exact h
  have htidy : ∀ n, ((trail c).played.state n).Tidy := by
    intro n
    rw [Trail.state_played]
    exact hp n
  obtain ⟨k, hkn, hjob, hlaunch⟩ := Picker.launched_of_ask htidy h0 hq hplayed
  rw [Trail.state_played, state_trail] at hjob
  have hk : (c.state k).asks (c.input k).2 = some ((trail c).played.input k) := by
    refine Trail.input_of_played (r := trail c) rfl ?_
    intro j hj
    rw [hj] at hlaunch
    cases hlaunch
  refine ⟨k, hkn, hjob, ?_⟩
  generalize (trail c).played.input k = j at hk hlaunch
  rcases asks_cases hk with hm | ⟨text, -, rfl⟩ | ⟨query, hpump, hready, rfl⟩
  · exact .inr ⟨j, hm, hlaunch⟩
  · cases hlaunch
  · -- the pump finds nothing after the end, and the end is not its turn
    have hka : k < a := by
      rcases Nat.lt_trichotomy k a with hlt | rfl | hgt
      · exact hlt
      · rw [hleave] at hpump
        cases hpump
      · rw [ready?_of_ended (typing_of_leave hleave hgt)] at hready
        cases hready
    refine .inl ⟨hka, ⟨query, (c.state k).picker.field.generation + 1⟩, ?_⟩
    refine mem_output.mpr ⟨_, hk, ?_⟩
    rw [hjob]
    exact List.mem_singleton_self _

/-- Lookups that end at a position, and were started before or under a ticket that was issued
before, are shown if their ticket is the latest; if not, the field is left as it is. -/
def Judged (c : Course move) (n : ℕ) : Prop :=
  ∀ k t shown, (trail c).Starts k t → k < n ∨ (c.input k).2 = .input (.start (.complete t)) →
    .finish (c.state k).picker.nextJob (.applied shown) ∈ c.output n →
    (shown = true ↔ t.generation = (c.state n).picker.field.generation) ∧
    ∃ i, (c.state n).asks (c.input n).2 = some i ∧ (c.state (n + 1)).picker.field =
      if shown then (c.state n).picker.field.display i.found else (c.state n).picker.field

lemma judged (h0 : c.start.picker.jobs = []) (n : ℕ) : Judged c n := by
  intro k t shown hstarts hwhen hfinish
  obtain ⟨i, hi, hout⟩ := mem_output.mp hfinish
  have hwait : k = n → ∀ query, (trail c).input k ≠ some (.start (.handle query)) := by
    intro hkn query hhandle
    rcases hwhen with hlt | hcomplete
    · omega
    · rw [input_of_start hhandle] at hcomplete
      cases hcomplete
  obtain ⟨-, hview, hshown⟩ := Picker.ends_of_starts (r := trail c) h0 hstarts hwait hi hout
  rw [state_trail] at hview hshown
  refine ⟨hshown, i, hi, ?_⟩
  have hfield : (c.state (n + 1)).picker.field =
      ((c.state n).picker.ending (c.state k).picker.nextJob t i.found).field := by
    rw [picker_succ hi]
    exact congrArg Picker.View.field hview
  rw [hfield, Picker.ending]
  by_cases hg : t.generation = (c.state n).picker.field.generation
  · simp [hg, hshown.mpr hg]
  · simp [hg, mt hshown.mp hg]

/-! ### The end -/

/-- At a position after the end of a session nothing is left of it. Its texts do not wait, its timer
and its pump do nothing; tickets are issued by others; who asks for suggestions has the ticket that
the session gave it before the end, or was started by others; and so the generation of the field is
up to them. -/
structure Ended (c : Course move) (a n : ℕ) : Prop where
  typing : (c.state n).typing = none
  still : (∀ i, (c.input n).2 ≠ .input i) → (∀ text, (c.input n).2 ≠ .type text) →
    c.state (n + 1) = c.state n ∧ c.output n = []
  tickets : ∀ i query, (c.state n).asks (c.input n).2 = some i → Queries i query →
    (c.input n).2 = .input i
  lookups : ∀ job q, q.isSearch = true → .ask job q ∈ c.output n →
    ∃ k ≤ n, job = (c.state k).picker.nextJob ∧
      ((k < a ∧ ∃ t, Dispatches c k job t) ∨
        ∃ i, (c.input k).2 = .input i ∧ i.launches = true)
  generation : (c.state (n + 1)).picker.field.generation = (c.state n).picker.field.generation ∨
    Called c n

lemma still_of_ended (hended : (c.state n).typing = none)
    (hinput : ∀ i, (c.input n).2 ≠ .input i) (htype : ∀ text, (c.input n).2 ≠ .type text) :
    c.state (n + 1) = c.state n ∧ c.output n = [] := by
  have hasks : (c.state n).asks (c.input n).2 = none := by
    cases hi : (c.state n).asks (c.input n).2 with
    | none => rfl
    | some i =>
      rcases asks_of_ended hended hi with hm | ⟨text, hm, -⟩
      · exact absurd hm (hinput i)
      · exact absurd hm (htype text)
  have hpicker := picker_rest hasks
  have htyping : (c.state (n + 1)).typing = (c.state n).typing := by
    rw [hended, Course.state_succ]
    exact typing_move_of_ended hended
  constructor
  · calc c.state (n + 1) = ⟨(c.state (n + 1)).picker, (c.state (n + 1)).typing⟩ := rfl
      _ = ⟨(c.state n).picker, (c.state n).typing⟩ := by rw [hpicker, htyping]
      _ = c.state n := rfl
  · rw [List.eq_nil_iff_forall_not_mem]
    intro o ho
    obtain ⟨i, hi, -⟩ := mem_output.mp ho
    rw [hasks] at hi
    cases hi

lemma ended (hp : ∀ n, (c.state n).picker.Tidy) (h0 : c.start.picker.jobs = [])
    (hleave : (c.input a).2 = .leave) (han : a < n) : Ended c a n where
  typing := typing_of_leave hleave han
  still := still_of_ended (typing_of_leave hleave han)
  tickets i query hi hquery := by
    rcases asks_of_ended (typing_of_leave hleave han) hi with hm | ⟨text, -, rfl⟩
    · exact hm
    · cases hquery
  lookups job q hq h := launched_or_dispatched hp h0 hleave hq h
  generation := by
    rcases Picker.generation_trail (trail c) n with ⟨hsup, -⟩ | ⟨-, hgen⟩
    · exact .inr (called_of_supersedes h0 (typing_of_leave hleave han) hsup)
    · exact .inl hgen

/-- **The end of a session stops it.** Whatever waits at the end of a session, with its picker left
as it is nothing of the session remains: after the end it issues no ticket and asks for no
suggestions. The lookups that are under way can come to their end, and those that do are judged by
their tickets after the end as before. -/
theorem ended_of_leave {o : PickerOptions} {primary : Primary} {quiet : ℕ}
    (hc : c.start = start (.new o primary) quiet) (hline : primary.waiting = [])
    (hleave : (c.input a).2 = .leave) :
    c.state (a + 1) = bare (c.state a).picker ∧ c.output a = [] ∧
    (∀ n, a < n → Ended c a n) ∧
    (∀ n job t, (c.state n).picker.Carries job t → (c.state n).picker.CanEnd job t) ∧
    ∀ n, Judged c n := by
  have h0 : c.start.picker.jobs = [] := by
    rw [hc]
    rfl
  have hp : ∀ n, (c.state n).picker.Tidy := by
    refine keep_picker (P := Picker.Tidy) (fun _ i h => h.of_step i) ?_
    rw [hc]
    exact Picker.tidy_new o primary hline
  refine ⟨?_, ?_, fun n han => ended hp h0 hleave han, fun n job t h => ?_, judged h0⟩
  · rw [state_move hleave]
    rfl
  · rw [Course.output, show c.input a = ((c.input a).1, .leave) by rw [← hleave]]
    rfl
  · exact Picker.canEnd_of_carries (hp n).toSound h

/-- A text is looked up, another one is in the inbox and a third one waits for its pause when the
session ends. -/
def stopping : Course move where
  start := start (.new ⟨2, ⟨10000, true⟩⟩ .ready) 300
  input
    | 0 => (0, .type "oslo")
    | 1 => (300, .fire)
    | 2 => (300, .pump)
    | 3 => (300, .input (.begin 0))
    | 4 => (350, .type "bergen")
    | 5 => (650, .fire)
    | 6 => (700, .type "lima")
    | 7 => (710, .leave)
    | 8 => (1000, .fire)
    | 9 => (1000, .pump)
    | 10 => (1010, .input (.reply 0 (.predictions (.ok [⟨"Oslo, Norway", ["Oslo", "Norway"]⟩]))))
    | _ => (1100, .fire)

/-- The first text is still shown, the others are forgotten. -/
theorem stopping_ended :
    (stopping.state 7).waiting = ["bergen", "lima"] ∧ (stopping.state 8).waiting = [] ∧
    .finish 0 (.applied true) ∈ stopping.output 10 ∧
    stopping.state 8 = bare (stopping.state 7).picker ∧ stopping.output 7 = [] ∧
    (∀ n, 7 < n → Ended stopping 7 n) ∧
    (∀ n job t, (stopping.state n).picker.Carries job t →
      (stopping.state n).picker.CanEnd job t) ∧
    ∀ n, Judged stopping n := by
  have hshown : .finish 0 (.applied true) ∈ stopping.output 10 := .tail _ (.head _)
  exact ⟨by decide, by decide, hshown, ended_of_leave rfl rfl rfl⟩

end Session

end Whereto
