import Whereto.Proofs.Course
import Whereto.Proofs.Telemetry.Event
import Whereto.Telemetry.Recorder

/-!
What can be done to a recorder, and what comes of it: the events that an operation takes wait in
the queue after those that waited before, or all of them are stored together.
-/

namespace Whereto.Recorder

/-- What is done to a recorder or to a copy of it: copies share the queue and the files. -/
inductive Op where
  | record (stamp : String) (e : Event)
  | note (moment : Moment) (n : Note)
  | flush (stamp : String)
  | enable (on : Bool)

def step (r : Recorder) : Op → Recorder × Option StoreFault
  | .record stamp e => r.record stamp e
  | .note moment n => (r.note moment n, none)
  | .flush stamp => r.flush stamp
  | .enable on => (r.setEnabled on, none)

/-- The events that an operation takes. -/
def taken (r : Recorder) : Op → List Event
  | .record _ e => if r.enabled then [e] else []
  | .note moment n => if r.enabled then [n.told moment.timestamp] else []
  | .flush _ => []
  | .enable _ => []

/-- The events that were taken before a position. -/
def recorded (c : Course step) : ℕ → List Event
  | 0 => []
  | n + 1 => recorded c n ++ (c.state n).taken (c.input n)

/-- The events that wait once an operation has taken its own. -/
def waiting (r : Recorder) (op : Op) : List Event := r.queue ++ r.taken op

/-- An operation stores the events that wait, under a stamp. -/
inductive Stores (r : Recorder) : Op → String → Prop
  | record {stamp : String} {e : Event} (on : r.enabled = true)
      (full : r.options.batchSize ≤ r.depth + 1) : Stores r (.record stamp e) stamp
  | note {moment : Moment} {n : Note} (on : r.enabled = true)
      (full : r.options.batchSize ≤ r.depth + 1) : Stores r (.note moment n) moment.stamp
  | flush {stamp : String} (waits : r.queue ≠ []) : Stores r (.flush stamp) stamp

/-- What comes of an operation. -/
inductive Does (r : Recorder) (op : Op) : Recorder → Prop
  | waits {on : Bool} (rest : ∀ stamp, ¬ r.Stores op stamp) :
      Does r op ⟨r.options, on, r.waiting op, r.archive⟩
  | stores {stamp : String} {a : Archive} (stores : r.Stores op stamp)
      (found : r.archive = some a) :
      Does r op ⟨r.options, r.enabled, [],
        some (a.store r.options.limits stamp ((r.waiting op).map Event.line))⟩
  | fails {stamp : String} (stores : r.Stores op stamp) (gone : r.archive = none) :
      Does r op ⟨r.options, r.enabled, r.waiting op, r.archive⟩

variable {r : Recorder} {op : Op} {stamp : String} {e : Event}

lemma waiting_ne_nil (h : r.Stores op stamp) : r.waiting op ≠ [] := by
  cases h with
  | record on => simp [waiting, taken, on]
  | note on => simp [waiting, taken, on]
  | flush waits => simp [waiting, waits]

lemma does_of_stores (h : r.Stores op stamp) :
    Does r op (flush { r with queue := r.waiting op } stamp).1 := by
  rw [flush, if_neg (by simpa using waiting_ne_nil h)]
  dsimp only
  split
  · next gone => exact .fails h gone
  · next a found => exact .stores h found

lemma does_of_rest {on : Bool} (rest : ∀ stamp, ¬ r.Stores op stamp) (htaken : r.taken op = []) :
    Does r op { r with enabled := on } := by
  have hwaiting : r.waiting op = r.queue := by rw [waiting, htaken, List.append_nil]
  rw [← hwaiting]
  exact .waits rest

/-- An operation that records an event, and stores it if that makes a batch. -/
lemma does_record (htaken : r.taken op = if r.enabled then [e] else [])
    (hstores : ∀ s, r.Stores op s ↔
      s = stamp ∧ r.enabled = true ∧ r.options.batchSize ≤ r.depth + 1) :
    Does r op (r.record stamp e).1 := by
  unfold record
  split
  · next on =>
    have hwaiting : r.waiting op = r.queue ++ [e] := by rw [waiting, htaken, if_pos on]
    have hdepth : depth { r with queue := r.waiting op } = r.depth + 1 := by
      rw [hwaiting]
      exact List.length_append
    simp only [← hwaiting, hdepth]
    split
    · next full => exact does_of_stores ((hstores stamp).mpr ⟨rfl, on, full⟩)
    · next room => exact .waits fun s hs => room ((hstores s).mp hs).2.2
  · next off =>
    rw [if_neg off] at htaken
    exact does_of_rest (fun s hs => off ((hstores s).mp hs).2.1) htaken

lemma stores_record_iff {s : String} : r.Stores (.record stamp e) s ↔
    s = stamp ∧ r.enabled = true ∧ r.options.batchSize ≤ r.depth + 1 where
  mp h := by
    cases h with
    | record on full => exact ⟨rfl, on, full⟩
  mpr := by
    rintro ⟨rfl, on, full⟩
    exact .record on full

lemma stores_note_iff {s : String} {moment : Moment} {n : Note} : r.Stores (.note moment n) s ↔
    s = moment.stamp ∧ r.enabled = true ∧ r.options.batchSize ≤ r.depth + 1 where
  mp h := by
    cases h with
    | note on full => exact ⟨rfl, on, full⟩
  mpr := by
    rintro ⟨rfl, on, full⟩
    exact .note on full

/-- **The three things that an operation can do.** -/
theorem does_step (r : Recorder) (op : Op) : Does r op (r.step op).1 := by
  cases op with
  | record stamp e => exact does_record rfl fun _ => stores_record_iff
  | note moment n =>
    refine does_record ?_ fun _ => stores_note_iff
    rw [taken, n.toEvent_eq_told]
  | flush stamp =>
    by_cases hq : r.queue = []
    · have hflush : (r.step (.flush stamp)).1 = r := by simp [step, flush, hq]
      rw [hflush]
      exact does_of_rest (fun s hs => by cases hs with | flush waits => exact waits hq) rfl
    · have hstores : r.Stores (.flush stamp) stamp := .flush hq
      have hdoes := does_of_stores hstores
      rwa [waiting, taken, List.append_nil] at hdoes
  | enable on => exact does_of_rest nofun rfl

lemma options_step (r : Recorder) (op : Op) : (r.step op).1.options = r.options := by
  have h := does_step r op
  generalize (r.step op).1 = r' at h
  cases h with
  | waits => rfl
  | stores => rfl
  | fails => rfl

lemma options_state (c : Course step) (n : ℕ) : (c.state n).options = c.start.options :=
  c.invariant (P := fun r => r.options = c.start.options)
    (fun r op h => (options_step r op).trans h) n.zero_le rfl

lemma batchSize_pos (o : RecorderOptions) : 0 < o.batchSize :=
  Nat.lt_of_lt_of_le Nat.zero_lt_one (Nat.le_max_right _ _)

/-- The queue stays shorter than a batch. -/
lemma waiting_length_lt (hroom : r.depth < r.options.batchSize)
    (rest : ∀ stamp, ¬ r.Stores op stamp) : (r.waiting op).length < r.options.batchSize := by
  have hrecord (e : Event) (h : ¬ (r.enabled = true ∧ r.options.batchSize ≤ r.depth + 1)) :
      r.depth + (if r.enabled then [e] else []).length < r.options.batchSize := by
    split
    · next on =>
      have : ¬ r.options.batchSize ≤ r.depth + 1 := fun full => h ⟨on, full⟩
      simp only [List.length_singleton]
      omega
    · exact hroom
  rw [waiting, List.length_append]
  cases op with
  | record stamp e => exact hrecord e fun h => rest stamp (.record h.1 h.2)
  | note moment n => exact hrecord _ fun h => rest moment.stamp (.note h.1 h.2)
  | flush => exact hroom
  | enable => exact hroom

end Whereto.Recorder
