import Mathlib.Data.List.Intervals
import Whereto.Proofs.Telemetry.Archive
import Whereto.Proofs.Telemetry.Operation

/-!
Times without a directory. The directory of a recorder may be removed and made again between
operations. An operation that cannot store the events that wait leaves them where they are, and the
first one that can stores all of them, in order and once: whatever happens, the events that waited
and those that were taken are those that were stored, followed by those that still wait.
-/

namespace Whereto

namespace Archive

variable {a : Archive} {f : String × Entry} {limits : Limits} {stamp : String}
  {lines : List String}

/-- From one archive to another, lines were added to the buffer file and nothing else was written:
what the buffer file held before is still in it, or it was put aside or dropped as a whole. -/
inductive Extends (a : Archive) (lines : List String) (b : Archive) : Prop
  | kept (buffer : b.buffer = a.buffer ++ String.join (lines.map (· ++ "\n")))
      (others : ∀ f ∈ b, f.1 ≠ bufferName → f ∈ a)
  | fresh {stamp : String} (buffer : b.buffer = String.join (lines.map (· ++ "\n")))
      (others : ∀ f ∈ b, f.1 ≠ bufferName → f ∈ a ∨ f = (asideName stamp, .file a.buffer))

lemma buffer_withBuffer (content : String) : (a.withBuffer content).buffer = content := by
  simp [buffer, withBuffer, Keyed.get?_put_self, Entry.content]

lemma mem_of_mem_withBuffer {content : String} (h : f ∈ a.withBuffer content)
    (hf : f.1 ≠ bufferName) : f ∈ a := by
  rcases Keyed.mem_put h with rfl | hmem
  · exact absurd rfl hf
  · exact hmem

lemma buffer_eq_empty (h : ∀ f ∈ a, f.1 ≠ bufferName) : a.buffer = "" := by
  rw [buffer, Keyed.get?_eq_none h]
  rfl

lemma mem_of_mem_prune {n : ℕ} (h : f ∈ a.prune n) : f ∈ a := by
  have hfold : ∀ (gs : List (String × Entry)) (b : Archive), f ∈ gs.foldl remove b → f ∈ b := by
    intro gs
    induction gs with
    | nil => exact fun _ hb => hb
    | cons g gs ih =>
      intro b hb
      have hremove := ih _ hb
      unfold remove at hremove
      split at hremove
      · exact (Keyed.mem_erase.mp hremove).1
      · exact hremove
  exact hfold _ _ h

lemma mem_of_mem_putAside (h : f ∈ a.putAside stamp) :
    f.1 ≠ bufferName ∧ (f ∈ a ∨ f = (asideName stamp, .file a.buffer)) := by
  rcases Keyed.mem_put h with rfl | hmem
  · exact ⟨(lt_bufferName (isAside_asideName stamp)).ne, .inr rfl⟩
  · obtain ⟨hmem, hne⟩ := Keyed.mem_erase.mp hmem
    exact ⟨hne, .inl hmem⟩

/-- **What storing writes** is the lines, once, at the end of the buffer file. -/
theorem extends_store : a.Extends lines (a.store limits stamp lines) := by
  unfold store append rotate
  dsimp only
  split
  · exact .kept (buffer_withBuffer _) fun f hf hne => mem_of_mem_withBuffer hf hne
  · split
    · refine @Extends.fresh _ _ _ stamp ?_ fun f hf hne => .inl ?_
      · rw [buffer_withBuffer, buffer_withBuffer, String.empty_append, block]
      · exact mem_of_mem_withBuffer (mem_of_mem_withBuffer hf hne) hne
    · refine @Extends.fresh _ _ _ stamp ?_ fun f hf hne => ?_
      · have hempty : ((a.putAside stamp).prune (limits.maxFiles - 1)).buffer = "" :=
          buffer_eq_empty fun f hf => (mem_of_mem_putAside (mem_of_mem_prune hf)).1
        rw [buffer_withBuffer, hempty, String.empty_append, block]
      · exact (mem_of_mem_putAside (mem_of_mem_prune (mem_of_mem_withBuffer hf hne))).2

end Archive

namespace Recorder

/-- What happens to a recorder: an operation, or something to its directory. -/
inductive Happening where
  | op (op : Op)
  | removed
  | made

def undergo (r : Recorder) : Happening → Recorder × Option StoreFault
  | .op op => r.step op
  | .removed => (r.removeDirectory, none)
  | .made => (r.makeDirectory, none)

/-- The events that are taken. -/
def accepts (r : Recorder) : Happening → List Event
  | .op op => r.taken op
  | _ => []

/-- The events that are stored: everything that waits, once nothing waits any more. -/
def storing (r : Recorder) (h : Happening) : List Event :=
  if (r.undergo h).1.queue.isEmpty then r.queue ++ r.accepts h else []

/-- An operation stores the events that wait in the directory. -/
inductive Persists (r : Recorder) : Happening → Prop
  | op {op : Op} {stamp : String} {a : Archive} (stores : r.Stores op stamp)
      (found : r.archive = some a) : Persists r (.op op)

variable {r : Recorder} {op : Op} {h : Happening} {fault : StoreFault}

/-! ### One happening -/

lemma fault_flush_iff {stamp : String} (hq : r.queue ≠ []) :
    (r.flush stamp).2 = some fault ↔ fault = .missing ∧ r.archive = none := by
  rw [flush, if_neg (by simpa using hq)]
  dsimp only
  split
  · next gone => simp [gone, eq_comm]
  · next a found => simp [found]

/-- An operation that tells of a failure was to store the events that wait, and found no
directory. -/
lemma fails_of_fault (h : (r.step op).2 = some fault) :
    fault = .missing ∧ r.archive = none ∧ ∃ stamp, r.Stores op stamp := by
  cases op with
  | record stamp e =>
    rw [step, record] at h
    split at h
    · next on =>
      dsimp only at h
      split at h
      · next full =>
        have hfull : r.options.batchSize ≤ r.depth + 1 := by
          simpa [depth] using full
        obtain ⟨hfault, hgone⟩ := (fault_flush_iff (by simp)).mp h
        exact ⟨hfault, hgone, stamp, .record on hfull⟩
      · cases h
    · cases h
  | note => cases h
  | flush stamp =>
    by_cases hq : r.queue = []
    · simp [step, flush, hq] at h
    · obtain ⟨hfault, hgone⟩ := (fault_flush_iff hq).mp h
      exact ⟨hfault, hgone, stamp, .flush hq⟩
  | enable => cases h

/-- Unless the events that wait are stored, they go on waiting, and no file is changed. -/
lemma undergo_of_not_persists (hn : ¬ r.Persists h) :
    (r.undergo h).1.queue = r.queue ++ r.accepts h ∧
      ∀ op, h = .op op → (r.undergo h).1.archive = r.archive := by
  cases h with
  | op op =>
    have hdoes := does_step r op
    rw [undergo]
    generalize (r.step op).1 = next at hdoes
    cases hdoes with
    | waits => exact ⟨rfl, fun _ _ => rfl⟩
    | stores stores found => exact absurd (.op stores found) hn
    | fails => exact ⟨rfl, fun _ _ => rfl⟩
  | removed => exact ⟨(List.append_nil _).symm, nofun⟩
  | made => exact ⟨(List.append_nil _).symm, nofun⟩

/-- If they are stored, none of them waits any more. -/
lemma undergo_of_persists (hp : r.Persists h) :
    (r.undergo h).1.queue = [] ∧ (r.undergo h).2 = none ∧
      ∃ a b, r.archive = some a ∧ (r.undergo h).1.archive = some b ∧
        a.Extends ((r.queue ++ r.accepts h).map Event.line) b := by
  obtain @⟨op, stamp, a, stores, found⟩ := hp
  have hdoes := does_step r op
  have hquiet : (r.undergo (.op op)).2 = none := by
    rw [Option.eq_none_iff_forall_ne_some]
    intro fault hfault
    have hgone := (fails_of_fault hfault).2.1
    simp [hgone] at found
  refine ⟨?_, hquiet, ?_⟩
  all_goals
    rw [undergo]
    generalize (r.step op).1 = next at hdoes
    cases hdoes with
    | waits rest => exact absurd stores (rest stamp)
    | fails _ gone => simp [gone] at found
    | @stores _ b _ found' => ?_
  · rfl
  · exact ⟨b, _, found', rfl, Archive.extends_store⟩

lemma storing_of_not_persists (hn : ¬ r.Persists h) : r.storing h = [] := by
  unfold storing
  rw [(undergo_of_not_persists hn).1]
  split
  · next hempty => simpa using hempty
  · rfl

lemma storing_of_persists (hp : r.Persists h) : r.storing h = r.queue ++ r.accepts h := by
  rw [storing, (undergo_of_persists hp).1]
  rfl

/-- What waited and what is taken is stored or waits, in order and once. -/
lemma queue_undergo (r : Recorder) (h : Happening) :
    r.queue ++ r.accepts h = r.storing h ++ (r.undergo h).1.queue := by
  by_cases hp : r.Persists h
  · rw [storing_of_persists hp, (undergo_of_persists hp).1, List.append_nil]
  · rw [storing_of_not_persists hp, (undergo_of_not_persists hp).1, List.nil_append]

/-! ### Many happenings -/

variable {c : Course undergo} {k m n : ℕ}

/-- The events that are taken from one position up to another. -/
def acceptedIn (c : Course undergo) (m n : ℕ) : List Event :=
  (List.Ico m n).flatMap fun k => (c.state k).accepts (c.input k)

/-- The events that are stored from one position up to another. -/
def storedIn (c : Course undergo) (m n : ℕ) : List Event :=
  (List.Ico m n).flatMap fun k => (c.state k).storing (c.input k)

lemma acceptedIn_succ (hmn : m ≤ n) :
    acceptedIn c m (n + 1) = acceptedIn c m n ++ (c.state n).accepts (c.input n) := by
  rw [acceptedIn, List.Ico.succ_top hmn, List.flatMap_append, List.flatMap_singleton, acceptedIn]

lemma storedIn_succ (hmn : m ≤ n) :
    storedIn c m (n + 1) = storedIn c m n ++ (c.state n).storing (c.input n) := by
  rw [storedIn, List.Ico.succ_top hmn, List.flatMap_append, List.flatMap_singleton, storedIn]

/-- **Nothing is lost or stored twice**, however often the directory is gone: what waited at one
position and what was taken since then is what was stored since then, and after it what waits. -/
theorem queue_append_acceptedIn (hmn : m ≤ n) :
    (c.state m).queue ++ acceptedIn c m n = storedIn c m n ++ (c.state n).queue := by
  induction n, hmn using Nat.le_induction with
  | base => simp [acceptedIn, storedIn]
  | succ n hmn ih =>
    have hstep := queue_undergo (c.state n) (c.input n)
    calc (c.state m).queue ++ acceptedIn c m (n + 1)
      _ = (c.state m).queue ++ acceptedIn c m n ++ (c.state n).accepts (c.input n) := by
        rw [acceptedIn_succ hmn, List.append_assoc]
      _ = storedIn c m n ++ ((c.state n).queue ++ (c.state n).accepts (c.input n)) := by
        rw [ih, List.append_assoc]
      _ = storedIn c m n ++ ((c.state n).storing (c.input n) ++ (c.state (n + 1)).queue) := by
        rw [hstep, Course.state_succ]
      _ = storedIn c m (n + 1) ++ (c.state (n + 1)).queue := by
        rw [storedIn_succ hmn, List.append_assoc]

lemma storedIn_eq_nil (hnone : ∀ j, m ≤ j → j < n → ¬ (c.state j).Persists (c.input j)) :
    storedIn c m n = [] := by
  refine List.flatMap_eq_nil_iff.mpr fun j hj => ?_
  obtain ⟨hmj, hjn⟩ := List.Ico.mem.mp hj
  exact storing_of_not_persists (hnone j hmj hjn)

/-- A failure that is told of is one to store anything. -/
lemma not_persists_of_fault (hfail : c.output k = some fault) :
    ¬ (c.state k).Persists (c.input k) := by
  intro hp
  have hquiet := (undergo_of_persists hp).2.1
  rw [Course.output, hquiet] at hfail
  cases hfail

/-- **A failure loses nothing and stores nothing twice.** If an operation tells of a failure, there
is no directory and so no file; what waited goes on waiting, with the event that was taken after it.
Until an operation stores them all events go on waiting, followed by those that are taken, and no
operation changes a file. The first operation that stores adds lines to the buffer file that tell
all of them, in order and once, and none waits any more. -/
theorem storing_after_fault (hfail : c.output k = some fault) :
    (c.state k).archive = none ∧ (c.state (k + 1)).archive = none ∧
    (c.state (k + 1)).queue = (c.state k).queue ++ (c.state k).accepts (c.input k) ∧
    ∀ n, k < n → (∀ j, k < j → j < n → ¬ (c.state j).Persists (c.input j)) →
      (c.state n).queue = (c.state k).queue ++ acceptedIn c k n ∧
      (∀ j, k < j → j < n → ∀ op, c.input j = .op op →
        (c.state (j + 1)).archive = (c.state j).archive) ∧
      ((c.state n).Persists (c.input n) →
        c.output n = none ∧ (c.state (n + 1)).queue = [] ∧
        ∃ a b lines, (c.state n).archive = some a ∧ (c.state (n + 1)).archive = some b ∧
          a.Extends lines b ∧ Tells lines ((c.state k).queue ++ acceptedIn c k (n + 1))) := by
  have hnot := not_persists_of_fault hfail
  obtain ⟨hqueue, harchive⟩ := undergo_of_not_persists hnot
  obtain ⟨op, hop⟩ : ∃ op, c.input k = .op op := by
    rw [Course.output] at hfail
    cases hin : c.input k with
    | op op => exact ⟨op, rfl⟩
    | removed => simp [hin, undergo] at hfail
    | made => simp [hin, undergo] at hfail
  have hgone : (c.state k).archive = none := by
    rw [Course.output, hop] at hfail
    exact (fails_of_fault hfail).2.1
  refine ⟨hgone, (harchive op hop).trans hgone, hqueue, fun n hkn hnone => ?_⟩
  have hnever : ∀ j, k ≤ j → j < n → ¬ (c.state j).Persists (c.input j) := by
    intro j hkj hjn
    rcases Nat.eq_or_lt_of_le hkj with rfl | hlt
    · exact hnot
    · exact hnone j hlt hjn
  have hwaits : (c.state n).queue = (c.state k).queue ++ acceptedIn c k n := by
    rw [queue_append_acceptedIn hkn.le, storedIn_eq_nil hnever, List.nil_append]
  refine ⟨hwaits, fun j hkj hjn op hop => ?_, fun hp => ?_⟩
  · exact (undergo_of_not_persists (hnone j hkj hjn)).2 op hop
  · obtain ⟨hempty, hquiet, a, b, hfound, hnext, hext⟩ := undergo_of_persists hp
    refine ⟨hquiet, hempty, a, b, _, hfound, hnext, hext, ?_⟩
    rw [acceptedIn_succ hkn.le, ← List.append_assoc, ← hwaits]
    exact tells_lines _

/-- The directory is removed after the first event, and made again before the fourth. -/
def interrupted : Course undergo where
  start := start ⟨true, 2, ⟨1000, 2⟩⟩ []
  input
    | 0 => .op (.record "1" ⟨"first", "noon", .null⟩)
    | 1 => .removed
    | 2 => .op (.record "2" ⟨"second", "noon", .string "two\nlines"⟩)
    | 3 => .op (.note ⟨"noon", "3"⟩ (.locatingFailed "no fix"))
    | 4 => .made
    | 5 => .op (.record "5" ⟨"fourth", "noon", .null⟩)
    | _ => .op (.flush "6")

/-- The second event is refused, and the fourth is stored with all that wait. -/
theorem interrupted_stores :
    interrupted.output 2 = some .missing ∧ (interrupted.state 5).depth = 3 ∧
    interrupted.output 5 = none ∧ (interrupted.state 6).queue = [] ∧
    ∃ a b lines, (interrupted.state 5).archive = some a ∧ (interrupted.state 6).archive = some b ∧
      a.Extends lines b ∧ Tells lines ((interrupted.state 2).queue ++ acceptedIn interrupted 2 6) ∧
      lines = ["\x7b\"name\":\"first\",\"timestamp\":\"noon\",\"payload\":null\x7d",
        "\x7b\"name\":\"second\",\"timestamp\":\"noon\",\"payload\":\"two\\nlines\"\x7d",
        "\x7b\"name\":\"geolocation_failed\",\"timestamp\":\"noon\"," ++
          "\"payload\":\x7b\"reason\":\"no fix\"\x7d\x7d",
        "\x7b\"name\":\"fourth\",\"timestamp\":\"noon\",\"payload\":null\x7d"] := by
  have hfail : interrupted.output 2 = some .missing := rfl
  have hnone : ∀ j, 2 < j → j < 5 → ¬ (interrupted.state j).Persists (interrupted.input j) := by
    intro j h2 h5 hp
    obtain rfl | rfl : j = 3 ∨ j = 4 := by omega
    · obtain ⟨-, found⟩ := hp
      cases found
    · cases hp
  have hp : (interrupted.state 5).Persists (interrupted.input 5) :=
    .op (.record rfl (by decide)) rfl
  obtain ⟨-, -, -, hlater⟩ := storing_after_fault hfail
  obtain ⟨hquiet, hempty, a, b, lines, ha, hb, hext, htells⟩ := (hlater 5 (by decide) hnone).2.2 hp
  refine ⟨hfail, rfl, hquiet, hempty, a, b, lines, ha, hb, hext, htells, ?_⟩
  rw [htells.written]
  decide +kernel

end Recorder

end Whereto
