import Whereto.Proofs.Plan.DateText
import Whereto.Proofs.Telemetry.Ledger
import Whereto.Proofs.Telemetry.Operation
import Whereto.Telemetry.Clock

/-!
The log. What is in the files of a recorder, the oldest file first, followed by what waits in its
queue, is what was recorded last, without gaps. Events are lost only when there is no room for them,
and then from the beginning.
-/

namespace Whereto.Recorder

open Archive (asideName)
open Ledger (bytes)

variable {c : Course step} {r : Recorder} {op : Op} {stamp : String} {k n : ℕ} {l : Ledger}
  {lost : List Event}

/-- The buffer file has no room for the events that an operation stores. -/
structure Overflows (r : Recorder) (op : Op) (stamp : String) : Prop where
  stores : r.Stores op stamp
  full : ∃ a, r.archive = some a ∧ a.buffer ≠ "" ∧
    r.options.limits.maxBytes < a.buffer.utf8ByteSize + bytes (r.waiting op)

/-- An operation puts the buffer file aside under a stamp. -/
structure PutsAside (r : Recorder) (op : Op) (stamp : String) : Prop
    extends r.Overflows op stamp where
  several : 1 < r.options.limits.maxFiles

/-- Up to a position, the stamps under which files are put aside are numerals, and each is greater
than those before it. -/
structure Stamped (c : Course step) (n : ℕ) : Prop where
  numeral : ∀ k < n, ∀ stamp, (c.state k).PutsAside (c.input k) stamp → Archive.IsNumeral stamp
  increasing : ∀ j k, j < k → k < n → ∀ s t, (c.state j).PutsAside (c.input j) s →
    (c.state k).PutsAside (c.input k) t → s < t

lemma Stamped.mono {m : ℕ} (h : Stamped c n) (hmn : m ≤ n) : Stamped c m where
  numeral k hk := h.numeral k (by omega)
  increasing j k hjk hk := h.increasing j k hjk (by omega)

/-- The stamps of the clock are numerals. -/
theorem isNumeral_ofClock (nanoseconds : ℕ) :
    Archive.IsNumeral (Moment.ofClock nanoseconds).stamp := by
  intro c hc
  simp only [Moment.ofClock, String.toList_ofList, List.mem_append] at hc
  rcases hc with (((((hc | hc) | hc) | hc) | hc) | hc) | hc <;>
    exact Date.isDigit_of_mem_padded hc

/-! ### The ledger of a recorder -/

/-- At a position, some events were lost, some are in the files, and the others wait. -/
structure Kept (c : Course step) (n : ℕ) (lost : List Event) (l : Ledger) : Prop where
  archive : (c.state n).archive = some l.archive
  events : recorded c n = lost ++ l.events ++ (c.state n).queue
  room : (c.state n).depth < c.start.options.batchSize
  fits : l.Fits c.start.options.limits
  named : ∀ f ∈ l.aside,
    ∃ k < n, ∃ stamp, (c.state k).PutsAside (c.input k) stamp ∧ f.1 = asideName stamp
  lossless : lost ≠ [] → ∃ k < n, ∃ stamp, (c.state k).Overflows (c.input k) stamp

lemma kept_zero {o : RecorderOptions} (hc : c.start = start o []) : Kept c 0 [] .empty where
  archive := by
    rw [Course.state_zero, hc]
    rfl
  events := by
    rw [Course.state_zero, hc]
    rfl
  room := by
    rw [Course.state_zero, hc]
    exact batchSize_pos _
  fits := Nat.zero_le _
  named := nofun
  lossless h := absurd rfl h

lemma overflows_of_not_hasRoom (stores : r.Stores op stamp) (found : r.archive = some l.archive)
    (h : ¬ l.HasRoom r.options.limits (r.waiting op)) : r.Overflows op stamp where
  stores := stores
  full := by
    refine ⟨l.archive, found, ?_⟩
    rw [Ledger.buffer_archive]
    simp only [Ledger.HasRoom, not_or, not_le] at h
    refine ⟨fun hempty => h.1 ?_, h.2⟩
    rw [bytes, hempty]
    rfl

/-- What is put aside comes after what was put aside before. -/
lemma Kept.lt_of_putsAside (h : Kept c n lost l) (stamped : Stamped c (n + 1))
    (hputs : (c.state n).PutsAside (c.input n) stamp) : ∀ f ∈ l.aside, f.1 < asideName stamp := by
  intro f hf
  obtain ⟨k, hkn, s, hs, hname⟩ := h.named f hf
  rw [hname]
  exact Archive.asideName_lt (stamped.numeral n n.lt_succ_self stamp hputs)
    (stamped.increasing k n hkn n.lt_succ_self s stamp hs hputs)

lemma Kept.of_stores (h : Kept c n lost l) (stamped : Stamped c (n + 1))
    (stores : (c.state n).Stores (c.input n) stamp) (hnext : c.state (n + 1) =
      ⟨(c.state n).options, (c.state n).enabled, [],
        some (l.archive.store (c.state n).options.limits stamp
          (((c.state n).waiting (c.input n)).map Event.line))⟩) :
    ∃ lost l, Kept c (n + 1) lost l := by
  generalize hbatch : (c.state n).waiting (c.input n) = batch at hnext
  have overflows (hroom : ¬ l.HasRoom c.start.options.limits batch) :
      (c.state n).Overflows (c.input n) stamp :=
    overflows_of_not_hasRoom stores h.archive (by rwa [options_state, hbatch])
  have putsAside (hroom : ¬ l.HasRoom c.start.options.limits batch)
      (hfiles : 1 < c.start.options.limits.maxFiles) :
      (c.state n).PutsAside (c.input n) stamp :=
    ⟨overflows hroom, by rwa [options_state]⟩
  have hlast (hroom : ¬ l.HasRoom c.start.options.limits batch)
      (hfiles : 1 < c.start.options.limits.maxFiles) : ∀ f ∈ l.aside, f.1 < asideName stamp :=
    h.lt_of_putsAside stamped (putsAside hroom hfiles)
  obtain ⟨more, hmore⟩ := Ledger.events_store h.fits hlast
  refine ⟨lost ++ more, l.store c.start.options.limits stamp batch, ?_, ?_, ?_,
    Ledger.fits_store h.fits, ?_, ?_⟩
  · rw [hnext, options_state, Ledger.archive_store]
  · have hrecorded : recorded c (n + 1) = lost ++ (l.events ++ batch) := by
      rw [recorded, h.events, ← hbatch, waiting, List.append_assoc, List.append_assoc]
    rw [hrecorded, hnext, ← hmore]
    simp
  · rw [hnext]
    exact batchSize_pos _
  · intro f hf
    rcases Ledger.mem_aside_store hf with hf | ⟨hroom, hfiles, hname⟩
    · exact Nat.exists_lt_succ_right.mpr (.inl (h.named f hf))
    · exact Nat.exists_lt_succ_right.mpr (.inr ⟨stamp, putsAside hroom hfiles, hname⟩)
  · intro hlost
    by_cases hroom : l.HasRoom c.start.options.limits batch
    · -- nothing more is lost
      have hnone : more = [] := by
        rw [Ledger.events_store_of_hasRoom hroom] at hmore
        simpa using hmore
      rw [hnone, List.append_nil] at hlost
      exact Nat.exists_lt_succ_right.mpr (.inl (h.lossless hlost))
    · exact Nat.exists_lt_succ_right.mpr (.inr ⟨stamp, overflows hroom⟩)

lemma Kept.succ (h : Kept c n lost l) (stamped : Stamped c (n + 1)) :
    ∃ lost l, Kept c (n + 1) lost l := by
  have hdoes := does_step (c.state n) (c.input n)
  rw [← Course.state_succ] at hdoes
  generalize hnext : c.state (n + 1) = next at hdoes
  cases hdoes with
  | waits rest =>
    have hoptions := options_state c n
    refine ⟨lost, l, hnext ▸ h.archive, ?_, ?_, h.fits, ?_, ?_⟩
    · rw [recorded, h.events, hnext, waiting, List.append_assoc]
    · rw [hnext, ← hoptions]
      exact waiting_length_lt (hoptions ▸ h.room) rest
    · exact fun f hf => Nat.exists_lt_succ_right.mpr (.inl (h.named f hf))
    · exact fun hlost => Nat.exists_lt_succ_right.mpr (.inl (h.lossless hlost))
  | stores stores found =>
    obtain rfl := Option.some.inj (h.archive.symm.trans found)
    exact h.of_stores stamped stores hnext
  | fails _ gone => exact absurd (h.archive.symm.trans gone) (by simp)

lemma kept_of_stamped {o : RecorderOptions} (hc : c.start = start o []) (stamped : Stamped c n) :
    ∃ lost l, Kept c n lost l := by
  induction n with
  | zero => exact ⟨[], .empty, kept_zero hc⟩
  | succ n ih =>
    obtain ⟨lost, l, h⟩ := ih (stamped.mono n.le_succ)
    exact h.succ stamped

/-! ### Room for everything -/

lemma bytes_recorded_mono {m : ℕ} (hmn : m ≤ n) : bytes (recorded c m) ≤ bytes (recorded c n) := by
  induction n, hmn using Nat.le_induction with
  | base => exact le_rfl
  | succ n _ ih =>
    rw [recorded, Ledger.bytes_append]
    exact Nat.le_add_right_of_le ih

/-- The file that overflows holds events that were recorded, and so do those that wait. -/
lemma Kept.lt_bytes_of_overflows (h : Kept c n lost l)
    (hover : (c.state n).Overflows (c.input n) stamp) :
    c.start.options.limits.maxBytes < bytes (recorded c (n + 1)) := by
  obtain ⟨a, hfound, -, hfull⟩ := hover.full
  obtain rfl := Option.some.inj (h.archive.symm.trans hfound)
  rw [options_state, Ledger.buffer_archive] at hfull
  have hrecorded : bytes (recorded c (n + 1)) = bytes lost + bytes (l.aside.flatMap Prod.snd) +
      bytes l.current + bytes ((c.state n).waiting (c.input n)) := by
    rw [recorded, h.events, List.append_assoc, ← waiting, Ledger.events]
    simp only [Ledger.bytes_append]
    omega
  change _ < bytes l.current + _ at hfull
  omega

/-- **The log is what was recorded last.** When a recorder starts on an empty directory and the
stamps under which files are put aside increase, then at every moment the events that were taken are
some that were lost, those that the lines of the files tell, one line each, and those that wait in
the queue, which are fewer than a batch; the names of the files are in order. Nothing is lost as
long as the buffer file never overflows, and it does not overflow as long as it has room for
everything. -/
theorem recorded_eq_append_logged {o : RecorderOptions} (hc : c.start = start o [])
    (stamped : Stamped c n) :
    ∃ lost stored a, (c.state n).archive = some a ∧ Keyed.Ascending a ∧
      Tells a.logged stored ∧
      recorded c n = lost ++ stored ++ (c.state n).queue ∧
      (c.state n).depth < o.batchSize ∧
      ((∀ k < n, ∀ stamp, ¬ (c.state k).Overflows (c.input k) stamp) → lost = []) ∧
      (bytes (recorded c n) ≤ o.limits.maxBytes → lost = []) := by
  obtain ⟨lost, l, h⟩ := kept_of_stamped hc stamped
  have hstart : c.start.options = o := by rw [hc]; rfl
  have hwhole (hnever : ∀ k < n, ∀ stamp, ¬ (c.state k).Overflows (c.input k) stamp) :
      lost = [] := by
    by_contra hlost
    obtain ⟨k, hkn, stamp, hover⟩ := h.lossless hlost
    exact hnever k hkn stamp hover
  have htells : Tells l.archive.logged l.events := by
    rw [Ledger.logged_archive]
    exact tells_lines _
  refine ⟨lost, l.events, l.archive, h.archive, Ledger.ascending_archive, htells, h.events,
    hstart ▸ h.room, hwhole, fun hroom => hwhole fun k hkn stamp hover => ?_⟩
  obtain ⟨lostBefore, m, hm⟩ := kept_of_stamped hc (stamped.mono hkn.le)
  have hlt := hm.lt_bytes_of_overflows hover
  have hle : bytes (recorded c (k + 1)) ≤ _ := bytes_recorded_mono hkn
  rw [hstart] at hlt
  omega

/-- Three events, each stored at once. No two of their lines fit the buffer file, and only one file
may be kept beside it. -/
def rotating : Course step where
  start := start ⟨true, 1, ⟨1, 2⟩⟩ []
  input
    | 0 => .record "20240229120000000" ⟨"first", "2024-02-29T12:00:00Z", .null⟩
    | 1 => .record "20240229120000001"
      ⟨"sec\nond", "2024-02-29T12:00:00.001Z", .object [("said", .string "\"hi\"")]⟩
    | 2 => .record "20240229120000002" ⟨"third", "2024-02-29T12:00:00.002Z", .int 3⟩
    | _ => .flush "20240229120000003"

/-- The last two events are in the files. -/
theorem rotating_logged :
    Stamped rotating 3 ∧
    (rotating.state 3).archive.map (·.map Prod.fst) =
      some ["resolution-events-20240229120000002.jsonl", "resolution-events.jsonl"] ∧
    ∃ lost stored a, (rotating.state 3).archive = some a ∧ Keyed.Ascending a ∧
      a.logged = ["\x7b\"name\":\"sec\\nond\",\"timestamp\":\"2024-02-29T12:00:00.001Z\"," ++
          "\"payload\":\x7b\"said\":\"\\\"hi\\\"\"\x7d\x7d",
        "\x7b\"name\":\"third\",\"timestamp\":\"2024-02-29T12:00:00.002Z\"," ++
          "\"payload\":3\x7d"] ∧
      Tells a.logged stored ∧
      recorded rotating 3 = lost ++ stored ++ (rotating.state 3).queue ∧
      (rotating.state 3).depth < 1 ∧
      ((∀ k < 3, ∀ stamp, ¬ (rotating.state k).Overflows (rotating.input k) stamp) → lost = []) ∧
      (bytes (recorded rotating 3) ≤ 1 → lost = []) := by
  have stamped : Stamped rotating 3 := by
    constructor
    · intro k hk stamp h
      obtain rfl | rfl | rfl : k = 0 ∨ k = 1 ∨ k = 2 := by omega
      all_goals
        obtain rfl := (stores_record_iff.mp h.stores).1
        decide +kernel
    · intro j k hjk hk s t hs ht
      obtain ⟨rfl, rfl⟩ | ⟨rfl, rfl⟩ | ⟨rfl, rfl⟩ :
          (j = 0 ∧ k = 1) ∨ (j = 0 ∧ k = 2) ∨ (j = 1 ∧ k = 2) := by omega
      all_goals
        obtain rfl := (stores_record_iff.mp hs.stores).1
        obtain rfl := (stores_record_iff.mp ht.stores).1
        decide +kernel
  have hstart : rotating.start = start ⟨true, 1, ⟨1, 2⟩⟩ [] := rfl
  obtain ⟨lost, stored, a, ha, hascending, hrest⟩ := recorded_eq_append_logged hstart stamped
  refine ⟨stamped, by decide +kernel, lost, stored, a, ha, hascending, ?_, hrest⟩
  refine Option.some.inj (Eq.trans (congrArg (Option.map Archive.logged) ha).symm ?_)
  decide +kernel

end Whereto.Recorder
