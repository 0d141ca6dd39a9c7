import Whereto.Proofs.Telemetry.Ledger
import Whereto.Proofs.Telemetry.Operation

/-!
How much room the log takes. There are never more files than there may be, and a file is larger
than files may be only if it is a single batch, since an empty file takes whatever comes first.
-/

namespace Whereto

namespace Ledger

variable {l : Ledger} {limits : Limits} {stamp : String} {batch es : List Event}

/-- The events of each file. -/
def files (l : Ledger) : List (List Event) := l.aside.map Prod.snd ++ [l.current]

lemma mem_files : es ∈ l.files ↔ (∃ f ∈ l.aside, f.2 = es) ∨ es = l.current := by
  simp [files]

/-- A file without bytes is a file without events. -/
lemma eq_nil_of_bytes_eq_zero (h : bytes es = 0) : es = [] := by
  cases es with
  | nil => rfl
  | cons e es =>
    have hend : bytes [e] = e.line.utf8ByteSize + 1 := by
      rw [show 1 = "\n".utf8ByteSize from rfl]
      simp [bytes, text, Archive.block]
    rw [← List.singleton_append, bytes_append, hend] at h
    omega

/-- The buffer file after a batch was put into it. -/
lemma current_of_hasRoom (h : l.HasRoom limits batch) :
    l.current ++ batch = batch ∨ bytes (l.current ++ batch) ≤ limits.maxBytes := by
  rcases h with hempty | hroom
  · exact .inl (by rw [eq_nil_of_bytes_eq_zero hempty, List.nil_append])
  · exact .inr (by rwa [bytes_append])

/-- **What storing makes of files**: each is one that was there, the batch, or small enough. -/
theorem mem_files_store (h : es ∈ (l.store limits stamp batch).files) :
    es ∈ l.files ∨ es = batch ∨ bytes es ≤ limits.maxBytes := by
  rw [mem_files] at h
  unfold store at h
  split at h
  · next hroom =>
    rcases h with haside | rfl
    · exact .inl (mem_files.mpr (.inl haside))
    · exact .inr (current_of_hasRoom hroom)
  · split at h
    · rcases h with haside | rfl
      · exact .inl (mem_files.mpr (.inl haside))
      · exact .inr (.inl rfl)
    · rcases h with ⟨f, hf, rfl⟩ | rfl
      · rcases Keyed.mem_put (List.mem_of_mem_drop hf) with rfl | hf
        · exact .inl (mem_files.mpr (.inr rfl))
        · exact .inl (mem_files.mpr (.inl ⟨f, hf, rfl⟩))
      · exact .inr (.inl rfl)

/-- What lies in the archive of a ledger is the files of the ledger. -/
lemma mem_archive {f : String × Entry} (h : f ∈ l.archive) :
    ∃ es ∈ l.files, f.2 = .file (text es) := by
  rcases List.mem_append.mp h with hf | hf
  · obtain ⟨es, hes, hfile⟩ := mem_shelf hf
    exact ⟨es, mem_files.mpr (.inl ⟨_, hes, rfl⟩), hfile⟩
  · exact ⟨l.current, mem_files.mpr (.inr rfl), by rw [List.mem_singleton.mp hf]; rfl⟩

end Ledger

namespace Recorder

open Archive (bufferName)
open Ledger (bytes text)

variable {c : Course step} {n : ℕ} {l : Ledger} {es : List Event}

/-- Events were stored together before a position. -/
def Stored (c : Course step) (n : ℕ) (es : List Event) : Prop :=
  ∃ k < n, ∃ stamp, (c.state k).Stores (c.input k) stamp ∧ (c.state k).waiting (c.input k) = es

lemma Stored.succ (h : Stored c n es) : Stored c (n + 1) es := by
  obtain ⟨k, hk, h⟩ := h
  exact ⟨k, by omega, h⟩

/-- At a position, the files are those of a ledger that keeps within the limits. -/
structure Bounded (c : Course step) (n : ℕ) (l : Ledger) : Prop where
  archive : (c.state n).archive = some l.archive
  fits : l.Fits c.start.options.limits
  files : ∀ es ∈ l.files, bytes es ≤ c.start.options.limits.maxBytes ∨ Stored c n es

lemma bounded_zero {o : RecorderOptions} (hc : c.start = start o []) : Bounded c 0 .empty where
  archive := by
    rw [Course.state_zero, hc]
    rfl
  fits := Nat.zero_le _
  files es hes := by
    obtain rfl := List.mem_singleton.mp hes
    exact .inl (Nat.zero_le _)

lemma Bounded.succ (h : Bounded c n l) : ∃ l, Bounded c (n + 1) l := by
  have hdoes := does_step (c.state n) (c.input n)
  rw [← Course.state_succ] at hdoes
  generalize hnext : c.state (n + 1) = next at hdoes
  cases hdoes with
  | waits =>
    exact ⟨l, hnext ▸ h.archive, h.fits, fun es hes => (h.files es hes).imp_right .succ⟩
  | @stores stamp a stores found =>
    obtain rfl := Option.some.inj (h.archive.symm.trans found)
    refine ⟨l.store c.start.options.limits stamp ((c.state n).waiting (c.input n)),
      ?_, Ledger.fits_store h.fits, fun es hes => ?_⟩
    · rw [hnext, options_state, Ledger.archive_store]
    · rcases Ledger.mem_files_store hes with hes | rfl | hsmall
      · exact (h.files es hes).imp_right .succ
      · exact .inr ⟨n, n.lt_succ_self, stamp, stores, rfl⟩
      · exact .inl hsmall
  | fails _ gone => exact absurd (h.archive.symm.trans gone) (by simp)

lemma bounded {o : RecorderOptions} (hc : c.start = start o []) (n : ℕ) : ∃ l, Bounded c n l := by
  induction n with
  | zero => exact ⟨.empty, bounded_zero hc⟩
  | succ n ih =>
    obtain ⟨l, h⟩ := ih
    exact h.succ

/-- **The log keeps within its limits.** When a recorder starts on an empty directory, then after
every operation there are the buffer file and files put aside, together no more than there may be,
though always the buffer file; and each of them is no larger than files may be, or it is one batch
that was stored, and nothing else. -/
theorem archive_bounded {o : RecorderOptions} (hc : c.start = start o []) (n : ℕ) :
    ∃ a content, (c.state n).archive = some a ∧ Keyed.Ascending a ∧
      a = a.asides ++ [(bufferName, .file content)] ∧
      a.asides.length ≤ max o.limits.maxFiles 1 - 1 ∧
      ∀ f ∈ a, ∃ content, f.2 = .file content ∧
        (content.utf8ByteSize ≤ o.limits.maxBytes ∨
          ∃ k < n, ∃ stamp, (c.state k).Stores (c.input k) stamp ∧
            content = Archive.block (((c.state k).waiting (c.input k)).map Event.line)) := by
  obtain ⟨l, h⟩ := bounded hc n
  have hstart : c.start.options = o := by
    rw [hc]
    rfl
  refine ⟨l.archive, text l.current, h.archive, Ledger.ascending_archive, ?_, ?_, fun f hf => ?_⟩
  · rw [Ledger.asides_archive]
    rfl
  · have hfits : l.aside.length ≤ o.limits.maxFiles - 1 := hstart ▸ h.fits
    rw [Ledger.asides_archive, Ledger.shelf, List.length_map]
    omega
  · obtain ⟨es, hes, hfile⟩ := Ledger.mem_archive hf
    refine ⟨text es, hfile, ?_⟩
    rcases h.files es hes with hsmall | ⟨k, hk, stamp, stores, rfl⟩
    · exact .inl (hstart ▸ hsmall)
    · exact .inr ⟨k, hk, stamp, stores, rfl⟩

/-- Batches of two events, where a file may hold no byte and two files may be kept; the third event
is stored by itself. -/
def cramped : Course step where
  start := start ⟨true, 2, ⟨0, 2⟩⟩ []
  input
    | 0 => .record "1" ⟨"first", "noon", .null⟩
    | 1 => .note ⟨"noon", "2"⟩ (.locatingFailed "no fix")
    | 2 => .record "3" ⟨"third", "noon", .null⟩
    | 3 => .flush "4"
    | _ => .enable false

/-- Each of the two files is a batch. -/
theorem cramped_files :
    (cramped.state 4).archive.map (·.map fun f => (f.1, (Text.lines f.2.content).length)) =
      some [("resolution-events-4.jsonl", 2), ("resolution-events.jsonl", 1)] ∧
    ∃ a content, (cramped.state 4).archive = some a ∧ Keyed.Ascending a ∧
      a = a.asides ++ [(bufferName, .file content)] ∧
      a.asides.length ≤ max 2 1 - 1 ∧
      ∀ f ∈ a, ∃ content, f.2 = .file content ∧
        (content.utf8ByteSize ≤ 0 ∨
          ∃ k < 4, ∃ stamp, (cramped.state k).Stores (cramped.input k) stamp ∧
            content =
              Archive.block (((cramped.state k).waiting (cramped.input k)).map Event.line)) := by
  have hstart : cramped.start = start ⟨true, 2, ⟨0, 2⟩⟩ [] := rfl
  exact ⟨by decide +kernel, archive_bounded hstart 4⟩

end Recorder

end Whereto
