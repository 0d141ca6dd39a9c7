import Whereto.Proofs.Telemetry.Archive

/-!
Which events are in which file. A ledger says so for an archive that nobody else writes to, and to
store a batch does the same to the events of the ledger as to the files of the archive.
-/

namespace Whereto

/-- The events of the files put aside, by the names of these files, and those of the buffer file. -/
structure Ledger where
  aside : List (String × List Event)
  current : List Event
  ascending : Keyed.Ascending aside
  named : ∀ f ∈ aside, Archive.isAside f.1 = true

namespace Ledger

open Archive (asideName bufferName)

variable {l : Ledger} {limits : Limits} {stamp : String} {batch : List Event}

/-- The lines of events, each with its end. -/
def text (es : List Event) : String := Archive.block (es.map Event.line)

lemma text_append (es fs : List Event) : text (es ++ fs) = text es ++ text fs := by
  simp [text, Archive.block_append]

/-- How large a file with events is. -/
def bytes (es : List Event) : Nat := (text es).utf8ByteSize

lemma bytes_append (es fs : List Event) : bytes (es ++ fs) = bytes es + bytes fs := by
  simp [bytes, text_append]

lemma lines_text (es : List Event) : Text.lines (text es) = es.map Event.line :=
  Archive.lines_block fun _ hl => by
    obtain ⟨e, -, rfl⟩ := List.mem_map.mp hl
    exact e.isLine

def file (es : List Event) : Entry := .file (text es)

/-- The files put aside. -/
def shelf (l : Ledger) : Archive := l.aside.map (Prod.map id file)

/-- The archive that a ledger is of. -/
def archive (l : Ledger) : Archive := l.shelf ++ [(bufferName, file l.current)]

/-- All events, those put aside first. -/
def events (l : Ledger) : List Event := l.aside.flatMap Prod.snd ++ l.current

def empty : Ledger := ⟨[], [], List.Pairwise.nil, nofun⟩

/-! ### The archive of a ledger -/

lemma mem_shelf {f : String × Entry} (h : f ∈ l.shelf) :
    ∃ es, (f.1, es) ∈ l.aside ∧ f.2 = file es := by
  obtain ⟨⟨name, es⟩, hmem, rfl⟩ := List.mem_map.mp h
  exact ⟨es, hmem, rfl⟩

lemma isAside_of_mem_shelf {f : String × Entry} (h : f ∈ l.shelf) :
    Archive.isAside f.1 = true := by
  obtain ⟨es, hmem, -⟩ := mem_shelf h
  exact l.named _ hmem

lemma lt_of_mem_shelf {f : String × Entry} (h : f ∈ l.shelf) : f.1 < bufferName :=
  Archive.lt_bufferName (isAside_of_mem_shelf h)

lemma ascending_shelf : Keyed.Ascending l.shelf := List.pairwise_map.mpr l.ascending

lemma ascending_archive : Keyed.Ascending l.archive :=
  List.pairwise_append.mpr ⟨ascending_shelf, List.pairwise_singleton _ _, fun f hf g hg => by
    rw [List.mem_singleton.mp hg]
    exact lt_of_mem_shelf hf⟩

lemma asides_shelf : l.shelf.asides = l.shelf :=
  List.filter_eq_self.mpr fun _ hf => isAside_of_mem_shelf hf

lemma asides_archive : l.archive.asides = l.shelf := by
  have hbuffer : Archive.isAside bufferName = false := by decide
  rw [archive, Archive.asides, List.filter_append, ← Archive.asides, asides_shelf]
  simp [hbuffer]

lemma buffer_archive : l.archive.buffer = text l.current := by
  rw [Archive.buffer, archive, Keyed.get?_append fun f hf => (lt_of_mem_shelf hf).ne]
  simp [Keyed.get?, file, Entry.content]

/-- Without a buffer file, what is put into it is all that is in it. -/
lemma append_shelf :
    l.shelf.append (batch.map Event.line) = { l with current := batch }.archive := by
  have hbuffer : l.shelf.buffer = "" := by
    rw [Archive.buffer, ← List.append_nil l.shelf,
      Keyed.get?_append fun f hf => (lt_of_mem_shelf hf).ne]
    rfl
  rw [Archive.append, hbuffer, String.empty_append, Archive.withBuffer,
    ← List.append_nil l.shelf, Keyed.put_append_of_gt fun f hf => lt_of_mem_shelf hf]
  rfl

lemma withBuffer_archive (es : List Event) :
    l.archive.withBuffer (text es) = { l with current := es }.archive :=
  Keyed.put_append_of_gt fun _ hf => lt_of_mem_shelf hf

lemma append_archive :
    l.archive.append (batch.map Event.line) = { l with current := l.current ++ batch }.archive := by
  rw [Archive.append, buffer_archive, ← text, ← text_append, withBuffer_archive]

/-- The lines in the archive are the lines of the events. -/
lemma logged_archive : l.archive.logged = l.events.map Event.line := by
  rw [Archive.logged, asides_archive, buffer_archive, lines_text, events, List.map_append,
    List.map_flatMap, shelf, List.flatMap_map]
  exact congrArg (· ++ _) (List.flatMap_congr fun _ _ => lines_text _)

/-! ### Storing -/

/-- There is room in the buffer file for a batch. -/
def HasRoom (l : Ledger) (limits : Limits) (batch : List Event) : Prop :=
  bytes l.current = 0 ∨ bytes l.current + bytes batch ≤ limits.maxBytes

instance : Decidable (l.HasRoom limits batch) := inferInstanceAs (Decidable (_ ∨ _))

/-- The events of the buffer file are put aside. -/
def putAside (l : Ledger) (stamp : String) : Ledger where
  aside := Keyed.put (asideName stamp) l.current l.aside
  current := []
  ascending := l.ascending.put
  named f hf := by
    rcases Keyed.mem_put hf with rfl | hf
    · exact Archive.isAside_asideName stamp
    · exact l.named f hf

/-- Only the last files put aside are kept. -/
def keep (l : Ledger) (n : Nat) : Ledger where
  aside := l.aside.drop (l.aside.length - n)
  current := l.current
  ascending := l.ascending.sublist (List.drop_sublist _ _)
  named f hf := l.named f (List.mem_of_mem_drop hf)

def store (l : Ledger) (limits : Limits) (stamp : String) (batch : List Event) : Ledger :=
  if l.HasRoom limits batch then { l with current := l.current ++ batch }
  else if limits.maxFiles ≤ 1 then { l with current := batch }
  else { (l.putAside stamp).keep (limits.maxFiles - 1) with current := batch }

lemma putAside_archive : l.archive.putAside stamp = (l.putAside stamp).shelf := by
  have herase : Keyed.erase bufferName l.archive = l.shelf := by
    rw [archive, Keyed.erase, List.filter_append, ← Keyed.erase,
      Keyed.erase_of_ne fun f hf => (lt_of_mem_shelf hf).ne]
    simp
  rw [Archive.putAside, herase, buffer_archive]
  exact Keyed.put_map file

/-- Files are removed from the beginning. -/
lemma foldl_remove {fs gs : Archive} (h : Keyed.Ascending (fs ++ gs))
    (hfile : ∀ f ∈ fs, f.2.isFile = true) : fs.foldl Archive.remove (fs ++ gs) = gs := by
  induction fs with
  | nil => rfl
  | cons f fs ih =>
    obtain ⟨hf, hrest⟩ := List.pairwise_cons.mp h
    have hremove : Archive.remove (f :: (fs ++ gs)) f = fs ++ gs := by
      rw [Archive.remove, if_pos (hfile f List.mem_cons_self), Keyed.erase,
        List.filter_cons_of_neg (by simp)]
      exact Keyed.erase_of_ne fun g hg => (hf g hg).ne'
    rw [List.cons_append, List.foldl_cons, hremove,
      ih hrest fun g hg => hfile g (List.mem_cons_of_mem _ hg)]

lemma prune_shelf (n : Nat) : l.shelf.prune n = (l.keep n).shelf := by
  have hlength : l.shelf.length = l.aside.length := List.length_map _
  have hdrop : (l.keep n).shelf = l.shelf.drop (l.aside.length - n) := List.map_drop
  rw [Archive.prune, asides_shelf, hlength, hdrop]
  generalize l.aside.length - n = k
  have hfile : ∀ f ∈ l.shelf.take k, f.2.isFile = true := fun f hf => by
    obtain ⟨es, -, hes⟩ := mem_shelf (List.mem_of_mem_take hf)
    rw [hes]
    rfl
  have hascending : Keyed.Ascending (l.shelf.take k ++ l.shelf.drop k) := by
    rw [List.take_append_drop]
    exact ascending_shelf
  simpa only [List.take_append_drop] using foldl_remove hascending hfile

/-- **Ledgers tell what is in the files**: to store a batch in the archive of a ledger gives the
archive of the ledger in which it is stored. -/
theorem archive_store :
    l.archive.store limits stamp (batch.map Event.line) = (l.store limits stamp batch).archive := by
  have hroom : (l.archive.buffer.utf8ByteSize = 0 ∨ l.archive.buffer.utf8ByteSize +
      (Archive.block (batch.map Event.line)).utf8ByteSize ≤ limits.maxBytes) ↔
      l.HasRoom limits batch := by
    rw [buffer_archive]
    rfl
  simp only [Archive.store, Archive.rotate, store, hroom]
  split
  · exact append_archive
  · split
    · rw [show "" = text [] from rfl, withBuffer_archive, append_archive]
      rfl
    · rw [putAside_archive, prune_shelf, append_shelf]

/-! ### What is left -/

lemma mem_aside_store {f : String × List Event} (h : f ∈ (l.store limits stamp batch).aside) :
    f ∈ l.aside ∨ (¬ l.HasRoom limits batch ∧ 1 < limits.maxFiles ∧ f.1 = asideName stamp) := by
  unfold store at h
  split at h
  · exact .inl h
  · next hroom =>
    split at h
    · exact .inl h
    · rcases Keyed.mem_put (List.mem_of_mem_drop h) with rfl | hf
      · exact .inr ⟨hroom, by omega, rfl⟩
      · exact .inl hf

/-- There are no more files put aside than there may be. -/
def Fits (l : Ledger) (limits : Limits) : Prop := l.aside.length ≤ limits.maxFiles - 1

lemma fits_store (h : l.Fits limits) : (l.store limits stamp batch).Fits limits := by
  unfold store
  split
  · exact h
  · split
    · exact h
    · simp only [Fits, keep, List.length_drop]
      omega

lemma events_putAside (h : ∀ f ∈ l.aside, f.1 < asideName stamp) :
    (l.putAside stamp).events = l.events := by
  have hlast : Keyed.put (asideName stamp) l.current l.aside =
      l.aside ++ [(asideName stamp, l.current)] := by
    rw [← List.append_nil l.aside, Keyed.put_append_of_gt h]
    simp [Keyed.put]
  simp [putAside, events, hlast]

lemma events_keep (n : Nat) : (l.keep n).events <:+ l.events := by
  refine ⟨(l.aside.take (l.aside.length - n)).flatMap Prod.snd, ?_⟩
  rw [events, events, ← List.append_assoc, keep, ← List.flatMap_append, List.take_append_drop]

lemma events_store_of_hasRoom (h : l.HasRoom limits batch) :
    (l.store limits stamp batch).events = l.events ++ batch := by
  simp [store, h, events]

/-- **Nothing is lost but at the beginning** when a batch is stored, provided that the name under
which events are put aside is the last of such names. -/
theorem events_store (hfits : l.Fits limits)
    (hlast : ¬ l.HasRoom limits batch → 1 < limits.maxFiles →
      ∀ f ∈ l.aside, f.1 < asideName stamp) :
    (l.store limits stamp batch).events <:+ l.events ++ batch := by
  by_cases hroom : l.HasRoom limits batch
  · exact ⟨[], events_store_of_hasRoom hroom⟩
  · by_cases hfiles : limits.maxFiles ≤ 1
    · -- nothing was put aside, and the buffer file is emptied
      have haside : l.aside = [] := List.eq_nil_of_length_eq_zero (by unfold Fits at hfits; omega)
      simp [store, hroom, hfiles, events, haside]
    · have hkept : ((l.putAside stamp).keep (limits.maxFiles - 1)).events <:+ l.events := by
        rw [← events_putAside (hlast hroom (by omega))]
        exact events_keep _
      obtain ⟨lost, hlost⟩ := hkept
      refine ⟨lost, ?_⟩
      rw [← hlost]
      simp [store, hroom, hfiles, events, keep, putAside]

end Ledger

end Whereto
