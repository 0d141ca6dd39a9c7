import Whereto.Proofs.Json.Visible
import Whereto.Proofs.Keyed
import Whereto.Proofs.Text.Lines
import Whereto.Telemetry.Recorder

/-!
What is in the files of an archive, and the names of these files. The names of the files put aside
sort before the name of the buffer file, and they sort by their stamps as long as stamps are
written in digits.
-/

namespace Whereto

/-- Whatever is in an event, its line is one line. -/
lemma Event.isLine (e : Event) : Text.IsLine e.line where
  noFeed h := absurd (Json.visible_render e.toValue _ h) (by decide)
  noReturn h := absurd (Json.visible_render e.toValue _ h) (by decide)

namespace Archive

/-! ### Lines -/

lemma block_cons (l : String) (ls : List String) : block (l :: ls) = l ++ "\n" ++ block ls := by
  simp [block]

lemma block_append (ls ms : List String) : block (ls ++ ms) = block ls ++ block ms := by
  simp [block]

lemma lines_block {ls : List String} (h : ∀ l ∈ ls, Text.IsLine l) :
    Text.lines (block ls) = ls := by
  induction ls with
  | nil => rfl
  | cons l ls ih =>
    rw [block_cons, Text.lines_append (h l List.mem_cons_self),
      ih fun m hm => h m (List.mem_cons_of_mem _ hm)]

/-- The lines that are in the archive: those of the files put aside, in the order of their names,
and then those of the buffer file. -/
def logged (a : Archive) : List String :=
  (a.asides.flatMap fun f => Text.lines f.2.content) ++ Text.lines a.buffer

/-! ### Names -/

variable {name s t : String}

lemma isAside_asideName (stamp : String) : isAside (asideName stamp) = true := by
  simp only [isAside, asideName, String.toList_append, Bool.and_eq_true,
    List.isPrefixOf_iff_prefix, List.isSuffixOf_iff_suffix]
  exact ⟨⟨stamp.toList ++ fileSuffix.toList, by simp⟩, ⟨_, rfl⟩⟩

/-- A hyphen comes before a point. -/
lemma lt_bufferName (h : isAside name = true) : name < bufferName := by
  simp only [isAside, Bool.and_eq_true, List.isPrefixOf_iff_prefix] at h
  obtain ⟨rest, hrest⟩ := h.1
  change name.toList < bufferName.toList
  rw [← hrest, asideStem, bufferName, String.toList_append, String.toList_append, List.append_assoc]
  refine List.append_left_lt ?_
  exact List.cons_lt_cons_iff.mpr (.inl (by decide))

/-- A text in digits. -/
def IsNumeral (s : String) : Prop := ∀ c ∈ s.toList, c.isDigit = true

instance (s : String) : Decidable (IsNumeral s) := List.decidableBAll _ s.toList

/-- A point comes before all digits. -/
lemma point_lt_of_isDigit {c : Char} (h : c.isDigit = true) : '.' < c := by
  simp only [Char.isDigit, Bool.and_eq_true, decide_eq_true_eq, ge_iff_le] at h
  exact lt_of_lt_of_le (by decide : '.' < '0') h.1

lemma append_suffix_lt {cs ds : List Char} (hds : ∀ c ∈ ds, c.isDigit = true) (h : cs < ds) :
    cs ++ fileSuffix.toList < ds ++ fileSuffix.toList := by
  induction cs generalizing ds with
  | nil =>
    cases ds with
    | nil => cases h
    | cons d ds =>
      have hpoint := point_lt_of_isDigit (hds d List.mem_cons_self)
      exact List.cons_lt_cons_iff.mpr (.inl hpoint)
  | cons c cs ih =>
    cases ds with
    | nil => cases h
    | cons d ds =>
      rcases List.cons_lt_cons_iff.mp h with hlt | ⟨rfl, hlt⟩
      · exact List.cons_lt_cons_iff.mpr (.inl hlt)
      · exact List.cons_lt_cons_iff.mpr
          (.inr ⟨rfl, ih (fun e he => hds e (List.mem_cons_of_mem _ he)) hlt⟩)

lemma asideName_lt (ht : IsNumeral t) (h : s < t) : asideName s < asideName t := by
  change (asideName s).toList < (asideName t).toList
  simp only [asideName, String.toList_append, List.append_assoc]
  exact List.append_left_lt (append_suffix_lt ht h)

end Archive

end Whereto
