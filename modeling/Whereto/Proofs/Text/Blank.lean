import Whereto.Proofs.Text.Trim

/-!
Blank texts. A text is blank if and only if nothing is left of it when it is trimmed.
-/

namespace Whereto.Text

variable {s : String} {s? : Option String}

lemma trim_eq_empty_iff : trim s = "" ↔ blank s = true := by
  rw [← String.toList_inj, toList_trim]
  constructor
  · intro h
    have hend := trimEnd_eq_nil_iff.mp h
    have hstart : s.toList.takeWhile isBlank ++ trimStart s.toList = s.toList :=
      List.takeWhile_append_dropWhile
    refine List.all_eq_true.mpr fun c hc => ?_
    rw [← hstart, List.mem_append] at hc
    exact hc.elim List.mem_takeWhile_imp (hend c)
  · intro h
    rw [trimStart_eq_nil_iff.mpr (List.all_eq_true.mp h)]
    rfl

lemma isBlank_of_blank (h : blank s = true) : ∀ c ∈ s.toList, isBlank c = true :=
  List.all_eq_true.mp h

/-- White space around a text is trimmed away. -/
lemma trim_padded {w₁ w₂ : String} (h₁ : blank w₁ = true) (h₂ : blank w₂ = true) (s : String) :
    trim (w₁ ++ s ++ w₂) = trim s := by
  apply String.toList_inj.mp
  rw [toList_trim, toList_trim, String.toList_append, String.toList_append,
    trimEnd_trimStart_append (isBlank_of_blank h₁) (isBlank_of_blank h₂)]

/-- A text is what is left of it when it is trimmed, with white space around it. -/
lemma exists_padded_trim (s : String) : ∃ w₁ w₂, s = w₁ ++ trim s ++ w₂ ∧
    blank w₁ = true ∧ blank w₂ = true := by
  obtain ⟨a, b, htext, ha, hb⟩ := exists_eq_append_trim s
  refine ⟨String.ofList a, String.ofList b, ?_, by simpa [blank] using ha,
    by simpa [blank] using hb⟩
  apply String.toList_inj.mp
  simp [htext]

@[simp] lemma blank_trim (s : String) : blank (trim s) = blank s := by
  rw [Bool.eq_iff_iff, ← trim_eq_empty_iff, ← trim_eq_empty_iff, trim_trim]

lemma mem_nonBlank? : s ∈ nonBlank? s? ↔ s ∈ s? ∧ blank s = false := by
  simp [nonBlank?, Option.mem_def]

lemma nonBlank?_eq_none_iff : nonBlank? s? = none ↔ ∀ s ∈ s?, blank s = true := by
  cases s? <;> simp [nonBlank?]

lemma nonBlank?_eq_self (h : ∀ s ∈ s?, blank s = false) : nonBlank? s? = s? := by
  cases s? with
  | none => rfl
  | some s => simp [nonBlank?, h s rfl]

end Whereto.Text
