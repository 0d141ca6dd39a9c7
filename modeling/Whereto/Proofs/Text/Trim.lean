import Mathlib.Data.List.DropRight
import Whereto.Text.Blank
import Whereto.Text.Pieces

/-!
White space at the ends of a text. What stands before the first and after the last character
that is not white space is taken away, and nothing else; so trimming a text of several parts
trims its first part at the start and its last part at the end.
-/

namespace Whereto.Text

variable {a b l : List Char} {c : Char} {s : String}

lemma trimStart_append (hc : isBlank c = false) :
    trimStart (a ++ c :: b) = trimStart a ++ c :: b := by
  unfold trimStart
  rw [List.dropWhile_append]
  split
  · rename_i h
    rw [List.isEmpty_iff.mp h, List.dropWhile_cons_of_neg (by simp [hc]), List.nil_append]
  · rfl

lemma trimEnd_append (hc : isBlank c = false) :
    trimEnd (a ++ c :: b) = a ++ c :: trimEnd b := by
  have h := trimStart_append (a := b.reverse) (b := a.reverse) hc
  unfold trimEnd
  rw [List.reverse_append, List.reverse_cons, List.append_assoc, List.singleton_append]
  unfold trimStart at h
  rw [h]
  simp

lemma trimStart_subset : trimStart l ⊆ l := List.dropWhile_subset isBlank

lemma trimEnd_subset : trimEnd l ⊆ l := (List.rdropWhile_prefix isBlank l).subset

lemma trimStart_eq_nil_iff : trimStart l = [] ↔ ∀ c ∈ l, isBlank c = true :=
  List.dropWhile_eq_nil_iff

lemma trimEnd_eq_nil_iff : trimEnd l = [] ↔ ∀ c ∈ l, isBlank c = true :=
  List.rdropWhile_eq_nil_iff

/-- A text that is not blank begins with white space and a character that is none. -/
lemma exists_of_not_blank (h : ¬ ∀ c ∈ l, isBlank c = true) :
    ∃ a c b, l = a ++ c :: b ∧ (∀ x ∈ a, isBlank x = true) ∧ isBlank c = false := by
  have hne : trimStart l ≠ [] := mt trimStart_eq_nil_iff.mp h
  obtain ⟨c, b, hcb⟩ := List.exists_cons_of_ne_nil hne
  refine ⟨l.takeWhile isBlank, c, b, ?_, fun x hx => List.mem_takeWhile_imp hx, ?_⟩
  · rw [← hcb]
    exact List.takeWhile_append_dropWhile.symm
  · have hlast := List.head_dropWhile_not isBlank hne
    simpa [show l.dropWhile isBlank = c :: b from hcb] using hlast

/-- The two ends are trimmed independently of each other. -/
lemma trimStart_trimEnd (l : List Char) : trimStart (trimEnd l) = trimEnd (trimStart l) := by
  by_cases h : ∀ c ∈ l, isBlank c = true
  · rw [trimEnd_eq_nil_iff.mpr h, trimStart_eq_nil_iff.mpr h]
    rfl
  · obtain ⟨a, c, b, rfl, ha, hc⟩ := exists_of_not_blank h
    have hnil : trimStart a = [] := trimStart_eq_nil_iff.mpr ha
    have hcons := trimEnd_append (a := []) (b := b) hc
    rw [trimEnd_append hc, trimStart_append hc, trimStart_append hc, hnil]
    simpa using hcons.symm

lemma toList_trim (s : String) : (trim s).toList = trimEnd (trimStart s.toList) :=
  String.toList_ofList

lemma trimStart_trim (s : String) : trimStart (trim s).toList = (trim s).toList := by
  rw [toList_trim, trimStart_trimEnd]
  exact congrArg trimEnd (List.dropWhile_idempotent (p := isBlank) s.toList)

lemma trimEnd_trim (s : String) : trimEnd (trim s).toList = (trim s).toList := by
  rw [toList_trim]
  exact List.rdropWhile_idempotent isBlank _

@[simp] lemma trim_trim (s : String) : trim (trim s) = trim s := by
  apply String.toList_inj.mp
  rw [toList_trim, trimStart_trim, trimEnd_trim]

/-- A text that does not begin with white space is not trimmed at the start. -/
lemma trimStart_eq_self (h : ∀ c ∈ l.head?, isBlank c = false) : trimStart l = l := by
  cases l with
  | nil => rfl
  | cons c l => exact trimStart_append (a := []) (h c rfl)

lemma trimEnd_eq_self (h : ∀ c ∈ l.getLast?, isBlank c = false) : trimEnd l = l := by
  have hreverse : trimStart l.reverse = l.reverse :=
    trimStart_eq_self fun c hc => h c (by rwa [List.head?_reverse] at hc)
  rw [trimEnd, ← trimStart, hreverse, List.reverse_reverse]

lemma trimStart_of_not_blank (h : ∀ c ∈ l, isBlank c = false) : trimStart l = l :=
  trimStart_eq_self fun c hc => h c (List.mem_of_mem_head? hc)

lemma trimEnd_of_not_blank (h : ∀ c ∈ l, isBlank c = false) : trimEnd l = l :=
  trimEnd_eq_self fun c hc => h c (List.mem_of_getLast? hc)

/-- Trimming takes white space from both ends and leaves the rest in one piece. -/
lemma exists_eq_append_trim (s : String) : ∃ a b, s.toList = a ++ ((trim s).toList ++ b) ∧
    (∀ c ∈ a, isBlank c = true) ∧ ∀ c ∈ b, isBlank c = true := by
  refine ⟨s.toList.takeWhile isBlank, (trimStart s.toList).rtakeWhile isBlank, ?_,
    fun c hc => List.mem_takeWhile_imp hc, fun c hc => List.mem_rtakeWhile_imp hc⟩
  have hend : trimEnd (trimStart s.toList) ++ (trimStart s.toList).rtakeWhile isBlank =
      trimStart s.toList := List.rdropWhile_append_rtakeWhile
  rw [toList_trim, hend]
  exact List.takeWhile_append_dropWhile.symm

/-- Trimming adds no characters. -/
lemma trim_subset (s : String) : (trim s).toList ⊆ s.toList := by
  rw [toList_trim]
  exact List.Subset.trans trimEnd_subset trimStart_subset

lemma isBlank_head_trim (h : (trim s).toList ≠ []) : isBlank ((trim s).toList.head h) = false := by
  have hself := List.dropWhile_eq_self_iff.mp (trimStart_trim s) (List.length_pos_iff.mpr h)
  rw [← List.getElem_zero (List.length_pos_iff.mpr h)]
  simpa using hself

lemma isBlank_getLast_trim (h : (trim s).toList ≠ []) :
    isBlank ((trim s).toList.getLast h) = false := by
  simpa using List.rdropWhile_eq_self_iff.mp (trimEnd_trim s) h

lemma isBlank_of_head?_trim (h : c ∈ (trim s).toList.head?) : isBlank c = false := by
  obtain ⟨rest, hrest⟩ := List.head?_eq_some_iff.mp h
  have hne : (trim s).toList ≠ [] := by simp [hrest]
  simpa [hrest] using isBlank_head_trim hne

lemma isBlank_of_getLast?_trim (h : c ∈ (trim s).toList.getLast?) : isBlank c = false := by
  obtain ⟨hne, rfl⟩ := List.mem_getLast?_eq_getLast h
  exact isBlank_getLast_trim hne

/-- White space before and after a text is trimmed away with what is at its ends. -/
lemma trimEnd_trimStart_append (ha : ∀ c ∈ a, isBlank c = true) (hb : ∀ c ∈ b, isBlank c = true) :
    trimEnd (trimStart (a ++ l ++ b)) = trimEnd (trimStart l) := by
  have hstart : trimStart (a ++ l ++ b) = trimStart (l ++ b) := by
    rw [List.append_assoc]
    exact List.dropWhile_append_of_pos ha
  have hend : trimEnd (l ++ b) = trimEnd l := by
    have hrev : trimStart (b.reverse ++ l.reverse) = trimStart l.reverse :=
      List.dropWhile_append_of_pos fun c hc => hb c (List.mem_reverse.mp hc)
    rw [trimEnd, List.reverse_append]
    exact congrArg List.reverse hrev
  rw [hstart, ← trimStart_trimEnd, hend, trimStart_trimEnd]

/-! ### Joined parts -/

lemma toList_joined_cons (first second : String) (rest : List String) :
    (joined (first :: second :: rest)).toList =
      first.toList ++ ',' :: ' ' :: (joined (second :: rest)).toList := by
  simp [joined]

/-- What stands before the last part does not depend on it. -/
lemma toList_joined_concat (parts : List String) :
    ∃ before, ∀ last, (joined (parts ++ [last])).toList = before ++ last.toList := by
  induction parts with
  | nil => exact ⟨[], fun last => rfl⟩
  | cons part parts ih =>
    obtain ⟨before, hbefore⟩ := ih
    refine ⟨part.toList ++ ',' :: ' ' :: before, fun last => ?_⟩
    cases parts with
    | nil => simpa [toList_joined_cons, joined] using hbefore last
    | cons second rest =>
      rw [List.cons_append, List.cons_append, toList_joined_cons, ← List.cons_append, hbefore]
      simp

lemma trimEnd_append_of_not_blank (h : ¬ ∀ c ∈ b, isBlank c = true) :
    trimEnd (a ++ b) = a ++ trimEnd b := by
  obtain ⟨x, c, y, rfl, -, hc⟩ := exists_of_not_blank h
  rw [← List.append_assoc, trimEnd_append hc, trimEnd_append hc, List.append_assoc]

/-- **Trimming joined parts** trims the first one at the start and the last one at the end, unless
that is blank. -/
theorem trim_joined (first last : String) (parts : List String) (h : blank last = false) :
    trim (joined (first :: (parts ++ [last]))) =
      joined (String.ofList (trimStart first.toList) ::
        (parts ++ [String.ofList (trimEnd last.toList)])) := by
  obtain ⟨before, hbefore⟩ := toList_joined_concat parts
  have hlast : ¬ ∀ c ∈ last.toList, isBlank c = true := by simpa [blank] using h
  have htext (first last : String) : (joined (first :: (parts ++ [last]))).toList =
      first.toList ++ ',' :: ' ' :: (before ++ last.toList) := by
    rw [← hbefore]
    cases parts with
    | nil => simp [joined]
    | cons second rest => exact toList_joined_cons _ _ _
  apply String.toList_inj.mp
  rw [toList_trim, htext, htext, trimStart_append rfl, trimEnd_append rfl, ← List.cons_append,
    trimEnd_append_of_not_blank hlast]
  simp

/-- If the last part is blank, the comma before it is all that is left of it. -/
lemma trim_joined_blank (first last : String) (parts : List String) (h : blank last = true) :
    ∃ before, (trim (joined (first :: (parts ++ [last])))).toList = before ++ [','] := by
  have hlast : ∀ c ∈ last.toList, isBlank c = true := by simpa [blank] using h
  have hcomma : ∃ before, (joined (first :: (parts ++ [last]))).toList =
      before ++ ',' :: ' ' :: last.toList := by
    induction parts generalizing first with
    | nil => exact ⟨first.toList, toList_joined_cons first last []⟩
    | cons part parts ih =>
      obtain ⟨before, hbefore⟩ := ih part
      refine ⟨first.toList ++ ',' :: ' ' :: before, ?_⟩
      rw [List.cons_append, toList_joined_cons, hbefore]
      simp
  obtain ⟨before, hbefore⟩ := hcomma
  have hnil : trimEnd (' ' :: last.toList) = [] :=
    trimEnd_eq_nil_iff.mpr (List.forall_mem_cons.mpr ⟨rfl, hlast⟩)
  exact ⟨trimStart before, by
    rw [toList_trim, hbefore, trimStart_append rfl, trimEnd_append rfl, hnil]⟩

end Whereto.Text
