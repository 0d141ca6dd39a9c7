import Mathlib.Tactic.Lemma
import Whereto.Text.Lines

/-!
Lines are read back: a text that holds no end of a line is the first line of what it begins, once
an end of a line is put after it.
-/

namespace Whereto.Text

/-- A text that may stand on a line: it holds no end of one. -/
structure IsLine (s : String) : Prop where
  noFeed : '\n' ∉ s.toList
  noReturn : '\r' ∉ s.toList

lemma physicalLines_append {cs : List Char} (h : '\n' ∉ cs) (rest : List Char) :
    physicalLines (cs ++ '\n' :: rest) = (cs ++ ['\n']) :: physicalLines rest := by
  induction cs with
  | nil => simp [physicalLines]
  | cons c cs ih =>
    have hc : c ≠ '\n' := fun e => h (e ▸ List.mem_cons_self)
    have hcs : '\n' ∉ cs := fun hmem => h (List.mem_cons_of_mem _ hmem)
    simp [physicalLines, hc, ih hcs]

/-- Nothing is lost between the lines. -/
lemma flatten_physicalLines (cs : List Char) : (physicalLines cs).flatten = cs := by
  induction cs with
  | nil => rfl
  | cons c cs ih =>
    rw [physicalLines]
    split
    · rw [List.flatten_cons, ih, List.singleton_append]
    · split
      next hnil => rw [← ih, hnil]; rfl
      next hcons => rw [← ih, hcons]; rfl

lemma chomp_subset {cs : List Char} : chomp cs ⊆ cs := by
  intro c hc
  unfold chomp at hc
  split at hc
  next hrev =>
    rw [← List.mem_reverse, hrev]
    exact List.mem_cons_of_mem _ (List.mem_cons_of_mem _ (List.mem_reverse.mp hc))
  next hrev =>
    rw [← List.mem_reverse, hrev]
    exact List.mem_cons_of_mem _ (List.mem_reverse.mp hc)
  next => exact hc

lemma chomp_append {cs : List Char} (h : '\r' ∉ cs) : chomp (cs ++ ['\n']) = cs := by
  have hrev : '\r' ∉ cs.reverse := by simpa using h
  rw [chomp, List.reverse_append, List.reverse_singleton, List.singleton_append]
  split
  · next heq =>
    rw [(List.cons.inj heq).2] at hrev
    exact absurd List.mem_cons_self hrev
  · next heq => rw [← (List.cons.inj heq).2, List.reverse_reverse]
  · next hnot => exact absurd rfl (hnot _)

/-- **A line is read back** where it was written, with the lines after it. -/
theorem lines_append {s : String} (h : IsLine s) (rest : String) :
    lines (s ++ "\n" ++ rest) = s :: lines rest := by
  have hlist : (s ++ "\n" ++ rest).toList = s.toList ++ '\n' :: rest.toList := by simp
  rw [lines, hlist, physicalLines_append h.noFeed, List.map_cons, chomp_append h.noReturn,
    String.ofList_toList, lines]

end Whereto.Text
