import Mathlib.Data.String.Basic
import Whereto.Keyed

/-!
Lists in ascending order of their keys: where pairs are put, and what is left when they are taken
away.
-/

namespace Whereto.Keyed

variable {α β : Type} {key : String} {a : α} {kas rest : List (String × α)}

/-- The keys are in ascending order, so each is there once. -/
def Ascending (kas : List (String × α)) : Prop := kas.Pairwise fun x y => x.1 < y.1

/-! ### Finding -/

lemma get?_append (h : ∀ x ∈ kas, x.1 ≠ key) : get? key (kas ++ rest) = get? key rest := by
  induction kas with
  | nil => rfl
  | cons x kas ih =>
    have hx : key ≠ x.1 := (h x List.mem_cons_self).symm
    simp [get?, hx, ih fun y hy => h y (List.mem_cons_of_mem _ hy)]

/-- What is not among the keys is not found. -/
lemma get?_eq_none (h : ∀ x ∈ kas, x.1 ≠ key) : get? key kas = none := by
  rw [← List.append_nil kas, get?_append h]
  rfl

/-! ### Putting -/

lemma put_of_lt {k : String} {b : α} (h : key < k) :
    put key a ((k, b) :: kas) = (key, a) :: (k, b) :: kas := if_pos h

lemma put_of_gt {k : String} {b : α} (h : k < key) :
    put key a ((k, b) :: kas) = (k, b) :: put key a kas := by
  rw [put, if_neg (lt_asymm h), if_neg h.ne']

/-- What has smaller keys stays before it. -/
lemma put_append_of_gt (h : ∀ x ∈ kas, x.1 < key) :
    put key a (kas ++ rest) = kas ++ put key a rest := by
  induction kas with
  | nil => rfl
  | cons x kas ih =>
    have hx := h x List.mem_cons_self
    simp [put, hx.not_gt, hx.ne', ih fun y hy => h y (List.mem_cons_of_mem _ hy)]

/-- A pair that was put is found, and the others as before. -/
lemma get?_put (sought key : String) (a : α) (kas : List (String × α)) :
    get? sought (put key a kas) = if sought = key then some a else get? sought kas := by
  induction kas with
  | nil => rfl
  | cons x kas ih =>
    obtain ⟨k, b⟩ := x
    rw [put]
    split
    · rfl
    · split
      next heq =>
        subst heq
        by_cases h : sought = key <;> simp [get?, h]
      next hne =>
        rw [get?, get?, ih]
        by_cases h : sought = k
        · simp [h, Ne.symm hne]
        · simp [h]

lemma get?_put_self : get? key (put key a kas) = some a := by
  rw [get?_put, if_pos rfl]

lemma mem_put {x : String × α} (h : x ∈ put key a kas) : x = (key, a) ∨ x ∈ kas := by
  induction kas with
  | nil => exact .inl (by simpa [put] using h)
  | cons y kas ih =>
    rw [put] at h
    split at h
    · simpa using h
    · split at h
      · rcases List.mem_cons.mp h with rfl | h
        · exact .inl rfl
        · exact .inr (List.mem_cons_of_mem _ h)
      · rcases List.mem_cons.mp h with rfl | h
        · exact .inr List.mem_cons_self
        · exact (ih h).imp_right (List.mem_cons_of_mem _)

lemma Ascending.put (h : Ascending kas) : Ascending (put key a kas) := by
  induction kas with
  | nil => exact List.pairwise_singleton _ _
  | cons y kas ih =>
    obtain ⟨hy, hkas⟩ := List.pairwise_cons.mp h
    rw [Keyed.put]
    split
    · next hlt =>
      refine List.pairwise_cons.mpr ⟨fun x hx => ?_, h⟩
      rcases List.mem_cons.mp hx with rfl | hx
      · exact hlt
      · exact hlt.trans (hy x hx)
    · next hge =>
      split
      · next heq => exact List.pairwise_cons.mpr ⟨fun x hx => heq ▸ hy x hx, hkas⟩
      · next hne =>
        refine List.pairwise_cons.mpr ⟨fun x hx => ?_, ih hkas⟩
        rcases mem_put hx with rfl | hx
        · exact lt_of_le_of_ne (not_lt.mp hge) (Ne.symm hne)
        · exact hy x hx

lemma put_map (f : α → β) :
    put key (f a) (kas.map (Prod.map id f)) = (put key a kas).map (Prod.map id f) := by
  induction kas with
  | nil => rfl
  | cons x kas ih =>
    simp only [List.map_cons, Prod.map, id, put]
    split
    · rfl
    · split
      · rfl
      · exact congrArg _ ih

/-! ### Taking away -/

lemma mem_erase {x : String × α} : x ∈ erase key kas ↔ x ∈ kas ∧ x.1 ≠ key := by
  simp [erase]

lemma erase_of_ne (h : ∀ x ∈ kas, x.1 ≠ key) : erase key kas = kas :=
  List.filter_eq_self.mpr fun x hx => by simpa using h x hx

end Whereto.Keyed
