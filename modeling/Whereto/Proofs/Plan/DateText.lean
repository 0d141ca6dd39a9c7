import Mathlib.Data.List.Basic
import Mathlib.Tactic.Lemma
import Whereto.Decimal.Read
import Whereto.Plan.Date

/-!
Dates, read back from their texts. The hyphen that stands between the parts of a date may also be
the sign of its year, and a year has as many digits as it needs. So a date is read from its end,
where the month and the day have two digits each, and what is left is the year.
-/

namespace Whereto.Date

open Decimal (isDigit digitsValue readSign)

def number? (cs : List Char) : Option Nat :=
  if !cs.isEmpty && cs.all isDigit then some (digitsValue cs) else none

/-- The year that characters are written for, with a sign before them or without. -/
def year? (cs : List Char) : Option Int :=
  (number? (readSign cs).2).map fun (n : Nat) => if (readSign cs).1 then -(n : Int) else n

def ofChars? (cs : List Char) : Option Date :=
  match cs.reverse with
  | d₂ :: d₁ :: '-' :: m₂ :: m₁ :: '-' :: sc => do
    of? (← year? sc.reverse) (← number? [m₁, m₂]) (← number? [d₁, d₂])
  | _ => none

def ofText? (text : String) : Option Date := ofChars? text.toList

/-! ### Padded numbers -/

variable {width n : Nat}

lemma isDigit_of_mem_padded {c : Char} (h : c ∈ padded width n) : c.isDigit = true := by
  rcases List.mem_append.mp h with h | h
  · rw [List.eq_of_mem_replicate h]
    rfl
  · exact Nat.isDigit_of_mem_toDigits (by decide) (by decide) h

lemma padded_ne_nil : padded width n ≠ [] := by
  simp [padded, Nat.toDigits_ne_nil]

/-- A month or a day takes two digits. -/
lemma padded_eq_pair (hn : n < 100) : ∃ c₁ c₂, padded 2 n = [c₁, c₂] := by
  have hdigits : (Nat.toDigits 10 n).length ≤ 2 :=
    (Nat.length_toDigits_le_iff (by decide) (by decide)).mpr hn
  have hlength : (padded 2 n).length = 2 := by
    rw [padded, List.length_append, List.length_replicate]
    omega
  exact List.length_eq_two.mp hlength

/-- The zeros before a number do not count. -/
lemma digitsValue_padded : digitsValue (padded width n) = n := by
  change Nat.ofDigitChars 10 (padded width n) 0 = n
  rw [padded, Nat.ofDigitChars_append, Nat.ofDigitChars_replicate_zero, Nat.mul_zero,
    Nat.ofDigitChars_ten_toDigits]

lemma number?_padded : number? (padded width n) = some n := by
  have hdigits : (padded width n).all isDigit = true :=
    List.all_eq_true.mpr fun _ hc => isDigit_of_mem_padded hc
  rw [number?, hdigits, digitsValue_padded]
  simp [padded_ne_nil]

/-! ### The parts of a date -/

/-- A year with no sign starts with a digit, so none is read. -/
lemma readSign_padded : readSign (padded width n) = (false, padded width n) := by
  unfold readSign
  split
  next h => exact absurd (isDigit_of_mem_padded (h ▸ List.mem_cons_self)) (by decide)
  next h => exact absurd (isDigit_of_mem_padded (h ▸ List.mem_cons_self)) (by decide)
  next => rfl

/-- **Years** before the year zero, of four digits and of more are read back. -/
lemma year?_yearChars (y : Int) : year? (yearChars y) = some y := by
  unfold yearChars
  split
  next hneg =>
    have hy : -(y.natAbs : Int) = y := by omega
    simp only [year?, readSign, number?_padded, Option.map_some, ↓reduceIte, hy]
  next hnonneg =>
    have hy : (y.natAbs : Int) = y := by omega
    split
    · simp only [year?, readSign, number?_padded, Option.map_some, Bool.false_eq_true,
        ↓reduceIte, hy]
    · simp only [year?, readSign_padded, number?_padded, Option.map_some, Bool.false_eq_true,
        ↓reduceIte, hy]

lemma monthDays_le (y : Int) (m : Nat) : monthDays y m ≤ 31 := by
  unfold monthDays
  split
  case h_2 => split <;> omega
  all_goals omega

lemma day_le (d : Date) : d.day ≤ 31 := Nat.le_trans d.day_mem.2 (monthDays_le d.year d.month)

lemma month_le (d : Date) : d.month ≤ 12 := by
  -- a month that does not exist has no days
  by_contra hlate
  have hnone : monthDays d.year d.month = 0 := by
    unfold monthDays
    split <;> omega
  have := d.day_mem
  omega

/-- **Texts of dates** tell the year, the month and the day. -/
theorem ofText?_text (d : Date) : ofText? d.text = some d := by
  obtain ⟨m₁, m₂, hmonth⟩ := padded_eq_pair (Nat.lt_of_le_of_lt d.month_le (by decide))
  obtain ⟨d₁, d₂, hday⟩ := padded_eq_pair (Nat.lt_of_le_of_lt d.day_le (by decide))
  have hreverse : d.chars.reverse =
      d₂ :: d₁ :: '-' :: m₂ :: m₁ :: '-' :: (yearChars d.year).reverse := by
    simp [chars, hmonth, hday]
  have hof : of? d.year d.month d.day = some d := by
    rw [of?, dif_pos d.year_mem, dif_pos d.day_mem]
  rw [ofText?, text, String.toList_ofList, ofChars?, hreverse]
  simp only [List.reverse_reverse, year?_yearChars, ← hmonth, ← hday, number?_padded]
  exact hof

end Whereto.Date
