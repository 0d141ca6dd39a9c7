import Whereto.Proofs.Json.Written

/-!
Written JSON tells values apart. A value without doubles is told by its text, since reading the
text gives its document, and different values have different documents. A string in quotes is told
even when the text goes on behind it.
-/

namespace Whereto.Json

/-! ### Documents -/

lemma pieceOf_injective : Function.Injective pieceOf := by
  intro c d h
  unfold pieceOf at h
  split_ifs at h
  all_goals first
    | exact Piece.plain.inj h
    | exact Char.toNat_inj.mp (Piece.unit.inj h)

lemma Quoted.of_injective : Function.Injective Quoted.of := by
  intro s t h
  have hpieces : s.toList.map pieceOf = t.toList.map pieceOf := congrArg Quoted.pieces h
  exact String.toList_inj.mp ((List.map_inj_right fun _ _ hc => pieceOf_injective hc).mp hpieces)

lemma Numeral.ofInt_injective : Function.Injective Numeral.ofInt := by
  intro m n h
  have hsign : (m < 0) ↔ (n < 0) := by
    simpa [Numeral.ofInt] using congrArg Numeral.negative h
  have hwhole : Nat.toDigits 10 m.natAbs = Nat.toDigits 10 n.natAbs := congrArg Numeral.whole h
  have habs : m.natAbs = n.natAbs := by
    rw [← Nat.ofDigitChars_ten_toDigits (n := m.natAbs), hwhole, Nat.ofDigitChars_ten_toDigits]
  omega

mutual

theorem doc_injective : ∀ {v w : Value}, v.Exact → w.Exact → v.doc = w.doc → v = w
  | .null, w, _, _, h => by
    cases w with
    | null => rfl
    | bool b => cases b <;> cases h
    | _ => cases h
  | .bool b, w, _, _, h => by
    cases w with
    | bool b' => cases b <;> cases b' <;> first | rfl | cases h
    | _ => cases b <;> cases h
  | .int n, w, _, _, h => by
    cases w with
    | int m => rw [Numeral.ofInt_injective (Doc.number.inj h)]
    | bool b => cases b <;> cases h
    | _ => cases h
  | .string s, w, _, _, h => by
    cases w with
    | string t => rw [Quoted.of_injective (Doc.string.inj h)]
    | bool b => cases b <;> cases h
    | _ => cases h
  | .array vs, w, hv, hw, h => by
    cases w with
    | array ws => rw [itemDocs_injective hv hw (Doc.array.inj h).1]
    | bool b => cases b <;> cases h
    | _ => cases h
  | .object ms, w, hv, hw, h => by
    cases w with
    | object ns => rw [memberDocs_injective hv hw (Doc.object.inj h).1]
    | bool b => cases b <;> cases h
    | _ => cases h

theorem itemDocs_injective : ∀ {vs ws : List Value}, ExactItems vs → ExactItems ws →
    itemDocs vs = itemDocs ws → vs = ws
  | [], [], _, _, _ => rfl
  | [], _ :: _, _, _, h => by cases h
  | _ :: _, [], _, _, h => by cases h
  | _ :: _, _ :: _, hv, hw, h => by
    obtain ⟨hdoc, hdocs⟩ := List.cons.inj h
    rw [doc_injective hv.1 hw.1 hdoc, itemDocs_injective hv.2 hw.2 hdocs]

theorem memberDocs_injective : ∀ {ms ns : List (String × Value)}, ExactMembers ms →
    ExactMembers ns → memberDocs ms = memberDocs ns → ms = ns
  | [], [], _, _, _ => rfl
  | [], _ :: _, _, _, h => by cases h
  | _ :: _, [], _, _, h => by cases h
  | (k, v) :: _, (l, w) :: _, hv, hw, h => by
    obtain ⟨hmember, hdocs⟩ := List.cons.inj h
    obtain ⟨hkey, hdoc⟩ := Prod.mk.inj hmember
    rw [Quoted.of_injective (Doc.string.inj hkey), doc_injective hv.1 hw.1 hdoc,
      memberDocs_injective hv.2 hw.2 hdocs]

end

/-! ### Texts -/

variable {v w : Value} {s t : String} {rest rest' : List Char}

/-- **Values are told by their texts**, if they have no doubles. -/
theorem render_injective (hv : v.Exact) (hw : w.Exact) (h : v.render = w.render) : v = w := by
  have hdoc : v.doc = w.doc := by
    have hread := readDoc_render hv
    rw [h, readDoc_render hw] at hread
    exact (Prod.mk.inj hread).1.symm
  exact doc_injective hv hw hdoc

/-- A string in quotes is told wherever it stands. -/
lemma quote_append_injective (h : quote s ++ rest = quote t ++ rest') : s = t ∧ rest = rest' := by
  rw [quote_append, quote_append] at h
  have hread := @readPieces_flatMap rest s.toList
  rw [(List.cons.inj h).2, readPieces_flatMap] at hread
  obtain ⟨hquoted, hrest⟩ := Prod.mk.inj hread
  exact ⟨(Quoted.of_injective hquoted).symm, (Option.some.inj hrest).symm⟩

end Whereto.Json
