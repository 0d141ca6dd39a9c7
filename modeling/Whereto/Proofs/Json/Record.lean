import Mathlib.Data.List.Pairwise
import Whereto.Json.Decode

/-!
Records read from objects. An object can be read as a record if its keys are texts, its unknown
members are well formed and no field is given twice; what it is read as depends only on what it
gives for the fields. The order of its members does not count.
-/

namespace Whereto.Json

variable {α β : Type}

lemma bind_eq_ok {x : Except Fault α} {f : α → Except Fault β} {b : β} :
    x >>= f = .ok b ↔ ∃ a, x = .ok a ∧ f a = .ok b := by
  cases x <;> simp [bind, Except.bind]

lemma map_eq_ok {x : Except Fault α} {f : α → β} {b : β} :
    x.map f = .ok b ↔ ∃ a, x = .ok a ∧ f a = b := by
  cases x <;> simp [Except.map]

lemma Decoder.fault?_eq_none_iff {d : Decoder α} {doc : Doc} :
    d.fault? doc = none ↔ ∃ a, d doc = .ok a := by
  unfold Decoder.fault?
  cases d doc <;> simp

/-- Reading a whole text: its document is decoded, and only space follows. -/
lemma decodeText_eq_ok {d : Decoder α} {text : String} {a : α} :
    decodeText d text = .ok a ↔
      d (readDoc text).1 = .ok a ∧ ∃ rest, (readDoc text).2 = some rest ∧ rest.all isSpace := by
  rw [decodeText]
  obtain ⟨doc, rest?⟩ := readDoc text
  dsimp only
  rw [bind_eq_ok]
  constructor
  · rintro ⟨b, hb, h⟩
    split at h
    · next cs =>
      split at h
      · next hspace => exact ⟨Except.ok.inj h ▸ hb, cs, rfl, hspace⟩
      · cases h
    · cases h
  · rintro ⟨ha, cs, rfl, hspace⟩
    exact ⟨a, ha, if_pos hspace⟩

namespace RecordDecoder

/-- No name belongs to two fields. -/
def Apart (rules : List FieldRule) : Prop :=
  rules.Pairwise fun r s => ∀ name ∈ r.names, name ∉ s.names

instance (rules : List FieldRule) : Decidable (Apart rules) :=
  inferInstanceAs (Decidable (List.Pairwise _ _))

/-- The position of the field that a member is for. -/
def place? (rules : List FieldRule) (m : Doc × Doc) : Option Nat :=
  (keyText m.1).toOption.bind (position? rules)

variable {rules : List FieldRule} {rule : FieldRule} {ms : List (Doc × Doc)} {m : Doc × Doc}
  {name : String} {i : Nat} {d : Doc} {a : α}

lemma place?_of_keyText (h : keyText m.1 = .ok name) : place? rules m = position? rules name := by
  rw [place?, h]
  rfl

/-! ### Positions -/

lemma position?_eq_none : position? rules name = none ↔ ∀ r ∈ rules, name ∉ r.names := by
  simp [position?, List.findIdx?_eq_none_iff]

lemma exists_of_position? (h : position? rules name = some i) :
    ∃ r, rules[i]? = some r ∧ name ∈ r.names := by
  obtain ⟨hi, hname, -⟩ := List.findIdx?_eq_some_iff_getElem.mp h
  exact ⟨rules[i], List.getElem?_eq_getElem hi, by simpa using hname⟩

/-- If the names are apart, a name leads to the one field that it belongs to. -/
lemma position?_of_mem (hapart : Apart rules) (hi : rules[i]? = some rule)
    (hname : name ∈ rule.names) : position? rules name = some i := by
  obtain ⟨hlt, rfl⟩ := List.getElem?_eq_some_iff.mp hi
  refine List.findIdx?_eq_some_iff_getElem.mpr ⟨hlt, by simpa using hname, fun j hj => ?_⟩
  have hother := List.pairwise_iff_getElem.mp hapart j i (Nat.lt_trans hj hlt) hlt hj
  simpa using fun hname' => hother name hname' hname

/-! ### What is given -/

/-- No field is given twice. -/
def Once (rules : List FieldRule) (ms : List (Doc × Doc)) : Prop :=
  (ms.filterMap (place? rules)).Nodup

lemma Once.eq_of_place? (h : Once rules ms) {m n : Doc × Doc} (hm : m ∈ ms) (hn : n ∈ ms)
    (hi : place? rules m = some i) (hj : place? rules n = some i) : m = n := by
  by_contra hne
  have : Std.Symm fun m n : Doc × Doc =>
      ∀ i, place? rules m = some i → ∀ j, place? rules n = some j → i ≠ j :=
    ⟨fun _ _ hmn j hj i hi => (hmn i hi j hj).symm⟩
  exact (List.pairwise_filterMap.mp h).forall hm hn hne i hi i hj rfl

lemma given?_eq_some (h : given? rule ms = some d) :
    ∃ m ∈ ms, ∃ name ∈ rule.names, keyText m.1 = .ok name ∧ m.2 = d := by
  obtain ⟨m, hm, hd⟩ := List.exists_of_findSome?_eq_some h
  split at hd
  · next name hkey =>
    split at hd
    · next hname => exact ⟨m, hm, name, by simpa using hname, hkey, Option.some.inj hd⟩
    · cases hd
  · cases hd

lemma given?_isSome (hm : m ∈ ms) (hkey : keyText m.1 = .ok name) (hname : name ∈ rule.names) :
    (given? rule ms).isSome := by
  refine List.findSome?_isSome_iff.mpr ⟨m, hm, ?_⟩
  simp [hkey, hname]

/-- What is given for a field is the value of the member that is for it. -/
lemma given?_eq_some_iff (hapart : Apart rules) (honce : Once rules ms)
    (hi : rules[i]? = some rule) :
    given? rule ms = some d ↔ ∃ m ∈ ms, place? rules m = some i ∧ m.2 = d := by
  have hplace {m : Doc × Doc} {name} (hkey : keyText m.1 = .ok name) (hname : name ∈ rule.names) :
      place? rules m = some i := by
    rw [place?_of_keyText hkey, position?_of_mem hapart hi hname]
  constructor
  · intro h
    obtain ⟨m, hm, name, hname, hkey, hd⟩ := given?_eq_some h
    exact ⟨m, hm, hplace hkey hname, hd⟩
  · rintro ⟨m, hm, hmi, rfl⟩
    obtain ⟨name, hkey, hpos⟩ := Option.bind_eq_some_iff.mp hmi
    replace hkey : keyText m.1 = .ok name := by
      cases hk : keyText m.1 <;> simp_all [Except.toOption]
    obtain ⟨r, hr, hname⟩ := exists_of_position? hpos
    obtain rfl : rule = r := Option.some.inj (hi.symm.trans hr)
    obtain ⟨d, hd⟩ := Option.isSome_iff_exists.mp (given?_isSome hm hkey hname)
    obtain ⟨n, hn, name', hname', hkey', rfl⟩ := given?_eq_some hd
    rw [hd, honce.eq_of_place? hm hn hmi (hplace hkey' hname')]

/-! ### Reading -/

/-- A member that is right by itself: its key is a text, and its value fits the field that it is
for or, under an unknown name, is well formed. -/
def Fits (rules : List FieldRule) (m : Doc × Doc) : Prop :=
  ∃ name, keyText m.1 = .ok name ∧
    match position? rules name with
    | some i => rules[i]?.bind (·.fault? m.2) = none
    | none => m.2.fault? = none

/-- An object that gives all that a record needs, and nothing that cannot be read. -/
structure Legible (rules : List FieldRule) (ms : List (Doc × Doc)) : Prop where
  fits : ∀ m ∈ ms, Fits rules m
  once : Once rules ms
  full : ∀ rule ∈ rules, rule.inObject → (given? rule ms).isSome

lemma fits_iff_of_some (hkey : keyText m.1 = .ok name) (hpos : position? rules name = some i) :
    Fits rules m ↔ rules[i]?.bind (·.fault? m.2) = none := by
  simp [Fits, hkey, hpos]

lemma fits_iff_of_none (hkey : keyText m.1 = .ok name) (hpos : position? rules name = none) :
    Fits rules m ↔ m.2.fault? = none := by
  simp [Fits, hkey, hpos]

lemma membersFault?_eq_none_iff {seen : List Nat} :
    membersFault? rules seen ms = none ↔
      (∀ m ∈ ms, Fits rules m) ∧ Once rules ms ∧
        ∀ i ∈ ms.filterMap (place? rules), i ∉ seen := by
  induction ms generalizing seen with
  | nil => simp [membersFault?, Once]
  | cons m ms ih =>
    obtain ⟨key, value⟩ := m
    rw [List.forall_mem_cons, Once]
    cases hkey : keyText key with
    | error f => simp [membersFault?, Fits, hkey]
    | ok name =>
      have hplace : place? rules (key, value) = position? rules name := place?_of_keyText hkey
      cases hpos : position? rules name with
      | none =>
        rw [fits_iff_of_none hkey hpos, List.filterMap_cons_none (hplace.trans hpos)]
        simp only [membersFault?, hkey, hpos, Option.or_eq_none_iff, ih, Once, and_assoc]
      | some i =>
        rw [fits_iff_of_some hkey hpos, List.filterMap_cons_some (hplace.trans hpos),
          List.nodup_cons, List.forall_mem_cons]
        by_cases hseen : i ∈ seen
        · simp [membersFault?, hkey, hpos, hseen]
        · -- what comes later must not be for this field either
          have hlater : (∀ j ∈ ms.filterMap (place? rules), j ∉ i :: seen) ↔
              i ∉ ms.filterMap (place? rules) ∧
                ∀ j ∈ ms.filterMap (place? rules), j ∉ seen := by
            simp only [List.mem_cons, not_or, forall_and]
            exact and_congr_left' ⟨fun h hi => h i hi rfl, fun h j hj hji => h (hji ▸ hj)⟩
          simp only [membersFault?, hkey, hpos, List.contains_eq_mem, hseen, decide_false,
            Bool.false_eq_true, if_false, Option.or_eq_none_iff, ih, hlater, Once]
          exact ⟨fun ⟨h, hs, ho, hi, hj⟩ => ⟨⟨h, hs⟩, ⟨hi, ho⟩, not_false, hj⟩,
            fun ⟨⟨h, hs⟩, ⟨hi, ho⟩, _, hj⟩ => ⟨h, hs, ho, hi, hj⟩⟩

lemma full_iff : ((rules.zip (rules.map (given? · ms))).any
    fun p => p.1.inObject && p.2.isNone) = false ↔
      ∀ rule ∈ rules, rule.inObject → (given? rule ms).isSome := by
  have hzip : rules.zip (rules.map (given? · ms)) =
      rules.map fun rule => (rule, given? rule ms) := by
    simpa using List.zip_map' (f := id) (g := (given? · ms)) (l := rules)
  simp [hzip, Option.isSome_iff_ne_none]

lemma namedSlots_eq_ok {cut : Option Fault} {slots : List (Option Doc)} :
    namedSlots rules ms cut = .ok slots ↔
      cut = none ∧ Legible rules ms ∧ rules.map (given? · ms) = slots := by
  have hfault : membersFault? rules [] ms = none ↔
      (∀ m ∈ ms, Fits rules m) ∧ Once rules ms := by
    simp [membersFault?_eq_none_iff]
  rw [namedSlots]
  split
  · next f hf =>
    have hbad : ¬((membersFault? rules [] ms).or cut = none) := by simp [hf]
    rw [Option.or_eq_none_iff, hfault] at hbad
    exact iff_of_false nofun fun ⟨hcut, hl, _⟩ => hbad ⟨⟨hl.fits, hl.once⟩, hcut⟩
  · next hf =>
    obtain ⟨hms, rfl⟩ := Option.or_eq_none_iff.mp hf
    obtain ⟨hfits, honce⟩ := hfault.mp hms
    dsimp only
    split
    · next hmissing =>
      refine iff_of_false nofun fun ⟨_, hl, _⟩ => ?_
      rw [full_iff.mpr hl.full] at hmissing
      cases hmissing
    · next hfull =>
      replace hfull := full_iff.mp (Bool.eq_false_iff.mpr hfull)
      rw [Except.ok.injEq]
      exact ⟨fun h => ⟨rfl, ⟨hfits, honce, hfull⟩, h⟩, fun h => h.2.2⟩

/-- **Reading a record** from an object: the condition on the object, and what the record is made
of. -/
theorem decoder_object_iff {r : RecordDecoder α} {cut : Option Fault} :
    r.decoder (.object ms cut) = .ok a ↔
      cut = none ∧ Legible r.rules ms ∧ r.build (r.rules.map (given? · ms)) = .ok a := by
  rw [decoder, slots, bind_eq_ok]
  constructor
  · rintro ⟨s, hs, hbuild⟩
    obtain ⟨hcut, hl, rfl⟩ := namedSlots_eq_ok.mp hs
    exact ⟨hcut, hl, hbuild⟩
  · rintro ⟨hcut, hl, hbuild⟩
    exact ⟨_, namedSlots_eq_ok.mpr ⟨hcut, hl, rfl⟩, hbuild⟩

end RecordDecoder

end Whereto.Json
