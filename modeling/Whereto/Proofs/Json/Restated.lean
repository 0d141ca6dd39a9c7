import Mathlib.Data.List.Forall2
import Mathlib.Data.Option.Defs
import Whereto.Proofs.Json.Record

/-!
Records that are said again in other words. A field has a name in snake case and the same name in
Pascal case, and a document says the same if a member changes between these names, if the members
change their order and if members are added that are for no field. A record decoder whose fields
have these two names reads the same from both documents: the members for a field stay the members
for that field, and there is never more than one.
-/

namespace Whereto.Json

/-! ### Names -/

/-- The words that are written in capitals throughout. -/
def initialisms : List (List Char) := [['i', 'd'], ['u', 'r', 'l']]

def capitalized (word : List Char) : List Char :=
  if word ∈ initialisms then word.map Char.toUpper
  else word.take 1 |>.map Char.toUpper |>.append (word.drop 1)

/-- The name in Pascal case for a name in snake case. -/
def pascalCase (name : String) : String :=
  String.ofList ((name.toList.splitOn '_').flatMap capitalized)

example : pascalCase "original_plan_id" = "OriginalPlanID" := by decide

/-- A field as it is sent: its name in snake case, and how its value may be given again. -/
structure Slot where
  name : String
  Again : Doc → Doc → Prop
  refl : ∀ d, Again d d

namespace Slot

/-- A field whose value is only given again as it is. -/
def plain (name : String) : Slot := ⟨name, Eq, fun _ => rfl⟩

def spellings (s : Slot) : List String := [s.name, pascalCase s.name]

end Slot

/-! ### Documents -/

variable {α β : Type}

section Restated

variable (fields : List Slot)

/-- A member given again: as it is, or for the same field under either of its names. -/
inductive Respelled : Doc × Doc → Doc × Doc → Prop
  | kept (m : Doc × Doc) : Respelled m m
  | spelled {s : Slot} {key key' value value' : Doc} {name name' : String} (hs : s ∈ fields)
      (hkey : keyText key = .ok name) (hname : name ∈ s.spellings)
      (hkey' : keyText key' = .ok name') (hname' : name' ∈ s.spellings)
      (hvalue : s.Again value value') : Respelled (key, value) (key', value')

/-- A member under a name that no field has, with a well-formed value. -/
structure Foreign (m : Doc × Doc) : Prop where
  name : ∃ name, keyText m.1 = .ok name ∧ ∀ s ∈ fields, name ∉ s.spellings
  value : m.2.fault? = none

/-- Values given again in the order of the fields. -/
inductive InOrder : List Slot → List Doc → List Doc → Prop
  | nil {fields : List Slot} : InOrder fields [] []
  | cons {s : Slot} {fields : List Slot} {d d' : Doc} {ds ds' : List Doc} (hd : s.Again d d')
      (hds : InOrder fields ds ds') : InOrder (s :: fields) (d :: ds) (d' :: ds')

/-- A document that says the same for a record with these fields. -/
inductive Restated : Doc → Doc → Prop
  | same (d : Doc) : Restated d d
  | members {ms again added ms' : List (Doc × Doc)} {cut : Option Fault}
      (hagain : List.Forall₂ (Respelled fields) ms again) (hadded : ∀ m ∈ added, Foreign fields m)
      (horder : ms'.Perm (again ++ added)) : Restated (.object ms cut) (.object ms' cut)
  | items {ds ds' : List Doc} {cut : Option Fault} (hds : InOrder fields ds ds') :
      Restated (.array ds cut) (.array ds' cut)

/-- A text with a single document that says the same as that of another text. -/
structure Reworded (text text' : String) : Prop where
  doc : Restated fields (readDoc text).1 (readDoc text').1
  ended : ∃ rest, (readDoc text').2 = some rest ∧ rest.all isSpace

end Restated

/-- An array whose items are given again one by one. -/
inductive Itemwise (R : Doc → Doc → Prop) : Doc → Doc → Prop
  | same (d : Doc) : Itemwise R d d
  | items {ds ds' : List Doc} {cut : Option Fault} (hds : List.Forall₂ R ds ds') :
      Itemwise R (.array ds cut) (.array ds' cut)

/-- A field with a list of records. -/
def Slot.listOf (name : String) (fields : List Slot) : Slot :=
  ⟨name, Itemwise (Restated fields), .same⟩

/-! ### Decoders -/

/-- A decoder that reads the same when a value is given again. -/
def Decoder.Keeps (d : Decoder α) (R : Doc → Doc → Prop) : Prop :=
  ∀ ⦃x y a⦄, R x y → d x = .ok a → d y = .ok a

lemma Decoder.keeps_eq (d : Decoder α) : d.Keeps Eq := fun _ _ _ hxy h => hxy ▸ h

lemma Decoder.Keeps.fault? {d : Decoder α} {R : Doc → Doc → Prop} (h : d.Keeps R) {x y : Doc}
    (hxy : R x y) (hx : d.fault? x = none) : d.fault? y = none := by
  obtain ⟨a, ha⟩ := fault?_eq_none_iff.mp hx
  exact fault?_eq_none_iff.mpr ⟨a, h hxy ha⟩

lemma Decoder.Keeps.items {d : Decoder α} {R : Doc → Doc → Prop} (h : d.Keeps R)
    {cut : Option Fault} {ds ds' : List Doc} (hds : List.Forall₂ R ds ds') {as : List α}
    (has : items d cut ds = .ok as) : items d cut ds' = .ok as := by
  induction hds generalizing as with
  | nil => exact has
  | cons hxy _ ih =>
    rw [Decoder.items] at has ⊢
    obtain ⟨b, hb, hrest⟩ := bind_eq_ok.mp has
    obtain ⟨bs, hbs, hcons⟩ := bind_eq_ok.mp hrest
    exact bind_eq_ok.mpr ⟨b, h hxy hb, bind_eq_ok.mpr ⟨bs, ih hbs, hcons⟩⟩

lemma Decoder.Keeps.list {d : Decoder α} {R : Doc → Doc → Prop} (h : d.Keeps R) :
    (list d).Keeps (Itemwise R) := by
  rintro _ _ as (_ | hds) has
  · exact has
  · exact h.items hds has

namespace RecordDecoder

/-- What was given for the fields, given again. -/
inductive Regiven : List Slot → List (Option Doc) → List (Option Doc) → Prop
  | nil : Regiven [] [] []
  | cons {s : Slot} {fields : List Slot} {g g' : Option Doc} {gs gs' : List (Option Doc)}
      (hg : Option.Rel s.Again g g') (hgs : Regiven fields gs gs') :
      Regiven (s :: fields) (g :: gs) (g' :: gs')

/-- A rule for a field under its two names. -/
structure Serves (rule : FieldRule) (s : Slot) : Prop where
  names : rule.names = s.spellings
  fault? : ∀ {x y}, s.Again x y → rule.fault? x = none → rule.fault? y = none

/-- A record decoder with exactly these fields, which makes the same record when they are given
again. -/
structure Takes (r : RecordDecoder α) (fields : List Slot) : Prop where
  rules : List.Forall₂ Serves r.rules fields
  build : ∀ {gs gs' a}, Regiven fields gs gs' → r.build gs = .ok a → r.build gs' = .ok a

variable {fields more : List Slot} {s : Slot} {r : RecordDecoder α}

lemma Regiven.take {gs gs' : List (Option Doc)} (h : Regiven (fields ++ more) gs gs') :
    Regiven fields (gs.take fields.length) (gs'.take fields.length) := by
  induction fields generalizing gs gs' with
  | nil => simpa using Regiven.nil
  | cons s fields ih =>
    obtain ⟨⟩ | ⟨hg, hgs⟩ := h
    exact .cons hg (ih hgs)

lemma Regiven.drop {gs gs' : List (Option Doc)} (h : Regiven (fields ++ more) gs gs') :
    Regiven more (gs.drop fields.length) (gs'.drop fields.length) := by
  induction fields generalizing gs gs' with
  | nil => exact h
  | cons s fields ih =>
    obtain ⟨⟩ | ⟨-, hgs⟩ := h
    exact ih hgs

/-! ### Putting decoders together -/

lemma Takes.pure (a : α) : Takes (pure a) [] := ⟨.nil, fun _ h => h⟩

lemma Takes.ap {f : RecordDecoder (α → β)} {x : RecordDecoder α} (hf : Takes f fields)
    (hx : Takes x more) : Takes (ap f x) (fields ++ more) where
  rules := List.rel_append hf.rules hx.rules
  build {gs gs' b} hgs hb := by
    have hlength : f.rules.length = fields.length := hf.rules.length_eq
    simp only [RecordDecoder.ap, hlength] at hb ⊢
    obtain ⟨g, hg, hrest⟩ := bind_eq_ok.mp hb
    obtain ⟨a, ha, hga⟩ := bind_eq_ok.mp hrest
    exact bind_eq_ok.mpr
      ⟨g, hf.build hgs.take hg, bind_eq_ok.mpr ⟨a, hx.build hgs.drop ha, hga⟩⟩

lemma Takes.map {x : RecordDecoder α} (f : α → β) (hx : Takes x fields) :
    Takes (f <$> x) fields :=
  (Takes.pure f).ap hx

lemma Takes.seq {f : RecordDecoder (α → β)} {x : RecordDecoder α} (hf : Takes f fields)
    (hx : Takes x more) : Takes (f <*> x) (fields ++ more) :=
  hf.ap hx

section Fields

variable {d : Decoder α} {names : List String}

/-- A record with one field, whose value is decoded if it is given. -/
lemma takes_single (hnames : names = s.spellings) (h : d.Keeps s.Again) {inObject inArray : Bool}
    {build : List (Option Doc) → Except Fault α} (hbuild : ∀ x, build [some x] = d x) :
    Takes ⟨[⟨names, inObject, inArray, d.fault?⟩], build⟩ [s] where
  rules := .cons ⟨hnames, fun hxy hx => h.fault? hxy hx⟩ .nil
  build := by
    rintro _ _ a (_ | ⟨⟨hxy⟩ | _, ⟨⟩⟩) ha
    · exact (hbuild _).trans (h hxy ((hbuild _).symm.trans ha))
    · exact ha

lemma Takes.field (hnames : names = s.spellings) (h : d.Keeps s.Again) :
    Takes (field names d) [s] :=
  takes_single hnames h fun _ => rfl

lemma Takes.fieldOr {default : α} (hnames : names = s.spellings) (h : d.Keeps s.Again) :
    Takes (fieldOr names d default) [s] :=
  takes_single hnames h fun _ => rfl

/-- A field whose value is only given again as it is. -/
lemma Takes.plain {name : String} (hnames : names = (Slot.plain name).spellings) :
    Takes (RecordDecoder.field names d) [.plain name] :=
  .field hnames d.keeps_eq

lemma Takes.plainOr {name : String} {default : α} (hnames : names = (Slot.plain name).spellings) :
    Takes (RecordDecoder.fieldOr names d default) [.plain name] :=
  .fieldOr hnames d.keeps_eq

lemma Takes.field? (hnames : names = s.spellings) (h : d.optional.Keeps s.Again) :
    Takes (field? names d) [s] :=
  takes_single hnames h fun _ => rfl

end Fields

end RecordDecoder

/-! ### Members for fields -/

open RecordDecoder

variable {fields : List Slot} {s : Slot} {rules : List FieldRule} {rule : FieldRule}
  {ms ms' : List (Doc × Doc)} {m m' : Doc × Doc} {i : Nat}

lemma exists_of_forall₂ {R : α → β → Prop} {as : List α} {bs : List β}
    (h : List.Forall₂ R as bs) {a : α} (ha : a ∈ as) : ∃ b ∈ bs, R a b := by
  induction h with
  | nil => cases ha
  | cons hab _ ih =>
    rcases List.mem_cons.mp ha with rfl | ha
    · exact ⟨_, List.mem_cons_self, hab⟩
    · obtain ⟨b, hb, hr⟩ := ih ha
      exact ⟨b, List.mem_cons_of_mem _ hb, hr⟩

lemma isSome_of_rel {R : α → β → Prop} {a? : Option α} {b? : Option β} (h : Option.Rel R a? b?)
    (ha : a?.isSome) : b?.isSome := by
  cases h with
  | some _ => rfl
  | none => exact ha

lemma exists_rule (hserves : List.Forall₂ Serves rules fields) (hs : s ∈ fields) :
    ∃ (i : Nat) (rule : FieldRule), rules[i]? = some rule ∧ fields[i]? = some s ∧
      Serves rule s := by
  induction hserves with
  | nil => cases hs
  | cons hrule _ ih =>
    rcases List.mem_cons.mp hs with rfl | hs
    · exact ⟨0, _, rfl, rfl, hrule⟩
    · obtain ⟨i, rule, hi, hsi, hrule⟩ := ih hs
      exact ⟨i + 1, rule, hi, hsi, hrule⟩

lemma Foreign.position? (hserves : List.Forall₂ Serves rules fields) (h : Foreign fields m) :
    ∃ name, keyText m.1 = .ok name ∧ position? rules name = none := by
  obtain ⟨name, hkey, hname⟩ := h.name
  refine ⟨name, hkey, position?_eq_none.mpr fun rule hrule => ?_⟩
  obtain ⟨s, hs, hrule⟩ := exists_of_forall₂ hserves hrule
  exact hrule.names ▸ hname s hs

section Members

variable (hserves : List.Forall₂ Serves rules fields) (hapart : Apart rules)
include hserves hapart

/-- Both names of a field lead to its position. -/
lemma exists_position (hs : s ∈ fields) :
    ∃ (i : Nat) (rule : FieldRule), rules[i]? = some rule ∧ fields[i]? = some s ∧
      Serves rule s ∧ ∀ name ∈ s.spellings, position? rules name = some i := by
  obtain ⟨i, rule, hi, hsi, hrule⟩ := exists_rule hserves hs
  exact ⟨i, rule, hi, hsi, hrule, fun name hname =>
    position?_of_mem hapart hi (hrule.names ▸ hname)⟩

lemma Respelled.place?_eq (h : Respelled fields m m') : place? rules m = place? rules m' := by
  obtain _ | ⟨hs, hkey, hname, hkey', hname', -⟩ := h
  · rfl
  · obtain ⟨i, -, -, -, -, hpos⟩ := exists_position hserves hapart hs
    rw [place?, place?, hkey, hkey']
    exact (hpos _ hname).trans (hpos _ hname').symm

/-- A member for a field has its value given again as the field allows. -/
lemma Respelled.again (h : Respelled fields m m') (hm : place? rules m = some i)
    (hs : fields[i]? = some s) : s.Again m.2 m'.2 := by
  obtain _ | ⟨ht, hkey, hname, -, -, hvalue⟩ := h
  · exact s.refl _
  · obtain ⟨j, -, -, htj, -, hpos⟩ := exists_position hserves hapart ht
    rw [place?, hkey] at hm
    obtain rfl : j = i := Option.some.inj ((hpos _ hname).symm.trans hm)
    obtain rfl := Option.some.inj (htj.symm.trans hs)
    exact hvalue

lemma Respelled.fits (h : Respelled fields m m') (hm : Fits rules m) : Fits rules m' := by
  obtain _ | ⟨hs, hkey, hname, hkey', hname', hvalue⟩ := h
  · exact hm
  · obtain ⟨i, rule, hi, -, hrule, hpos⟩ := exists_position hserves hapart hs
    rw [fits_iff_of_some hkey (hpos _ hname), hi] at hm
    rw [fits_iff_of_some hkey' (hpos _ hname'), hi]
    exact hrule.fault? hvalue hm

end Members

/-! ### Documents read again -/

section Objects

variable {again added : List (Doc × Doc)} (hserves : List.Forall₂ Serves rules fields)
  (hapart : Apart rules) (hagain : List.Forall₂ (Respelled fields) ms again)
  (hadded : ∀ m ∈ added, Foreign fields m) (horder : ms'.Perm (again ++ added))
include hserves hapart hagain hadded

/-- The members for fields are for the same fields as before. -/
lemma filterMap_place? :
    (again ++ added).filterMap (place? rules) = ms.filterMap (place? rules) := by
  have hforeign : added.filterMap (place? rules) = [] := by
    refine List.filterMap_eq_nil_iff.mpr fun m hm => ?_
    obtain ⟨name, hkey, hpos⟩ := (hadded m hm).position? hserves
    rw [place?_of_keyText hkey, hpos]
  rw [List.filterMap_append, hforeign, List.append_nil]
  clear hforeign hadded
  induction hagain with
  | nil => rfl
  | cons hm _ ih => rw [List.filterMap_cons, List.filterMap_cons, hm.place?_eq hserves hapart, ih]

include horder

lemma once_restated (honce : Once rules ms) : Once rules ms' := by
  have hplaces := horder.filterMap (place? rules)
  rw [filterMap_place? hserves hapart hagain hadded] at hplaces
  exact hplaces.nodup_iff.mpr honce

/-- A field is given in both objects or in neither, and the value is the same but for what the
field allows. -/
lemma given?_restated (honce : Once rules ms) (hi : rules[i]? = some rule)
    (hs : fields[i]? = some s) : Option.Rel s.Again (given? rule ms) (given? rule ms') := by
  have honce' := once_restated hserves hapart hagain hadded horder honce
  cases hd : given? rule ms with
  | some d =>
    obtain ⟨m, hm, hmi, rfl⟩ := (given?_eq_some_iff hapart honce hi).mp hd
    obtain ⟨m', hm', hmm'⟩ := exists_of_forall₂ hagain hm
    have hmi' : place? rules m' = some i := hmm'.place?_eq hserves hapart ▸ hmi
    have hin : m' ∈ ms' := horder.mem_iff.mpr (List.mem_append_left _ hm')
    rw [(given?_eq_some_iff hapart honce' hi).mpr ⟨m', hin, hmi', rfl⟩]
    exact .some (hmm'.again hserves hapart hmi hs)
  | none =>
    cases hd' : given? rule ms' with
    | none => exact .none
    | some d' =>
      -- a member for the field among the new ones was there before
      obtain ⟨m', hin, hmi', rfl⟩ := (given?_eq_some_iff hapart honce' hi).mp hd'
      rcases List.mem_append.mp (horder.mem_iff.mp hin) with hm' | hm'
      · obtain ⟨m, hm, hmm'⟩ := exists_of_forall₂ hagain.flip hm'
        have hmi : place? rules m = some i := (hmm'.place?_eq hserves hapart).trans hmi'
        rw [(given?_eq_some_iff hapart honce hi).mpr ⟨m, hm, hmi, rfl⟩] at hd
        cases hd
      · obtain ⟨name, hkey, hpos⟩ := (hadded m' hm').position? hserves
        rw [place?_of_keyText hkey, hpos] at hmi'
        cases hmi'

lemma legible_restated (h : Legible rules ms) : Legible rules ms' where
  fits m' hm' := by
    rcases List.mem_append.mp (horder.mem_iff.mp hm') with hm' | hm'
    · obtain ⟨m, hm, hmm'⟩ := exists_of_forall₂ hagain.flip hm'
      exact hmm'.fits hserves hapart (h.fits m hm)
    · obtain ⟨name, hkey, hpos⟩ := (hadded m' hm').position? hserves
      exact (fits_iff_of_none hkey hpos).mpr (hadded m' hm').value
  once := once_restated hserves hapart hagain hadded horder h.once
  full rule hrule hfull := by
    obtain ⟨i, hi⟩ := List.mem_iff_getElem?.mp hrule
    obtain ⟨s, hs⟩ : ∃ s, fields[i]? = some s := by
      have hlt : i < fields.length := hserves.length_eq ▸ (List.getElem?_eq_some_iff.mp hi).1
      exact ⟨_, List.getElem?_eq_getElem hlt⟩
    have hgiven := given?_restated hserves hapart hagain hadded horder h.once hi hs
    exact isSome_of_rel hgiven (h.full rule hrule hfull)

end Objects

lemma regiven_map {g g' : FieldRule → Option Doc} (hserves : List.Forall₂ Serves rules fields)
    (h : ∀ (i : Nat) rule (s : Slot), rules[i]? = some rule → fields[i]? = some s →
      Option.Rel s.Again (g rule) (g' rule)) :
    Regiven fields (rules.map g) (rules.map g') := by
  induction hserves with
  | nil => exact .nil
  | cons _ _ ih =>
    exact .cons (h 0 _ _ rfl rfl) (ih fun i rule s hi hs => h (i + 1) rule s hi hs)

lemma orderedSlots_restated {cut : Option Fault} {ds ds' : List Doc} {gs : List (Option Doc)}
    (hserves : List.Forall₂ Serves rules fields) (hds : InOrder fields ds ds')
    (hgs : orderedSlots cut rules ds = .ok gs) :
    ∃ gs', orderedSlots cut rules ds' = .ok gs' ∧ Regiven fields gs gs' := by
  induction hserves generalizing ds ds' gs with
  | nil =>
    cases hds
    refine ⟨gs, hgs, ?_⟩
    cases cut <;> cases hgs
    exact .nil
  | @cons rule s rules fields hrule _ ih =>
    cases hds with
    | nil =>
      cases cut with
      | some f => cases hgs
      | none =>
        cases hin : rule.inArray with
        | true => simp [orderedSlots, hin] at hgs
        | false =>
          simp only [orderedSlots, hin, Bool.false_eq_true, if_false] at hgs ⊢
          obtain ⟨rest, hrest, rfl⟩ := map_eq_ok.mp hgs
          obtain ⟨rest', hrest', hagain⟩ := ih .nil hrest
          exact ⟨_, map_eq_ok.mpr ⟨rest', hrest', rfl⟩, .cons .none hagain⟩
    | cons hd hds =>
      rw [orderedSlots] at hgs ⊢
      split at hgs
      · cases hgs
      · next hfine =>
        obtain ⟨rest, hrest, rfl⟩ := map_eq_ok.mp hgs
        obtain ⟨rest', hrest', hagain⟩ := ih hds hrest
        rw [hrule.fault? hd hfine]
        exact ⟨_, map_eq_ok.mpr ⟨rest', hrest', rfl⟩, .cons (.some hd) hagain⟩

/-- **A document said again** is read as the same record. -/
theorem RecordDecoder.Takes.decoder_restated {r : RecordDecoder α} {a : α} {d d' : Doc}
    (h : Takes r fields) (hapart : Apart r.rules) (hd : Restated fields d d')
    (ha : r.decoder d = .ok a) : r.decoder d' = .ok a := by
  cases hd with
  | same => exact ha
  | members hagain hadded horder =>
    obtain ⟨hcut, hlegible, hbuild⟩ := decoder_object_iff.mp ha
    have hgiven := regiven_map h.rules fun i rule s hi hs =>
      given?_restated h.rules hapart hagain hadded horder hlegible.once hi hs
    exact decoder_object_iff.mpr
      ⟨hcut, legible_restated h.rules hapart hagain hadded horder hlegible, h.build hgiven hbuild⟩
  | items hds =>
    obtain ⟨gs, hgs, hbuild⟩ := bind_eq_ok.mp ha
    obtain ⟨gs', hgs', hagain⟩ := orderedSlots_restated h.rules hds hgs
    exact bind_eq_ok.mpr ⟨gs', hgs', h.build hagain hbuild⟩

/-- **A text said again** is read as the same record. -/
theorem RecordDecoder.Takes.decodeText_reworded {r : RecordDecoder α} {a : α}
    {text text' : String} (h : Takes r fields) (hapart : Apart r.rules)
    (htext : Reworded fields text text') (ha : decodeText r.decoder text = .ok a) :
    decodeText r.decoder text' = .ok a :=
  decodeText_eq_ok.mpr
    ⟨h.decoder_restated hapart htext.doc (decodeText_eq_ok.mp ha).1, htext.ended⟩

end Whereto.Json
