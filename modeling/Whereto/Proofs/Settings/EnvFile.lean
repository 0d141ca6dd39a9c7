import Whereto.Proofs.Text.Lines
import Whereto.Proofs.Text.Trim
import Whereto.Settings.EnvFile

/-!
Files without dollar signs. No value in such a file depends on another variable. So the file is a
list of assignments, the same for every environment into which it is loaded, and an assignment
counts where the variable was not set before.
-/

namespace Whereto

namespace Environment

variable {env : Environment} {name value key : String} {as bs : List (String × String)}

/-- The environment after assignments, each to a variable that is not set yet. -/
def assign (env : Environment) (as : List (String × String)) : Environment :=
  as.foldl (fun env a => env.setIfUnset a.1 a.2) env

lemma assign_append : env.assign (as ++ bs) = (env.assign as).assign bs := List.foldl_append

lemma lookup_cons_eq_or : ((name, value) :: as).lookup key =
    (if key = name then some value else none).or (as.lookup key) := by
  by_cases hkey : key = name
  · simp [hkey]
  · rw [List.lookup_cons, beq_false_of_ne hkey, if_neg hkey, Option.none_or]

lemma get?_setIfUnset : (env.setIfUnset name value).get? key =
    (env.get? key).or (if key = name then some value else none) := by
  unfold setIfUnset
  cases hset : env.get? name with
  | none => rw [get?, List.lookup_append, lookup_cons_eq_or, List.lookup_nil, Option.or_none, get?]
  | some old =>
    by_cases hkey : key = name
    · rw [hkey, hset, Option.some_or]
    · rw [if_neg hkey, Option.or_none]

/-- **After assignments** a variable has the value it had before, or else the first one that it was
assigned. -/
theorem get?_assign : (env.assign as).get? key = (env.get? key).or (as.lookup key) := by
  induction as generalizing env with
  | nil => exact Option.or_none.symm
  | cons a as ih =>
    rw [assign, List.foldl_cons, ← assign, ih, get?_setIfUnset, Option.or_assoc,
      ← lookup_cons_eq_or]

/-- What is set stays as it is. -/
lemma get?_assign_of_isSome (h : (env.get? key).isSome) :
    (env.assign as).get? key = env.get? key := by
  rw [get?_assign, Option.or_of_isSome h]

end Environment

namespace EnvFile

open Text (physicalLines chomp trimStart trimEnd trimStart_subset trimEnd_subset)

variable {cs line name rest : List Char}

/-! ### Values -/

/-- No name of a variable is being read. -/
def Part.isLiteral : Part → Bool
  | .name _ => false
  | .braced _ => false
  | _ => true

namespace Reading

variable {e f : Environment} {r s : Reading} {c : Char}

@[simp] lemma part_push : (r.push c).part = r.part := rfl

@[simp] lemma part_goTo {p : Part} : (r.goTo p).part = p := rfl

lemma isLiteral_readPlain (hr : r.part = .plain) (hc : c ≠ '$') :
    (r.readPlain c).part.isLiteral = true := by
  unfold readPlain
  rw [if_neg hc]
  repeat' split
  all_goals simp [hr, Part.isLiteral]

lemma read?_eq (hr : r.part.isLiteral = true) : read? e r c = read? f r c := by
  obtain ⟨part, weak, output⟩ := r
  cases part <;> first | rfl | cases hr

lemma isLiteral_of_read? (hr : r.part.isLiteral = true) (hc : c ≠ '$')
    (h : read? e r c = some s) : s.part.isLiteral = true := by
  cases hpart : r.part with
  | plain =>
    simp only [read?, hpart, Option.some.injEq] at h
    exact h ▸ isLiteral_readPlain hpart hc
  | name reversed => simp [hpart, Part.isLiteral] at hr
  | braced reversed => simp [hpart, Part.isLiteral] at hr
  | _ =>
    -- a character leads from these parts to one another or to a plain one
    simp only [read?, hpart] at h
    grind [Part.isLiteral, part_push, part_goTo]

lemma finish?_eq (hr : r.part.isLiteral = true) : finish? e r = finish? f r := by
  obtain ⟨part, weak, output⟩ := r
  cases part <;> first | rfl | cases hr

/-- A value that goes on without dollar signs is read alike in every environment. -/
lemma foldlM_read?_eq (hr : r.part.isLiteral = true) (hcs : '$' ∉ cs) :
    (cs.foldlM (read? e) r).bind (finish? e) = (cs.foldlM (read? f) r).bind (finish? f) := by
  induction cs generalizing r with
  | nil => exact finish?_eq hr
  | cons c cs ih =>
    rw [List.mem_cons, not_or] at hcs
    rw [List.foldlM_cons, List.foldlM_cons, read?_eq (f := f) hr]
    cases hnext : read? f r c with
    | none => rfl
    | some s => exact ih (isLiteral_of_read? hr (Ne.symm hcs.1) hnext) hcs.2

end Reading

lemma readValue?_eq (hcs : '$' ∉ cs) (e f : Environment) : readValue? e cs = readValue? f cs :=
  Reading.foldlM_read?_eq rfl hcs

/-! ### Lines -/

lemma readName?_subset (h : readName? cs = some (name, rest)) : rest ⊆ cs := by
  unfold readName? at h
  split at h
  next =>
    split at h
    next =>
      obtain ⟨-, rfl⟩ := Prod.mk.inj (Option.some.inj h)
      exact List.dropWhile_subset inName
    next => cases h
  next => cases h

lemma afterEquals?_subset (h : afterEquals? cs = some rest) : rest ⊆ cs := by
  unfold afterEquals? at h
  split at h
  next htrim =>
    rw [Option.some.inj h] at htrim
    have hsub : rest ⊆ trimStart cs := htrim ▸ List.subset_cons_self _ _
    exact List.Subset.trans hsub trimStart_subset
  next => cases h

/-- The text of a value is a part of the line. -/
lemma readAssignment?_subset (h : readAssignment? cs = some (name, rest)) : rest ⊆ cs := by
  unfold readAssignment? at h
  obtain ⟨⟨first, tail⟩, hfirst, h⟩ := Option.bind_eq_some_iff.mp h
  have htail := readName?_subset hfirst
  dsimp only at h
  split at h
  next value hvalue =>
    obtain ⟨-, rfl⟩ := Prod.mk.inj (Option.some.inj h)
    exact List.Subset.trans (afterEquals?_subset hvalue) htail
  next =>
    split at h
    next =>
      obtain ⟨⟨second, tail'⟩, hsecond, h⟩ := Option.bind_eq_some_iff.mp h
      obtain ⟨value, hvalue, h⟩ := Option.bind_eq_some_iff.mp h
      obtain ⟨-, rfl⟩ := Prod.mk.inj (Option.some.inj h)
      have htail' : tail' ⊆ tail := List.Subset.trans (readName?_subset hsecond) trimStart_subset
      exact List.Subset.trans (afterEquals?_subset hvalue) (List.Subset.trans htail' htail)
    next => cases h

/-- **A line** ends the file, or it makes assignments; neither depends on the environment. -/
lemma readLine?_eq (h : '$' ∉ line) :
    ∃ as? : Option (List (String × String)), ∀ env, readLine? env line = as?.map env.assign := by
  have hline : '$' ∉ trimStart (trimEnd line) := fun hmem =>
    h (trimEnd_subset (trimStart_subset hmem))
  unfold readLine?
  generalize trimStart (trimEnd line) = cs at hline
  dsimp only
  split
  next => exact ⟨some [], fun env => rfl⟩
  next =>
    cases hassign : readAssignment? cs with
    | none => exact ⟨none, fun env => rfl⟩
    | some parts =>
      obtain ⟨name, rest⟩ := parts
      have hrest : '$' ∉ trimStart rest := fun hmem =>
        hline (readAssignment?_subset hassign (trimStart_subset hmem))
      by_cases hcomment : startsComment (trimStart rest) = true
      · exact ⟨some [(String.ofList name, "")], fun env => by simp [hcomment, Environment.assign]⟩
      · refine ⟨(readValue? [] (trimStart rest)).map fun value => [(String.ofList name, value)],
          fun env => ?_⟩
        rw [readValue?_eq hrest [] env]
        cases hvalue : readValue? env (trimStart rest) <;>
          simp [hcomment, hvalue, Environment.assign]

/-! ### Files -/

lemma beforeComment_subset {q : Quoting} : (beforeComment q cs).1 ⊆ cs := by
  induction cs generalizing q with
  | nil => exact List.Subset.refl _
  | cons c cs ih =>
    rw [beforeComment]
    split
    next => exact List.nil_subset _
    next => exact List.cons_subset_cons c ih

lemma withoutMark_subset : withoutMark cs ⊆ cs := by
  unfold withoutMark
  split
  next =>
    split
    next => exact List.subset_cons_self _ _
    next => exact List.Subset.refl _
  next => exact List.Subset.refl _

namespace Loading

variable {s t : Loading} {step next : Loading → Loading}

/-- A step does the same in every environment: where it leads is known without the environment, to
which it makes some assignments. -/
def Uniform (s : Loading) (step : Loading → Loading) (t : Loading) : Prop :=
  ∃ as, ∀ env, step { s with env := env } = { t with env := env.assign as }

lemma Uniform.of_eq (h : ∀ env, step { s with env := env } = { t with env := env }) :
    s.Uniform step t :=
  ⟨[], h⟩

lemma Uniform.congr (h : ∀ env, step { s with env := env } = next { s with env := env })
    (hnext : s.Uniform next t) : s.Uniform step t := by
  obtain ⟨as, has⟩ := hnext
  exact ⟨as, fun env => (h env).trans (has env)⟩

lemma Uniform.comp {u : Loading} (hstep : s.Uniform step t) (hnext : t.Uniform next u) :
    s.Uniform (next ∘ step) u := by
  obtain ⟨as, has⟩ := hstep
  obtain ⟨bs, hbs⟩ := hnext
  refine ⟨as ++ bs, fun env => ?_⟩
  rw [Function.comp_apply, has, hbs, Environment.assign_append]

/-- A complete line does the same in every environment, also if it is malformed. -/
lemma uniform_take (hs : '$' ∉ s.line) (hline : '$' ∉ line) :
    ∃ t, '$' ∉ t.line ∧ s.Uniform (take · line) t := by
  obtain ⟨as?, has⟩ := readLine?_eq hline
  cases as? with
  | none => exact ⟨{ s with stopped := true }, hs, .of_eq fun env => by simp [take, has]⟩
  | some as =>
    exact ⟨⟨[], .plain, s.env, false⟩, List.not_mem_nil, as, fun env => by simp [take, has]⟩

/-- **One line of a file** does the same in every environment. -/
lemma uniform_next {l : List Char} (hs : '$' ∉ s.line) (hl : '$' ∉ l) :
    ∃ t, '$' ∉ t.line ∧ s.Uniform (Loading.next · l) t := by
  have hwhole : '$' ∉ s.line ++ l := List.mem_append.not.mpr (not_or.mpr ⟨hs, hl⟩)
  by_cases hstopped : s.stopped = true
  · exact ⟨s, hs, .of_eq fun env => by simp [Loading.next, hstopped]⟩
  by_cases hcomment : (trimStart (s.line ++ l)).head? = some '#'
  · exact ⟨⟨[], .plain, s.env, false⟩, List.not_mem_nil,
      .of_eq fun env => by simp [Loading.next, hstopped, hcomment]⟩
  have hkept : '$' ∉ s.line ++ (beforeComment s.quoting l).1 :=
    List.mem_append.not.mpr (not_or.mpr ⟨hs, fun hmem => hl (beforeComment_subset hmem)⟩)
  obtain ⟨⟨kept, q⟩, hparts⟩ : ∃ parts, beforeComment s.quoting l = parts := ⟨_, rfl⟩
  rw [hparts] at hkept
  -- the line is complete, with or without a comment, or it goes on in quotes
  cases q with
  | plain =>
    obtain ⟨t, ht, htake⟩ := uniform_take hs fun hmem => hwhole (Text.chomp_subset hmem)
    exact ⟨t, ht, htake.congr fun env => by simp [Loading.next, hstopped, hcomment, hparts]⟩
  | comment =>
    obtain ⟨t, ht, htake⟩ := uniform_take hs hkept
    exact ⟨t, ht, htake.congr fun env => by simp [Loading.next, hstopped, hcomment, hparts]⟩
  | _ =>
    exact ⟨{ s with line := s.line ++ l, quoting := (beforeComment s.quoting l).2 }, hwhole,
      .of_eq fun env => by simp [Loading.next, hstopped, hcomment, hparts]⟩

/-- So do all lines: each of them starts where the lines before it lead in every environment. -/
lemma uniform_foldl {ls : List (List Char)} (hs : '$' ∉ s.line) (hls : ∀ l ∈ ls, '$' ∉ l) :
    ∃ t, s.Uniform (ls.foldl Loading.next ·) t := by
  induction ls generalizing s with
  | nil => exact ⟨s, .of_eq fun _ => rfl⟩
  | cons l ls ih =>
    obtain ⟨t, ht, hstep⟩ := uniform_next hs (hls l List.mem_cons_self)
    obtain ⟨u, hnext⟩ := ih ht fun l' hl' => hls l' (List.mem_cons_of_mem _ hl')
    exact ⟨u, hstep.comp hnext⟩

end Loading

/-- **A file without dollar signs** is a list of assignments, the same for every environment. -/
theorem load_eq_assign {text : String} (h : '$' ∉ text.toList) :
    ∃ as, ∀ env, load env text = env.assign as := by
  have hlines : ∀ l ∈ physicalLines (withoutMark text.toList), '$' ∉ l := by
    intro l hl hmem
    have hflat := List.mem_flatten.mpr ⟨l, hl, hmem⟩
    rw [Text.flatten_physicalLines] at hflat
    exact h (withoutMark_subset hflat)
  obtain ⟨t, as, has⟩ :=
    Loading.uniform_foldl (s := ⟨[], .plain, [], false⟩) List.not_mem_nil hlines
  exact ⟨as, fun env => congrArg Loading.env (has env)⟩

end EnvFile

end Whereto
