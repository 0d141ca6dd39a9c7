import Whereto.Proofs.Picker.Questions

/-!
Lookups of suggestions. Whoever asks for suggestions was started by a call or was dispatched, for
nothing else makes a job look something up. And a lookup that was started can come to an end: it
is up to the sources alone.
-/

namespace Whereto

/-- Whether suggestions are asked for. -/
def Question.isSearch : Question → Bool
  | predict _ _ | cities _ => true
  | _ => false

lemma Stage.isSearch_of_asks {s : Stage} {q : Question} (h : s.Asks q)
    (hq : q.isSearch = true) : s.isSearch = true := by
  cases h with
  | predicting => rfl
  | searching => rfl
  | _ => cases hq

namespace Picker

/-- Whether an input starts a job that can look suggestions up. -/
def Input.launches : Input → Bool
  | .start _ | .dispatch _ => true
  | _ => false

variable {p : Picker} {i : Input} {v : Inside} {c : Course step} {n job : ℕ} {s : Stage}
  {t : Ticket} {q : Question}

/-! ### Where lookups come from -/

/-- A job looks suggestions up. -/
def Inside.Searches (v : Inside) (job : ℕ) : Prop := ∃ s, v.stage job = some s ∧ s.isSearch = true

namespace Inside

lemma Searches.of_put {j : ℕ} {s : Option Stage} {out : List Output}
    (h : (v.put j s out).Searches job) :
    v.Searches job ∨ job = j ∧ ∃ t, s = some t ∧ t.isSearch = true := by
  obtain ⟨t, hs, ht⟩ := h
  by_cases hj : job = j
  · subst hj
    rw [put_stage_self] at hs
    exact .inr ⟨rfl, t, hs, ht⟩
  · rw [put_stage v hj] at hs
    exact .inl ⟨t, hs, ht⟩

lemma Searches.of_rest {j : ℕ} {s : Option Stage} {out : List Output}
    (h : (v.put j s out).Searches job) (hs : ∀ t, s = some t → t.isSearch = false) :
    v.Searches job := by
  rcases h.of_put with h | ⟨-, t, ht, hsearch⟩
  · exact h
  · simp [hs t ht] at hsearch

lemma Searches.of_leave {line : List Nat} {failure : Option Failure}
    (h : (v.leave line failure).Searches job) : v.Searches job := by
  obtain ⟨s, hs, hsearch⟩ := h
  simp only [leave, Option.ite_none_left_eq_some] at hs
  exact ⟨s, hs.2, hsearch⟩

lemma Searches.of_next (h : v.next.Searches job) : v.Searches job := by
  cases hline : v.primary.waiting with
  | nil =>
    rw [next_nil hline] at h
    exact h
  | cons j rest =>
    rw [next_cons hline] at h
    exact h.of_rest (by simp [Stage.isSearch])

end Inside

lemma Warms.searches (h : p.Warms i v) (hs : v.Searches job) : p.inside.Searches job := by
  cases h with
  | rest => exact hs
  | spawned => exact hs.of_rest (by simp [Stage.isSearch])

/-- The job that an input looks suggestions up for did so before, or it is a new one. -/
lemma Seeks.searches (h : p.Seeks i job) :
    p.inside.Searches job ∨ job = p.nextJob ∧ i.launches = true := by
  cases h with
  | started => exact .inr ⟨rfl, rfl⟩
  | begun stage => exact .inl ⟨_, stage, rfl⟩
  | predicted stage => exact .inl ⟨_, stage, rfl⟩
  | searched stage => exact .inl ⟨_, stage, rfl⟩
  | cancelled stage search => exact .inl ⟨_, stage, search⟩

/-- **Who looks suggestions up** after a step did so before, or was started by it. -/
theorem searches_step (hp : p.Tidy) (h : (p.step i).inside.Searches job) :
    p.inside.Searches job ∨ job = p.nextJob ∧ i.launches = true := by
  have hturn := turn_step hp.tracked i
  generalize (p.step i).inside = v at h hturn
  cases hturn with
  | warmed warm => exact .inl (warm.searches h)
  | dispatched => exact h.of_put.imp_right fun hnew => ⟨hnew.1, rfl⟩
  | asked seeks warm =>
    rcases h.of_put with h | ⟨rfl, -⟩
    · exact .inl (warm.searches h)
    · exact seeks.searches
  | finished _ warm => exact .inl (warm.searches (h.of_rest nofun))
  | locating => exact .inl (h.of_rest (by simp [Stage.isSearch]))
  | describing => exact .inl (h.of_rest (by simp [Stage.isSearch]))
  | settled => exact .inl (h.of_rest nofun)
  | givenUp => exact .inl (h.of_rest nofun)
  | served => exact .inl h.of_leave
  | loading => exact .inl (h.of_rest (by simp [Stage.isSearch]))
  | queued => exact .inl (h.of_rest (by simp [Stage.isSearch]))
  | loaded => exact .inl h.of_leave
  | failed => exact .inl h.of_next.of_leave
  | abandoned => exact .inl (h.of_next.of_rest nofun)
  | left => exact .inl (h.of_rest nofun)

/-- A job that looks suggestions up was started for it. -/
lemma searches_origin (hp : ∀ n, (c.state n).Tidy) (h0 : c.start.jobs = [])
    (h : (c.state n).inside.Searches job) :
    ∃ k < n, job = (c.state k).nextJob ∧ (c.input k).launches = true := by
  induction n with
  | zero =>
    obtain ⟨s, hs, -⟩ := h
    have hmem := mem_of_stage? hs
    simp [Course.state_zero, h0] at hmem
  | succ n ih =>
    rcases searches_step (hp n) h with hold | ⟨hjob, hi⟩
    · obtain ⟨k, hk, h⟩ := ih hold
      exact ⟨k, by omega, h⟩
    · exact ⟨n, n.lt_succ_self, hjob, hi⟩

/-- A job that asks for suggestions was started for it. -/
theorem launched_of_ask (hp : ∀ n, (c.state n).Tidy) (h0 : c.start.jobs = [])
    (hq : q.isSearch = true) (h : .ask job q ∈ c.output n) :
    ∃ k ≤ n, job = (c.state k).nextJob ∧ (c.input k).launches = true := by
  obtain ⟨s, hs, hasks⟩ := stage_of_ask (hp n) h
  obtain ⟨k, hk, h⟩ := searches_origin (n := n + 1) hp h0 ⟨s, hs, Stage.isSearch_of_asks hasks hq⟩
  exact ⟨k, by omega, h⟩

/-! ### How lookups end -/

/-- The lookup of a job can be answered, and then it is shown if its ticket is the latest. -/
def CanEnd (p : Picker) (job : ℕ) (t : Ticket) : Prop :=
  ∃ inputs, .finish job (.applied (t.generation = p.field.generation)) ∈ (p.run inputs).2

lemma run_append (p : Picker) (inputs : List Input) (i : Input) :
    p.run (inputs ++ [i]) = andThen (p.run inputs) (step · i) := by
  rw [run, List.foldl_append]
  rfl

lemma finish_conclude (p : Picker) (job : ℕ) (t : Ticket) (found : List Suggestion) :
    .finish job (.applied (t.generation = p.field.generation)) ∈
      (p.conclude job (.display t) found).2 := by
  by_cases hg : t.generation = p.field.generation <;> simp [conclude, hg]

/-- The directory answers. -/
lemma canEnd_of_searching (inputs : List Input) (hfield : (p.run inputs).1.field = p.field)
    (stage : (p.run inputs).1.stage? job = some (.searching (.display t))) : p.CanEnd job t := by
  have hend := finish_conclude (p.run inputs).1 job t []
  rw [hfield] at hend
  refine ⟨inputs ++ [.reply job (.cities (.ok []))], ?_⟩
  rw [run_append]
  refine List.mem_append_right _ ?_
  simpa [step, reply, stage, directoryEntries] using hend

lemma stage?_of_mem (hp : p.Sound) (h : (job, s) ∈ p.jobs) : p.stage? job = some s := by
  obtain ⟨l₁, l₂, hjobs⟩ := List.append_of_mem h
  refine List.lookup_eq_some_iff.mpr ⟨l₁, l₂, hjobs, fun x hx => ?_⟩
  have hkeys := hp.keys
  rw [hjobs, List.map_append] at hkeys
  have hne : x.1 ≠ job := (List.nodup_append.mp hkeys).2.2 _ (List.mem_map_of_mem hx) _
    List.mem_cons_self
  simpa using hne.symm

/-- **Every lookup can come to an end**, and the latest ticket decides on it as ever. -/
theorem canEnd_of_carries (hp : p.Sound) (h : p.Carries job t) : p.CanEnd job t := by
  obtain ⟨s, hmem, ht⟩ := h
  have hs := stage?_of_mem hp hmem
  cases s with
  | spawned e =>
    cases e with
    | load => cases ht
    | complete u =>
      cases ht
      cases hshort : p.isShort t.query with
      | true =>
        refine ⟨[.begin job], ?_⟩
        have hend := finish_conclude p job t []
        simpa [run, andThen, step, begin, hs, complete, hshort] using hend
      | false =>
        obtain ⟨hsearching, hfield⟩ := searching_of_spawned hs hshort
        exact canEnd_of_searching [.begin job, .reply job (.predictions (.ok []))]
          hfield hsearching
  | predicting query purpose =>
    cases purpose with
    | display u =>
      cases ht
      have hrun : (p.run [.reply job (.predictions (.ok []))]).1 =
          p.enter job (.searching (.display t)) := by
        simp [run, andThen, step, reply, hs, usable, fallBack, search, await]
      refine canEnd_of_searching [.reply job (.predictions (.ok []))] ?_ ?_
      · rw [hrun]
        rfl
      · rw [hrun, stage?_enter_self]
    | _ => cases ht
  | searching purpose =>
    cases purpose with
    | display u =>
      cases ht
      exact canEnd_of_searching [] rfl hs
    | _ => cases ht
  | _ => cases ht

end Picker

end Whereto
