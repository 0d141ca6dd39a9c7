import Whereto.Proofs.Picker.Loading

/-!
What a step does to the predictor, and what its outputs mean for it: a load is asked for only as
long as there is no predictor, a prediction only of the predictor that is there, and the background
job is told what came of its load when it is over.
-/

namespace Whereto.Picker

variable {p : Picker} {i : Input} {v : Inside} {job : Nat}

/-- What an output has to do with the predictor as it is afterwards. -/
inductive Means (p : Picker) : Input → Primary → Output → Prop
  | spawned {i : Input} {x : Primary} {job : Nat} (unready : p.primary.isReady = false)
      (alone : p.primary.background = none) : Means p i x (.spawned job .load)
  | load {i : Input} {x : Primary} {job : Nat} (unready : p.primary.isReady = false)
      (loads : x.loads = p.primary.loads + 1) : Means p i x (.ask job .load)
  | predict {i : Input} {x : Primary} {job n : Nat} {text : String}
      (client : p.primary.client = some n) : Means p i x (.ask job (.predict n text))
  | question {i : Input} {x : Primary} {job : Nat} {q : Question} (load : q ≠ .load)
      (predict : ∀ client text, q ≠ .predict client text) : Means p i x (.ask job q)
  | served {i : Input} {x : Primary} {job : Nat} (ready : x.isReady = true) :
      Means p i x (.finish job (.ready none))
  | failed {x : Primary} {job : Nat} {e : Failure} (stage : p.stage? job = some .loading) :
      Means p (.reply job (.loaded (.error e))) x (.finish job (.ready (some e)))

lemma Means.of_load {x : Primary} (h : p.Means i x (.ask job .load)) :
    p.primary.isReady = false ∧ x.loads = p.primary.loads + 1 := by
  cases h with
  | load unready loads => exact ⟨unready, loads⟩
  | question load => exact absurd rfl load

lemma Means.of_predict {x : Primary} {n : Nat} {text : String}
    (h : p.Means i x (.ask job (.predict n text))) : p.primary.client = some n := by
  cases h with
  | predict client => exact client
  | question _ predict => exact absurd rfl (predict n text)

lemma Means.of_failed {x : Primary} {e : Failure}
    (h : p.Means i x (.finish job (.ready (some e)))) :
    i = .reply job (.loaded (.error e)) ∧ p.stage? job = some .loading := by
  cases h with
  | failed stage => exact ⟨rfl, stage⟩

lemma Means.of_served {x : Primary} (h : p.Means i x (.finish job (.ready none))) :
    x.isReady = true := by
  cases h with
  | served ready => exact ready

lemma Means.of_spawned {x : Primary} (h : p.Means i x (.spawned job .load)) :
    p.primary.isReady = false ∧ p.primary.background = none := by
  cases h with
  | spawned unready alone => exact ⟨unready, alone⟩

/-- What a step does to the predictor. -/
structure Primes (p : Picker) (i : Input) (v : Inside) : Prop where
  means : ∀ o ∈ v.told, p.Means i v.primary o
  loads : v.primary.loads = p.primary.loads ∨ ∃ job, .ask job .load ∈ v.told
  client : v.primary.client = p.primary.client ∨ ∃ job, p.stage? job = some .loading ∧
    i = .reply job (.loaded (.ok ())) ∧ v.primary.client = some p.primary.loads
  background : ∀ b, v.primary.background = some b ↔
    (p.primary.background = some b ∧ ∀ r, .finish b (.ready r) ∉ v.told) ∨
      .spawned b .load ∈ v.told

lemma primes_rest (p : Picker) (i : Input) : p.Primes i p.inside where
  means _ ho := by cases ho
  loads := .inl rfl
  client := .inl rfl
  background b := by simp [inside]

lemma Warms.primes (h : p.Warms i v) : p.Primes i v := by
  cases h with
  | rest => exact primes_rest p i
  | spawned unready alone =>
    exact {
      means := fun o ho => by
        obtain rfl : o = _ := by simpa [Inside.put, inside] using ho
        exact .spawned unready alone
      loads := .inl rfl
      client := .inl rfl
      background := fun b => by simp [Inside.put, inside, alone, eq_comm] }

/-- Nothing but a question of another kind comes out, if anything does. -/
lemma Primes.put (h : p.Primes i v) {s : Option Stage} {out : List Output}
    (hout : ∀ o ∈ out, (∃ job q, o = .ask job q) ∧ p.Means i v.primary o) :
    p.Primes i (v.put job s out) where
  means o ho := by
    rcases List.mem_append.mp ho with ho | ho
    · exact h.means o ho
    · exact (hout o ho).2
  loads := h.loads.imp_right fun ⟨j, hj⟩ => ⟨j, List.mem_append_left _ hj⟩
  client := h.client
  background b := by
    have hfinish (r : Option Failure) : .finish b (.ready r) ∉ out := fun ho => by
      obtain ⟨⟨_, _, ho⟩, -⟩ := hout _ ho
      cases ho
    have hspawned : .spawned b .load ∉ out := fun ho => by
      obtain ⟨⟨_, _, ho⟩, -⟩ := hout _ ho
      cases ho
    simpa [Inside.put, hfinish, hspawned] using h.background b

/-- A load is the next one, if none came out before. -/
lemma Primes.load (h : p.Primes i v) (unready : p.primary.isReady = false)
    (loads : v.primary.loads = p.primary.loads) (means : ∀ o ∈ v.told, ∀ x, p.Means i x o)
    (job : Nat) : p.Primes i (v.load job) where
  means o ho := by
    rcases List.mem_append.mp ho with ho | ho
    · exact means o ho _
    · rw [List.mem_singleton.mp ho]
      exact .load unready (congrArg (· + 1) loads)
  loads := .inr ⟨job, by simp [Inside.load, Inside.put]⟩
  client := h.client
  background b := by simpa [Inside.load, Inside.put] using h.background b

lemma Primes.next (h : p.Primes i v) (unready : p.primary.isReady = false)
    (loads : v.primary.loads = p.primary.loads) (means : ∀ o ∈ v.told, ∀ x, p.Means i x o) :
    p.Primes i v.next := by
  cases hline : v.primary.waiting with
  | nil =>
    rw [Inside.next_nil hline]
    exact ⟨fun o ho => means o ho _, h.loads, h.client, h.background⟩
  | cons job rest =>
    have hrest : p.Primes i { v with primary := { v.primary with waiting := rest } } :=
      ⟨fun o ho => means o ho _, h.loads, h.client, h.background⟩
    rw [Inside.next_cons hline]
    exact hrest.load unready loads means job

/-- Those in line are told what came of a load; the background job is one of them, or it stays. -/
lemma primes_leave {x : Primary} {line : List Nat} {failure : Option Failure}
    (loads : x.loads = p.primary.loads) (background : x.background = p.primary.background)
    (client : x.client = p.primary.client ∨ ∃ job, p.stage? job = some .loading ∧
      i = .reply job (.loaded (.ok ())) ∧ x.client = some p.primary.loads)
    (means : ∀ job ∈ line, p.Means i
      { x with background := x.background.filter (· ∉ line) } (.finish job (.ready failure))) :
    p.Primes i (Inside.leave { p.inside with primary := x } line failure) where
  means o ho := by
    obtain ⟨job, hjob, rfl⟩ : ∃ job ∈ line, .finish job (.ready failure) = o := by
      simpa [Inside.leave, inside] using ho
    exact means job hjob
  loads := .inl loads
  client := client
  background b := by
    have htold (r : Option Failure) : .finish b (.ready r) ∈ line.map
        (fun job => Output.finish job (.ready failure)) ↔ b ∈ line ∧ r = failure := by
      rw [List.mem_map]
      constructor
      · rintro ⟨job, hjob, h⟩
        cases h
        exact ⟨hjob, rfl⟩
      · rintro ⟨hb, rfl⟩
        exact ⟨b, hb, rfl⟩
    simp [Inside.leave, inside, background, htold]

/-- A lookup of suggestions asks the predictor that is there, or it asks for cities. -/
lemma means_of_search {s : Stage} {q : Question} {x : Primary} (search : s.isSearch = true)
    (asks : s.Asks q) (client : ∀ n text, q = .predict n text → p.primary.client = some n) :
    p.Means i x (.ask job q) := by
  cases asks with
  | predicting => exact .predict (client _ _ rfl)
  | searching => exact .question nofun nofun
  | _ => cases search

lemma Turn.primes (ho : p.inside.Orderly) (h : p.Turn i v) : p.Primes i v := by
  have locator (l : Locator) : p.Primes i { p.inside with locator := l } :=
    ⟨(primes_rest p i).means, .inl rfl, .inl rfl, (primes_rest p i).background⟩
  have line (x : List Nat) :
      p.Primes i { p.inside with primary := { p.primary with waiting := x } } :=
    ⟨nofun, .inl rfl, .inl rfl, (primes_rest p i).background⟩
  cases h with
  | warmed warm => exact warm.primes
  | dispatched => exact (primes_rest p _).put nofun
  | asked _ warm search asks client =>
    refine warm.primes.put fun o ho => ?_
    rw [List.mem_singleton.mp ho]
    exact ⟨⟨_, _, rfl⟩, means_of_search search asks client⟩
  | finished _ warm => exact warm.primes.put nofun
  | locating =>
    refine (locator _).put fun o ho => ?_
    rw [List.mem_singleton.mp ho]
    exact ⟨⟨_, _, rfl⟩, .question nofun nofun⟩
  | describing =>
    refine (primes_rest p _).put fun o ho => ?_
    rw [List.mem_singleton.mp ho]
    exact ⟨⟨_, _, rfl⟩, .question nofun nofun⟩
  | settled => exact (locator _).put nofun
  | givenUp => exact (locator _).put nofun
  | @served _ job _ ready =>
    refine primes_leave (x := p.primary) rfl rfl (.inl rfl) fun j _ => .served ready
  | loading h unready => exact (primes_rest p _).load unready rfl nofun _
  | queued => exact (line _).put nofun
  | @loaded job stage =>
    exact primes_leave rfl rfl (.inr ⟨job, stage, rfl, rfl⟩) fun j _ => .served rfl
  | @failed job e stage =>
    have hmeans (x : Primary) : p.Means (.reply job (.loaded (.error e))) x
        (.finish job (.ready (some e))) := .failed stage
    have hleave : p.Primes (.reply job (.loaded (.error e))) (p.inside.leave [job] (some e)) :=
      primes_leave (x := p.primary) rfl rfl (.inl rfl) fun j hj => by
        rw [List.mem_singleton.mp hj]
        exact hmeans _
    refine hleave.next (ho.unready stage) rfl fun o ho' x => ?_
    rw [List.mem_singleton.mp (show o ∈ [_] from ho')]
    exact hmeans x
  | abandoned stage =>
    refine Primes.next ((primes_rest p _).put nofun) (ho.unready stage) rfl fun o ho' => ?_
    cases (show o ∈ [] from ho')
  | left => exact (line _).put nofun

lemma client_loaded (stage : p.stage? job = some .loading) :
    (p.step (.reply job (.loaded (.ok ())))).1.primary.client = some p.primary.loads := by
  have hstep : p.step (.reply job (.loaded (.ok ()))) = p.loadDone job := by
    simp [step, reply, stage]
  have hinside := congrArg (·.primary.client) (inside_loadDone p job)
  rw [hstep]
  exact hinside

end Whereto.Picker
