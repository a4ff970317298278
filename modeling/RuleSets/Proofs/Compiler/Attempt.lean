import RuleSets.Compiler
import RuleSets.Proofs.FileSystem.Operation

/-!
# Attempts to compile

The course of `Compiler.compile` when the compiler touches nothing but the temporary file: an attempt
is abandoned, gives up or puts the compiler's output in place, and `compile_cases` says for each of
these which states it goes through.
-/

namespace RuleSets

namespace Job

variable {job : Job} {limit time : Nat} {status : Status} {st : FileSystem}

theorem observe_of_ending (h : job.ending? = some (time, status)) (ht : time ≤ lastLook limit) :
    (job.observe limit).states = job.states ∧ (job.observe limit).status? = some status := by
  simp [observe, h, ht]

theorem ending_of_observe (h : (job.observe limit).status? = some status) :
    ∃ time, job.ending? = some (time, status) ∧ time ≤ lastLook limit := by
  unfold observe at h
  rcases he : job.ending? with _ | ⟨time, status'⟩
  · rw [he] at h; cases h
  · simp only [he] at h
    split at h
    · rename_i ht
      cases h
      exact ⟨time, rfl, ht⟩
    · cases h

theorem mem_statesUntil (h : st ∈ job.statesUntil time) : st ∈ job.states := by
  obtain ⟨step, hstep, rfl⟩ := List.mem_map.1 h
  exact List.mem_map.2 ⟨step, (List.mem_filter.1 hstep).1, rfl⟩

theorem mem_states_of_observe (h : st ∈ (job.observe limit).states) : st ∈ job.states := by
  unfold observe at h
  rcases he : job.ending? with _ | ⟨time, status⟩
  · rw [he] at h; exact mem_statesUntil h
  · simp only [he] at h
    split at h
    · exact h
    · exact mem_statesUntil h

end Job

namespace Compiler

variable {c : Compiler} {here : Surroundings} {o : Options} {source output tmp : Path}
  {fs : FileSystem} {loc : Location} {limit n : Nat} {states : List FileSystem}

/-! ### States that differ in one file -/

/-- Whether all states are the given file system but for a file at one location. -/
def Confined (loc : Location) (fs : FileSystem) (states : List FileSystem) : Prop :=
  ∀ st ∈ states, ∃ e, e ≠ some .directory ∧ st = fs.put loc e

/-- Whether a compiler touches nothing but its output, where it makes, changes and deletes a file. -/
def WritesOnlyOutput (c : Compiler) (cwd : Location) (source output : Path) (fs : FileSystem) :
    Prop :=
  ∀ job, c.start source output fs = .ok job → Confined (output.location cwd) fs job.states

theorem Confined.at?_of_ne {states : List FileSystem} (h : Confined loc fs states) :
    ∀ st ∈ states, ∀ l, l ≠ loc → st.at? l = fs.at? l := by
  intro st hst l hl
  obtain ⟨e, -, rfl⟩ := h st hst
  exact FileSystem.at?_put_of_ne hl

theorem Confined.lastState (h : Confined loc fs states) (hloc : fs.get? loc ≠ some .directory) :
    ∃ e, e ≠ some .directory ∧ lastState states fs = fs.put loc e := by
  rcases List.eq_nil_or_concat states with rfl | ⟨init, st, rfl⟩
  · exact ⟨fs.get? loc, hloc, (FileSystem.put_eq_self rfl).symm⟩
  · obtain ⟨e, he, hst⟩ := h st (by simp)
    exact ⟨e, he, by simpa [Compiler.lastState] using hst⟩

theorem lastState_mem (states : List FileSystem) (fs : FileSystem) :
    lastState states fs = fs ∨ lastState states fs ∈ states := by
  unfold lastState
  rcases hl : states.getLast? with _ | st
  · exact .inl rfl
  · exact .inr (List.mem_of_getLast? hl)

theorem lastState_append_singleton (states : List FileSystem) (st fs : FileSystem) :
    lastState (states ++ [st]) fs = st := by
  simp [lastState]

theorem lastState_append_pair (states : List FileSystem) (st st' fs : FileSystem) :
    lastState (states ++ [st, st']) fs = st' := by
  simp [lastState]

theorem lastState_cons (st : FileSystem) (states : List FileSystem) (fs : FileSystem) :
    lastState (st :: states) fs = lastState states st := by
  unfold lastState
  rw [List.getLast?_cons]
  rfl

/-! ### Verdicts -/

theorem verdict_eq_built {status? : Option Status} {size : Except IoError Nat} :
    c.verdict tmp limit status? size = .built n ↔
      status? = some (.exited 0) ∧ size = .ok n ∧ 0 < n := by
  rcases status? with _ | status
  · simp [verdict]
  by_cases hs : status.isSuccess = true
  · have h0 : status = .exited 0 := by simpa [Status.isSuccess] using hs
    subst h0
    rcases size with e | _ | m
    · simp [verdict, Status.isSuccess]
    · simp only [verdict, Status.isSuccess]
      constructor
      · intro h; cases h
      · rintro ⟨-, h, hn⟩; cases h; cases hn
    · simp only [verdict, Status.isSuccess]
      constructor
      · intro h; cases h; exact ⟨trivial, rfl, Nat.succ_pos m⟩
      · rintro ⟨-, h, -⟩; cases h; rfl
  · have h0 : status ≠ .exited 0 := fun h => hs (by rw [h]; rfl)
    simp [verdict, hs, h0]

theorem verdict_ne_abandoned {status? : Option Status} {size : Except IoError Nat} :
    c.verdict tmp limit status? size ≠ .abandoned := by
  unfold verdict
  rcases status? with _ | status
  · simp
  · dsimp only
    split
    · rcases size with e | _ | m <;> simp
    · simp

/-! ### Running a compiler -/

theorem produce_of_error {e : IoError} (h : c.start source tmp fs = .error e) :
    c.produce here limit source tmp fs = ⟨[], .failed (.compile .spawn e.message)⟩ := by
  simp only [produce, h]

theorem produce_of_overflow {job : Job} (h : c.start source tmp fs = .ok job)
    (hd : Job.deadline? here.now limit = none) :
    c.produce here limit source tmp fs = ⟨job.states, .abandoned⟩ := by
  simp only [produce, h, hd]

theorem produce_of_deadline {job : Job} {moment : Nat} (h : c.start source tmp fs = .ok job)
    (hd : Job.deadline? here.now limit = some moment) :
    c.produce here limit source tmp fs = ⟨(job.observe limit).states,
      c.verdict tmp limit (job.observe limit).status?
        ((lastState (job.observe limit).states fs).size here.cwd tmp)⟩ := by
  simp only [produce, h, hd]

theorem produce_abandoned_iff : (c.produce here limit source tmp fs).outcome = .abandoned ↔
    Job.deadline? here.now limit = none ∧ ∃ job, c.start source tmp fs = .ok job := by
  cases hs : c.start source tmp fs with
  | error e => simp [produce_of_error hs]
  | ok job =>
    cases hd : Job.deadline? here.now limit with
    | none => simp [produce_of_overflow hs hd]
    | some moment => simp [produce_of_deadline hs hd, verdict_ne_abandoned]

theorem produce_built (h : (c.produce here limit source tmp fs).outcome = .built n) :
    ∃ job time, c.start source tmp fs = .ok job ∧ job.ending? = some (time, .exited 0) ∧
      time ≤ Job.lastLook limit ∧ (c.produce here limit source tmp fs).states = job.states ∧
      (lastState job.states fs).size here.cwd tmp = .ok n ∧ 0 < n := by
  cases hs : c.start source tmp fs with
  | error e => rw [produce_of_error hs] at h; cases h
  | ok job =>
    cases hd : Job.deadline? here.now limit with
    | none => rw [produce_of_overflow hs hd] at h; cases h
    | some moment =>
      rw [produce_of_deadline hs hd] at h ⊢
      obtain ⟨hstatus, hsize, hn⟩ := verdict_eq_built.1 h
      obtain ⟨time, hend, ht⟩ := Job.ending_of_observe hstatus
      have hstates := (Job.observe_of_ending hend ht).1
      rw [hstates] at hsize
      exact ⟨job, time, rfl, hend, ht, hstates, hsize, hn⟩

theorem mem_states_of_produce {st : FileSystem}
    (h : st ∈ (c.produce here limit source tmp fs).states) :
    ∃ job, c.start source tmp fs = .ok job ∧ st ∈ job.states := by
  cases hs : c.start source tmp fs with
  | error e =>
    rw [produce_of_error hs] at h
    cases h
  | ok job =>
    refine ⟨job, rfl, ?_⟩
    cases hd : Job.deadline? here.now limit with
    | none => rwa [produce_of_overflow hs hd] at h
    | some moment =>
      rw [produce_of_deadline hs hd] at h
      exact Job.mem_states_of_observe h

theorem WritesOnlyOutput.confined
    (hc : c.WritesOnlyOutput here.cwd source output (fs.put (output.location here.cwd) none))
    (limit : Nat) :
    Confined (output.location here.cwd) fs
      (c.produce here limit source output (fs.put (output.location here.cwd) none)).states := by
  intro st hst
  obtain ⟨job, hjob, hst⟩ := mem_states_of_produce hst
  obtain ⟨e, he, rfl⟩ := hc job hjob st hst
  exact ⟨e, he, FileSystem.put_put⟩

/-! ### The course of an attempt -/

/-- The course of an attempt whose compiler touches nothing but the temporary file.  It begins with
the temporary file deleted; unless it is abandoned it ends with it deleted too, and with the output
deleted, kept or replaced. -/
theorem compile_cases (hout : fs.Admits here.cwd output) (htmp : fs.Admits here.cwd output.tmp)
    {made : Attempt} {fs₁ : FileSystem} (hfs₁ : fs.put (output.tmp.location here.cwd) none = fs₁)
    (hmade : c.produce here o.timeout source output.tmp fs₁ = made)
    (hc : Confined (output.tmp.location here.cwd) fs made.states) :
    (made.outcome = .abandoned ∧
      c.compile here o source output fs = ⟨fs₁ :: made.states, .abandoned⟩) ∨
    (∃ f, made.outcome = .failed f ∧ c.compile here o source output fs =
      ⟨fs₁ :: made.states ++
        (if o.strict then [fs₁, fs₁.put (output.location here.cwd) none] else [fs₁]), .failed f⟩) ∨
    (∃ contents executable, made.outcome = .built contents.length ∧ contents ≠ [] ∧
      lastState made.states fs₁ =
        fs.put (output.tmp.location here.cwd) (some (.file contents executable)) ∧
      c.compile here o source output fs = ⟨fs₁ :: made.states ++
        [fs₁.put (output.location here.cwd) (some (.file contents executable))],
        .built contents.length⟩) := by
  have htmp₁ : fs.at? (output.tmp.location here.cwd) ≠ some .directory := htmp.file
  have hput (e : Option Entry) : fs₁.put (output.tmp.location here.cwd) e =
      fs.put (output.tmp.location here.cwd) e := by
    rw [← hfs₁, FileSystem.put_put]
  have hc₁ : Confined (output.tmp.location here.cwd) fs₁ made.states := fun st hst => by
    obtain ⟨e, he, hst⟩ := hc st hst
    exact ⟨e, he, hst.trans (hput e).symm⟩
  -- Whatever the compiler went through, what it leaves differs from `fs` at the temporary file only.
  obtain ⟨e, he, hlast⟩ := hc₁.lastState (by rw [← hfs₁, FileSystem.get?_put_self]; simp)
  rw [hput] at hlast
  have hout₂ : (fs.put (output.tmp.location here.cwd) e).Admits here.cwd output := hout.put htmp₁ he
  have htmp₂ : (fs.put (output.tmp.location here.cwd) e).Admits here.cwd output.tmp :=
    htmp.put htmp₁ he
  have hclear : cleared here.cwd output.tmp output o.strict (lastState made.states fs₁) =
      if o.strict then [fs₁, fs₁.put (output.location here.cwd) none] else [fs₁] := by
    have hout₁ : fs₁.Admits here.cwd output := hfs₁ ▸ hout.put htmp₁ (by simp)
    rw [hlast]
    simp only [cleared, htmp₂.discard_eq, FileSystem.put_put, hfs₁, hout₁.discard_eq]
  unfold compile
  simp only [htmp.removeIfPresent_eq, hfs₁, hmade, Attempt.final]
  rcases ho : made.outcome with n | f | _
  · refine .inr (.inr ?_)
    obtain ⟨job, time, -, -, -, hstates, hsize, hn⟩ := produce_built (hmade ▸ ho)
    rw [← hstates, hmade, hlast, htmp₂.size_eq, FileSystem.get?_put_self] at hsize
    rcases e with _ | ⟨_ | ⟨contents, executable⟩⟩
    · cases hsize
    · cases hsize
    · cases hsize
      have hren := htmp₂.rename_eq hout₂ FileSystem.get?_put_self
      rw [FileSystem.put_put, hfs₁] at hren
      refine ⟨contents, executable, rfl, List.ne_nil_of_length_pos hn, hlast, ?_⟩
      simp only [hlast, hren]
  · exact .inr (.inl ⟨f, rfl, by simp only [hclear]⟩)
  · exact .inl ⟨rfl, rfl⟩

end Compiler
end RuleSets
