import RuleSets.Proofs.Compiler.Copying

/-!
# Replacement in one step

An attempt to compile never shows anything at its output but what was there before and what is there
in the end (`compile_replaces_at_once`), whatever the compiler does to the temporary file and
whenever it stops.  The hypotheses ask of the compiler that it touches nothing but that file.
-/

namespace RuleSets.Compiler

variable {c : Compiler} {here : Surroundings} {o : Options} {source output : Path}
  {fs : FileSystem} {loc : Location}

/-- Whether a compiler exits with zero within its time and leaves a file with the given contents. -/
def Leaves (c : Compiler) (cwd : Location) (limit : Nat) (source output : Path) (fs : FileSystem)
    (contents : Bytes) (executable : Bool) : Prop :=
  ∃ job time, c.start source output fs = .ok job ∧ job.ending? = some (time, .exited 0) ∧
    time ≤ Job.lastLook limit ∧
    (lastState job.states fs).at? (output.location cwd) = some (.file contents executable)

section
variable (hout : fs.Admits here.cwd output) (htmp : fs.Admits here.cwd output.tmp)
  (hc : c.WritesOnlyOutput here.cwd source output.tmp (fs.put (output.tmp.location here.cwd) none))
include hout htmp hc

/-- The states before the last one that an attempt may add keep the output as it was. -/
theorem compile_before_after : ∃ before after,
    (c.compile here o source output fs).states = before ++ after ∧
    (∀ st ∈ before, st.at? (output.location here.cwd) = fs.at? (output.location here.cwd)) ∧
    (after = [] ∨ ∃ st, after = [st] ∧
      ((lastState before fs).rename here.cwd output.tmp output = .ok st ∨
        (lastState before fs).discard here.cwd output = st)) := by
  have hmade := hc.confined o.timeout
  have hne : output.location here.cwd ≠ output.tmp.location here.cwd := hout.location_tmp_ne.symm
  have hkeep : ∀ st ∈ fs.put (output.tmp.location here.cwd) none ::
      (c.produce here o.timeout source output.tmp
        (fs.put (output.tmp.location here.cwd) none)).states,
      st.at? (output.location here.cwd) = fs.at? (output.location here.cwd) := by
    intro st hst
    rcases List.mem_cons.1 hst with rfl | hst
    · exact FileSystem.at?_put_of_ne hne
    · exact hmade.at?_of_ne st hst _ hne
  rcases compile_cases (o := o) hout htmp rfl rfl hmade with
    ⟨-, ha⟩ | ⟨f, -, ha⟩ | ⟨contents, executable, -, -, hlast, ha⟩ <;> rw [ha]
  · exact ⟨_, [], (List.append_nil _).symm, hkeep, .inl rfl⟩
  · have hkeep' : ∀ st ∈ fs.put (output.tmp.location here.cwd) none ::
        (c.produce here o.timeout source output.tmp
          (fs.put (output.tmp.location here.cwd) none)).states ++
        [fs.put (output.tmp.location here.cwd) none],
        st.at? (output.location here.cwd) = fs.at? (output.location here.cwd) := by
      intro st hst
      rcases List.mem_append.1 hst with hst | hst
      · exact hkeep st hst
      · rw [List.mem_singleton.1 hst]
        exact FileSystem.at?_put_of_ne hne
    cases hs : o.strict with
    | false => exact ⟨_, [], by simp, hkeep', .inl rfl⟩
    | true =>
      refine ⟨_, [(fs.put (output.tmp.location here.cwd) none).put (output.location here.cwd) none],
        by simp, hkeep', .inr ⟨_, rfl, .inr ?_⟩⟩
      rw [lastState_append_singleton]
      exact (hout.put htmp.file (by simp)).discard_eq
  · refine ⟨_, [_], rfl, hkeep, .inr ⟨_, rfl, .inl ?_⟩⟩
    rw [lastState_cons, hlast]
    have hren := (htmp.put htmp.file (by simp)).rename_eq (hout.put htmp.file (by simp))
      (@FileSystem.get?_put_self fs (output.tmp.location here.cwd)
        (some (.file contents executable)))
    rw [hren, FileSystem.put_put]

theorem compile_at?_of_ne : ∀ st ∈ (c.compile here o source output fs).states, ∀ l,
    l ≠ output.location here.cwd → l ≠ output.tmp.location here.cwd → st.at? l = fs.at? l := by
  have hmade := hc.confined o.timeout
  intro st hst l hlo hlt
  have hfirst : (fs.put (output.tmp.location here.cwd) none).at? l = fs.at? l :=
    FileSystem.at?_put_of_ne hlt
  rcases compile_cases (o := o) hout htmp rfl rfl hmade with
    ⟨-, ha⟩ | ⟨f, -, ha⟩ | ⟨contents, executable, -, -, hlast, ha⟩ <;> rw [ha] at hst
  · rcases List.mem_cons.1 hst with rfl | hst
    · exact hfirst
    · exact hmade.at?_of_ne st hst l hlt
  · rcases List.mem_append.1 hst with hst | hst
    · rcases List.mem_cons.1 hst with rfl | hst
      · exact hfirst
      · exact hmade.at?_of_ne st hst l hlt
    · split at hst
      · rcases List.mem_cons.1 hst with rfl | hst
        · exact hfirst
        · rw [List.mem_singleton.1 hst, FileSystem.at?_put_of_ne hlo, hfirst]
      · rw [List.mem_singleton.1 hst, hfirst]
  · rcases List.mem_append.1 hst with hst | hst
    · rcases List.mem_cons.1 hst with rfl | hst
      · exact hfirst
      · exact hmade.at?_of_ne st hst l hlt
    · rw [List.mem_singleton.1 hst, FileSystem.at?_put_of_ne hlo, hfirst]

theorem compile_built {n : Nat} (h : (c.compile here o source output fs).outcome = .built n) :
    ∃ contents executable,
      c.Leaves here.cwd o.timeout source output.tmp (fs.put (output.tmp.location here.cwd) none)
        contents executable ∧
      contents.length = n ∧ 0 < n ∧
      ((c.compile here o source output fs).final fs).at? (output.location here.cwd) =
        some (.file contents executable) ∧
      ((c.compile here o source output fs).final fs).at? (output.tmp.location here.cwd) = none := by
  have hmade := hc.confined o.timeout
  rcases compile_cases (o := o) hout htmp rfl rfl hmade with
    ⟨-, ha⟩ | ⟨f, -, ha⟩ | ⟨contents, executable, hbuilt, hne, hlast, ha⟩ <;> rw [ha] at h ⊢
  · cases h
  · cases h
  · cases h
    obtain ⟨job, time, hs, hend, ht, hstates, -, hn⟩ := produce_built hbuilt
    refine ⟨contents, executable, ⟨job, time, hs, hend, ht, ?_⟩, rfl, hn, ?_, ?_⟩
    · rw [← hstates, hlast, FileSystem.at?_put_self htmp.location_ne_nil]
    · rw [Attempt.final, lastState_append_singleton, FileSystem.at?_put_self hout.location_ne_nil]
    · rw [Attempt.final, lastState_append_singleton, FileSystem.at?_put_of_ne hout.location_tmp_ne,
        FileSystem.at?_put_self htmp.location_ne_nil]

theorem compile_failed {f : Failure} (h : (c.compile here o source output fs).outcome = .failed f) :
    ((c.compile here o source output fs).final fs).at? (output.tmp.location here.cwd) = none ∧
    ((c.compile here o source output fs).final fs).at? (output.location here.cwd) =
      if o.strict then none else fs.at? (output.location here.cwd) := by
  have hmade := hc.confined o.timeout
  rcases compile_cases (o := o) hout htmp rfl rfl hmade with
    ⟨-, ha⟩ | ⟨f', -, ha⟩ | ⟨contents, executable, -, -, hlast, ha⟩ <;> rw [ha] at h ⊢
  · cases h
  · have hgone : (fs.put (output.tmp.location here.cwd) none).at? (output.tmp.location here.cwd) =
        none := FileSystem.at?_put_self htmp.location_ne_nil
    cases hs : o.strict with
    | false =>
      rw [Attempt.final, if_neg Bool.false_ne_true, if_neg Bool.false_ne_true,
        lastState_append_singleton]
      exact ⟨hgone, FileSystem.at?_put_of_ne hout.location_tmp_ne.symm⟩
    | true =>
      rw [Attempt.final, if_pos rfl, if_pos rfl, lastState_append_pair]
      refine ⟨?_, FileSystem.at?_put_self hout.location_ne_nil⟩
      rw [FileSystem.at?_put_of_ne hout.location_tmp_ne, hgone]
  · cases h

/-- A compiler that leaves a file with something in it succeeds, if its time can be told. -/
theorem compile_of_leaves {contents : Bytes} {executable : Bool}
    (hl : c.Leaves here.cwd o.timeout source output.tmp
      (fs.put (output.tmp.location here.cwd) none) contents executable)
    (hne : contents ≠ []) (hd : (Job.deadline? here.now o.timeout).isSome) :
    (c.compile here o source output fs).outcome = .built contents.length := by
  have hmade := hc.confined o.timeout
  obtain ⟨moment, hd⟩ := Option.isSome_iff_exists.1 hd
  obtain ⟨job, time, hs, hend, ht, hfile⟩ := hl
  obtain ⟨hstates, hstatus⟩ := Job.observe_of_ending hend ht
  have hconf := hc job hs
  have hafter : (lastState job.states (fs.put (output.tmp.location here.cwd) none)).size here.cwd
      output.tmp = .ok contents.length := by
    obtain ⟨e, he, hlast⟩ := hconf.lastState (by rw [FileSystem.get?_put_self]; simp)
    rw [hlast, FileSystem.put_put] at hfile ⊢
    rw [FileSystem.at?_put_self htmp.location_ne_nil] at hfile
    subst hfile
    rw [(htmp.put htmp.file he).size_eq, FileSystem.get?_put_self]
  have hbuilt : (c.produce here o.timeout source output.tmp
      (fs.put (output.tmp.location here.cwd) none)).outcome = .built contents.length := by
    rw [produce_of_deadline hs hd, hstates, hstatus, hafter]
    show c.verdict output.tmp o.timeout (some (.exited 0)) (.ok contents.length) = _
    exact verdict_eq_built.2 ⟨rfl, rfl, List.length_pos_iff.2 hne⟩
  rcases compile_cases (o := o) hout htmp rfl rfl hmade with
    ⟨ho, -⟩ | ⟨f, ho, -⟩ | ⟨contents', executable', ho, -, -, ha⟩
  · rw [hbuilt] at ho; cases ho
  · rw [hbuilt] at ho; cases ho
  · rw [ha]
    exact ho.symm.trans hbuilt

theorem compile_abandoned (h : (c.compile here o source output fs).outcome = .abandoned) :
    Job.deadline? here.now o.timeout = none := by
  have hmade := hc.confined o.timeout
  rcases compile_cases (o := o) hout htmp rfl rfl hmade with
    ⟨ho, -⟩ | ⟨f, -, ha⟩ | ⟨contents, executable, -, -, -, ha⟩
  · exact (produce_abandoned_iff.1 ho).1
  · rw [ha] at h; cases h
  · rw [ha] at h; cases h

end

/-- Whatever a compiler does to the temporary file, and whenever it stops, the output shows what was
there before until it is replaced by all of the compiler's output or, in strict mode, deleted. -/
theorem compile_replaces_at_once
    (hout : fs.Admits here.cwd output) (htmp : fs.Admits here.cwd output.tmp)
    (hc : c.WritesOnlyOutput here.cwd source output.tmp
      (fs.put (output.tmp.location here.cwd) none)) :
    let out := output.location here.cwd
    let tmp := output.tmp.location here.cwd
    let attempt := c.compile here o source output fs
    -- The output stays as it was until it is renamed over or deleted, at most once.
    (∃ before after, attempt.states = before ++ after ∧
      (∀ st ∈ before, st.at? out = fs.at? out) ∧
      (after = [] ∨ ∃ st, after = [st] ∧
        ((lastState before fs).rename here.cwd output.tmp output = .ok st ∨
          (lastState before fs).discard here.cwd output = st))) ∧
    (∀ st ∈ attempt.states, ∀ loc, loc ≠ out → loc ≠ tmp → st.at? loc = fs.at? loc) ∧
    (∀ n, attempt.outcome = .built n → ∃ contents executable,
      c.Leaves here.cwd o.timeout source output.tmp (fs.put tmp none) contents executable ∧
      contents.length = n ∧ 0 < n ∧
      (attempt.final fs).at? out = some (.file contents executable) ∧
      (attempt.final fs).at? tmp = none) ∧
    (∀ f, attempt.outcome = .failed f → (attempt.final fs).at? tmp = none ∧
      (attempt.final fs).at? out = if o.strict then none else fs.at? out) ∧
    (∀ contents executable,
      c.Leaves here.cwd o.timeout source output.tmp (fs.put tmp none) contents executable →
      contents ≠ [] → (Job.deadline? here.now o.timeout).isSome →
      attempt.outcome = .built contents.length) ∧
    (attempt.outcome = .abandoned → Job.deadline? here.now o.timeout = none) := by
  refine ⟨compile_before_after hout htmp hc, compile_at?_of_ne hout htmp hc, ?_, ?_, ?_, ?_⟩
  · exact fun n => compile_built hout htmp hc
  · exact fun f => compile_failed hout htmp hc
  · exact fun contents executable => compile_of_leaves hout htmp hc
  · exact compile_abandoned hout htmp hc

/-- A source that waits to be compiled over an older file, next to a stale temporary one. -/
def staleTmpFiles : FileSystem :=
  ((FileSystem.put ⟨[], .nil⟩ ["a.json".toList] (some (.file [1, 2] false))).put ["a.srs".toList]
    (some (.file [3] false))).put ["a.srs.tmp".toList] (some (.file [4] false))

theorem copying_replaces_at_once :
    staleTmpFiles.Admits [] ⟨"a.srs".toList⟩ ∧ staleTmpFiles.Admits [] (Path.tmp ⟨"a.srs".toList⟩) ∧
    (copying []).WritesOnlyOutput [] ⟨"a.json".toList⟩ (Path.tmp ⟨"a.srs".toList⟩)
      (staleTmpFiles.put (Path.location [] (Path.tmp ⟨"a.srs".toList⟩)) none) ∧
    ∃ executable, (((copying []).compile ⟨[], 0⟩ ⟨1000, true⟩ ⟨"a.json".toList⟩ ⟨"a.srs".toList⟩
      staleTmpFiles).final staleTmpFiles).at? ["a.srs".toList] =
        some (.file [1, 2] executable) := by
  have hout : staleTmpFiles.Admits [] ⟨"a.srs".toList⟩ := ⟨by rfl, by decide, by decide⟩
  have htmp : staleTmpFiles.Admits [] (Path.tmp ⟨"a.srs".toList⟩) := ⟨by rfl, by decide, by decide⟩
  have hc := @copying_writesOnlyOutput [] ⟨"a.json".toList⟩ _ _
    (htmp.put (e := none) htmp.file (by simp))
  obtain ⟨-, -, hbuilt, -⟩ := @compile_replaces_at_once (copying []) ⟨[], 0⟩ ⟨1000, true⟩ _ _ _
    hout htmp hc
  obtain ⟨contents, executable, ⟨job, time, hjob, -, -, hleft⟩, -, -, hfile, -⟩ :=
    hbuilt 2 (by rfl)
  cases hjob
  cases hleft
  exact ⟨hout, htmp, hc, _, hfile⟩

end RuleSets.Compiler
