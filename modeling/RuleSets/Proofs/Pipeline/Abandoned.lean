import RuleSets.Proofs.Compiler.Attempt
import RuleSets.Proofs.Pipeline.Run

/-!
# Runs that are abandoned

A compiler's time is over at a moment, and there is none for it where its seconds and those on the
clock reach 2 to the power of 63 together (`Job.deadline?_eq_none_iff`).  Only after a compiler has
been started is that found out, and then everything is given up as it is (`compile_abandoned_iff`).
So a run is abandoned just when it gets as far as starting a compiler (`run_abandoned_iff`).
-/

namespace RuleSets

/-- Whole seconds are added to the seconds of a moment. -/
theorem Job.deadline?_eq_none_iff {now seconds : Nat} :
    deadline? now (seconds * 1000) = none ↔ Nat.pow 2 63 ≤ now / 1000 + seconds := by
  have hpos : 0 < Nat.pow 2 63 := by decide
  have hsum : (now + seconds * 1000) / 1000 = now / 1000 + seconds :=
    Nat.add_mul_div_right now seconds (by decide)
  rw [deadline?, hsum, maxSeconds]
  split
  · rename_i h
    simp only [reduceCtorEq, false_iff]
    omega
  · rename_i h
    simp only [true_iff]
    omega

/-! ### Attempts -/

namespace Compiler

variable {c : Compiler} {here : Surroundings} {o : Options} {source output : Path}
  {fs fs₁ : FileSystem} {job : Job} {states : List FileSystem}

/-- Whether an attempt deletes the temporary file of an earlier one and then starts its compiler. -/
structure Starts (c : Compiler) (cwd : Location) (source output : Path) (fs fs₁ : FileSystem)
    (job : Job) : Prop where
  cleared : fs.removeIfPresent cwd output.tmp = .ok fs₁
  started : c.start source output.tmp fs₁ = .ok job

theorem Starts.abandoned (h : c.Starts here.cwd source output fs fs₁ job)
    (hd : Job.deadline? here.now o.timeout = none) :
    c.compile here o source output fs = ⟨fs₁ :: job.states, .abandoned⟩ := by
  simp only [compile, h.cleared, produce_of_overflow h.started hd]

/-- An attempt is abandoned just when its compiler has been started and its time has no end.  Then
nothing has been done but to delete the temporary file, and the compiler goes on. -/
theorem compile_eq_abandoned_iff : c.compile here o source output fs = ⟨states, .abandoned⟩ ↔
    Job.deadline? here.now o.timeout = none ∧
      ∃ fs₁ job, c.Starts here.cwd source output fs fs₁ job ∧ fs₁ :: job.states = states := by
  constructor
  · intro h
    have hd : Job.deadline? here.now o.timeout = none ∧
        ∃ fs₁ job, c.Starts here.cwd source output fs fs₁ job := by
      rcases hr : fs.removeIfPresent here.cwd output.tmp with e | fs₁
      · simp [compile, hr] at h
      rcases ho : (c.produce here o.timeout source output.tmp fs₁).outcome with n | f | _
      · simp only [compile, hr, ho] at h
        split at h <;> cases h
      · simp [compile, hr, ho] at h
      · obtain ⟨hd, job, hjob⟩ := produce_abandoned_iff.1 ho
        exact ⟨hd, fs₁, job, ⟨hr, hjob⟩⟩
    obtain ⟨hd, fs₁, job, hstarts⟩ := hd
    rw [hstarts.abandoned hd] at h
    exact ⟨hd, fs₁, job, hstarts, congrArg Attempt.states h⟩
  · rintro ⟨hd, fs₁, job, hstarts, rfl⟩
    exact hstarts.abandoned hd

theorem compile_abandoned_iff : (c.compile here o source output fs).outcome = .abandoned ↔
    Job.deadline? here.now o.timeout = none ∧
      ∃ fs₁ job, c.Starts here.cwd source output fs fs₁ job := by
  constructor
  · intro h
    obtain ⟨hd, fs₁, job, hstarts, -⟩ := compile_eq_abandoned_iff.1
      (show c.compile here o source output fs = ⟨_, .abandoned⟩ by rw [← h])
    exact ⟨hd, fs₁, job, hstarts⟩
  · rintro ⟨hd, fs₁, job, hstarts⟩
    rw [hstarts.abandoned hd]

end Compiler

/-! ### Building -/

namespace Pipeline

variable {p : Pipeline} {sources : List Source} {s : Source} {fs : FileSystem} {t : Target}
  {c : Compiler} {name : Text} {b : Bucket}

/-- Whether the building of a target gets as far as starting its compiler. -/
def StartsTarget (p : Pipeline) (name : Text) (b : Bucket) (tc : Target × Compiler)
    (fs : FileSystem) : Prop :=
  tc.1.hasContent b = true ∧ ∃ fs₁,
    fs.write p.here.cwd (p.options.sourcePath tc.1 name)
      (Utf8.encode (tc.1.render b p.options.version)) = .ok fs₁ ∧
    ∃ fs₂ job, tc.2.Starts p.here.cwd (p.options.sourcePath tc.1 name)
      (p.options.artifactPath tc.1 name) fs₁ fs₂ job

/-- Whether a compiler is started when targets are built one after the other. -/
def StartsTargets (p : Pipeline) (name : Text) (b : Bucket) :
    List (Target × Compiler) → FileSystem → Prop
  | [], _ => False
  | (t, c) :: rest, fs => p.StartsTarget name b (t, c) fs ∨
      p.StartsTargets name b rest (p.buildTarget t c name b fs).1

/-- Whether a compiler is started when a source is built. -/
def StartsSource (p : Pipeline) (s : Source) (fs : FileSystem) : Prop :=
  ∃ text, p.fetch fs s.url = .ok text ∧ (bucketOf s.hint text).isEmpty = false ∧
    p.StartsTargets s.name (bucketOf s.hint text) p.compilers fs

/-- Whether a compiler is started when sources are built one after the other. -/
def StartsSources (p : Pipeline) : List Source → FileSystem → Prop
  | [], _ => False
  | s :: rest, fs => p.StartsSource s fs ∨ p.StartsSources rest (p.build s fs).1

/-- Whether a run starts a compiler. -/
def StartsCompiler (p : Pipeline) (sources : List Source) (fs : FileSystem) : Prop :=
  (p.prepare fs).2 = .ok () ∧ p.StartsSources sources (p.prepare fs).1

/-- Whether the time of the compilers has no end. -/
abbrev NeverEnds (p : Pipeline) : Prop :=
  Job.deadline? p.here.now p.options.compile.timeout = none

theorem buildTarget_eq_none_iff : (p.buildTarget t c name b fs).2 = none ↔
    p.NeverEnds ∧ p.StartsTarget name b (t, c) fs := by
  unfold buildTarget StartsTarget
  dsimp only
  cases hcontent : t.hasContent b with
  | false => simp
  | true =>
    rcases hw : fs.write p.here.cwd (p.options.sourcePath t name)
      (Utf8.encode (t.render b p.options.version)) with e | fs₁
    · simp
    have habandoned := @Compiler.compile_abandoned_iff c p.here p.options.compile
      (p.options.sourcePath t name) (p.options.artifactPath t name) fs₁
    simp only [Bool.not_true, Bool.false_eq_true, if_false, true_and, Except.ok.injEq,
      exists_eq_left', ← habandoned]
    rcases (c.compile p.here p.options.compile (p.options.sourcePath t name)
      (p.options.artifactPath t name) fs₁).outcome with n | f | _ <;> simp

theorem buildTargets_eq_none_iff {cs : List (Target × Compiler)} :
    (p.buildTargets name b cs fs).2 = none ↔ p.NeverEnds ∧ p.StartsTargets name b cs fs := by
  induction cs generalizing fs with
  | nil => simp [buildTargets, StartsTargets]
  | cons tc cs ih =>
    obtain ⟨t, c⟩ := tc
    have hone := @buildTarget_eq_none_iff p fs t c name b
    rw [buildTargets, StartsTargets]
    rcases hb : p.buildTarget t c name b fs with ⟨fs₁, _ | status⟩ <;> rw [hb] at hone
    · obtain ⟨hend, hstarts⟩ := hone.1 rfl
      exact ⟨fun _ => ⟨hend, .inl hstarts⟩, fun _ => rfl⟩
    · dsimp only
      rw [Option.map_eq_none_iff, ih, and_or_left, ← hone]
      simp

theorem build_eq_none_iff : (p.build s fs).2 = none ↔ p.NeverEnds ∧ p.StartsSource s fs := by
  unfold build StartsSource
  cases p.fetch fs s.url with
  | error f => simp
  | ok text =>
    dsimp only
    rw [show extractDocument (Format.ofDocument s.hint (Document.parse text) text)
      (Document.parse text) text = bucketOf s.hint text from rfl]
    cases hempty : (bucketOf s.hint text).isEmpty with
    | true => simp [hempty]
    | false => simp [hempty, buildTargets_eq_none_iff]

theorem buildAll_eq_none_iff :
    (p.buildAll sources fs).2 = none ↔ p.NeverEnds ∧ p.StartsSources sources fs := by
  induction sources generalizing fs with
  | nil => simp [buildAll, StartsSources]
  | cons s rest ih =>
    have hone := @build_eq_none_iff p s fs
    rw [buildAll, StartsSources]
    rcases hb : p.build s fs with ⟨fs₁, _ | result⟩ <;> rw [hb] at hone
    · obtain ⟨hend, hstarts⟩ := hone.1 rfl
      exact ⟨fun _ => ⟨hend, .inl hstarts⟩, fun _ => rfl⟩
    · dsimp only
      rw [Option.map_eq_none_iff, ih, and_or_left, ← hone]
      simp

/-- A run is abandoned just when it starts a compiler whose time has no end. -/
theorem run_abandoned_iff : (∃ g, p.run sources fs = (g, .abandoned)) ↔
    p.NeverEnds ∧ p.StartsCompiler sources fs := by
  rw [StartsCompiler, run]
  rcases p.prepare fs with ⟨fs₁, e | _⟩
  · simp
  have hall := @buildAll_eq_none_iff p sources fs₁
  dsimp only
  rcases hb : p.buildAll sources fs₁ with ⟨fs₂, _ | results⟩ <;> rw [hb] at hall
  · simpa using hall
  · simpa using hall

/-- A run finishes if its directories can be made and the end of its compilers' time can be told. -/
theorem run_finishes (hend : (Job.deadline? p.here.now p.options.compile.timeout).isSome)
    (hprepared : (p.prepare fs).2 = .ok ()) :
    ∃ g summary, p.run sources fs = (g, .finished summary) := by
  have hbuilt : (p.buildAll sources (p.prepare fs).1).2 ≠ none := fun hnone => by
    rw [(buildAll_eq_none_iff.1 hnone).1] at hend
    cases hend
  obtain ⟨results, hresults⟩ := Option.ne_none_iff_exists'.1 hbuilt
  exact ⟨_, ⟨results, _⟩, run_eq_finished.2 ⟨hprepared, hresults, rfl⟩⟩

end Pipeline
end RuleSets
