import Mathlib.Data.List.Basic
import RuleSets.Proofs.FileSystem.Directory
import RuleSets.Proofs.Pipeline.Build
import RuleSets.Proofs.Pipeline.Sweep

/-!
# Runs

Under the hypotheses of `Orderly` a run does the tasks of its sources and then sweeps the orphans
(`Orderly.finished`), and it finishes whenever no compiler is abandoned (`Orderly.finishes`).  The
hypotheses are about the state after the directories were made, which holds nothing new but
directories (`prepare_extends`).
-/

namespace RuleSets

namespace Pipeline

variable {p : Pipeline} {effects : Effects} {sources : List Source} {fs g : FileSystem}
  {summary : Summary}

/-- The directories of a run: the one of emitted sources and those of compiled files. -/
def directories (p : Pipeline) : List Path :=
  p.options.workDir :: p.targets.map p.options.artifactDir

/-- Make one directory of a run, unless one before it could not be made. -/
def makeNext (p : Pipeline) : FileSystem × Except IoError Unit → Path →
    FileSystem × Except IoError Unit
  | (fs, .ok ()), dir => fs.makeDirectories p.here.cwd dir
  | (fs, .error e), _ => (fs, .error e)

theorem prepare_eq (p : Pipeline) (fs : FileSystem) :
    p.prepare fs = p.directories.foldl p.makeNext (fs, .ok ()) := by
  refine List.foldl_ext _ _ _ fun st dir _ => ?_
  obtain ⟨fs, e | _⟩ := st <;> rfl

theorem foldl_makeNext_error (dirs : List Path) (fs : FileSystem) (e : IoError) :
    dirs.foldl p.makeNext (fs, .error e) = (fs, .error e) := by
  induction dirs with
  | nil => rfl
  | cons dir dirs ih => exact ih

section
variable {R : FileSystem → FileSystem → Prop} (hrefl : ∀ fs, R fs fs)
  (htrans : ∀ fs fs' fs'', R fs fs' → R fs' fs'' → R fs fs'')
include hrefl htrans

theorem foldl_makeNext_induction {dirs : List Path}
    (hstep : ∀ dir ∈ dirs, ∀ fs, R fs (fs.makeDirectories p.here.cwd dir).1)
    (st : FileSystem × Except IoError Unit) : R st.1 (dirs.foldl p.makeNext st).1 := by
  induction dirs generalizing st with
  | nil => exact hrefl st.1
  | cons dir dirs ih =>
    rw [List.forall_mem_cons] at hstep
    refine htrans _ _ _ ?_ (ih hstep.2 _)
    obtain ⟨fs₁, e | _⟩ := st
    · exact hrefl fs₁
    · exact hstep.1 fs₁

/-- What holds of making each directory of a run holds of making all of them. -/
theorem prepare_induction
    (hstep : ∀ dir ∈ p.directories, ∀ fs, R fs (fs.makeDirectories p.here.cwd dir).1)
    (fs : FileSystem) : R fs (p.prepare fs).1 := by
  rw [prepare_eq]
  exact foldl_makeNext_induction hrefl htrans hstep (fs, .ok ())

end

theorem prepare_extends (p : Pipeline) (fs : FileSystem) : FileSystem.Extends (p.prepare fs).1 fs :=
  prepare_induction (R := fun fs fs' => FileSystem.Extends fs' fs) .refl (fun _ _ _ h h' => h'.trans h)
    (fun dir _ fs => fs.makeDirectories_extends p.here.cwd dir) fs

/-- If the directories of a run could be made, they are there. -/
theorem isDirectory_of_prepare (h : (p.prepare fs).2 = .ok ()) :
    ∀ dir ∈ p.directories, dir.text = [] ∨ (p.prepare fs).1.isDirectory p.here.cwd dir = true := by
  rw [prepare_eq] at h ⊢
  generalize p.directories = dirs at h ⊢
  induction dirs generalizing fs with
  | nil => exact fun dir hdir => absurd hdir List.not_mem_nil
  | cons dir dirs ih =>
    rw [List.foldl_cons, makeNext] at h ⊢
    rcases hm : fs.makeDirectories p.here.cwd dir with ⟨fs₁, e | _⟩ <;> rw [hm] at h
    · rw [foldl_makeNext_error] at h
      cases h
    have hkeeps : FileSystem.KeepsDirectories fs₁ (dirs.foldl p.makeNext (fs₁, .ok ())).1 :=
      foldl_makeNext_induction (R := FileSystem.KeepsDirectories) (fun _ _ hl => hl)
        (fun _ _ _ h h' l hl => h' l (h l hl))
        (fun dir _ fs => (fs.makeDirectories_extends p.here.cwd dir).keeps) (fs₁, .ok ())
    rw [List.forall_mem_cons]
    refine ⟨?_, ih h⟩
    by_cases hdir : dir.text = []
    · exact .inl hdir
    · have hmade := FileSystem.isDirectory_of_makeDirectories hdir (congrArg Prod.snd hm)
      rw [hm] at hmade
      exact .inr (FileSystem.isDirectory_mono hkeeps hmade)

theorem foldl_eq_self {σ α : Type} {f : σ → α → σ} {s : σ} {xs : List α}
    (h : ∀ x ∈ xs, f s x = s) : xs.foldl f s = s := by
  induction xs with
  | nil => rfl
  | cons x xs ih =>
    rw [List.forall_mem_cons] at h
    rw [List.foldl_cons, h.1]
    exact ih h.2

/-- The directories of a run that are there are not made again. -/
theorem prepare_eq_self (h : ∀ dir ∈ p.directories,
    dir.text = [] ∨ fs.isDirectory p.here.cwd dir = true) : p.prepare fs = (fs, .ok ()) := by
  rw [prepare_eq]
  exact foldl_eq_self fun dir hdir => FileSystem.makeDirectories_of_isDirectory (h dir hdir)

theorem targets_withCompiler_sublist (p : Pipeline) (t : Target) (c : Compiler) :
    (p.withCompiler t c).targets.Sublist Target.all := by
  rw [targets, withCompiler]
  induction Target.all with
  | nil => exact List.Sublist.refl _
  | cons u us ih =>
    rw [List.filterMap_cons]
    split
    · exact ih.cons u
    · rename_i tc htc
      have hu : tc.1 = u := by
        split at htc
        · rename_i h
          rw [← Option.some.inj htc, h]
        · have hfound : (tc.1 == u) = true := by simpa using List.find?_some htc
          exact eq_of_beq hfound
      rw [List.map_cons, hu]
      exact ih.cons_cons u

/-- Enabling targets one after the other enables none twice. -/
theorem targets_withCompiler_nodup (p : Pipeline) (t : Target) (c : Compiler) :
    (p.withCompiler t c).targets.Nodup :=
  (targets_withCompiler_sublist p t c).nodup (by decide)

/-- A run finishes if it makes its directories and builds its sources; then it sweeps the orphans. -/
theorem run_eq_finished : p.run sources fs = (g, .finished summary) ↔
    (p.prepare fs).2 = .ok () ∧
    (p.buildAll sources (p.prepare fs).1).2 = some summary.results ∧
    removeOrphans p.here.cwd p.options p.targets (sources.map (·.name))
      (p.buildAll sources (p.prepare fs).1).1 = (g, summary.orphans) := by
  rw [run]
  rcases p.prepare fs with ⟨fs₁, e | _⟩
  · simp
  dsimp only
  rcases p.buildAll sources fs₁ with ⟨fs₂, _ | results⟩
  · simp
  rcases hsweep : removeOrphans p.here.cwd p.options p.targets (sources.map (·.name)) fs₂ with
    ⟨fs₃, orphans⟩
  obtain ⟨results', orphans'⟩ := summary
  simp only [hsweep, Prod.mk.injEq, Ran.finished.injEq, Summary.mk.injEq, Option.some.injEq, true_and]
  constructor
  · rintro ⟨hg, hresults, horphans⟩
    exact ⟨hresults, hg, horphans⟩
  · rintro ⟨hresults, hg, horphans⟩
    exact ⟨hg, hresults, horphans⟩

/-- What runs on real file systems and with real compilers are taken to satisfy. -/
structure Orderly (p : Pipeline) (effects : Effects) (sources : List Source) (fs : FileSystem) :
    Prop where
  /-- Compilers are functions of their sources and write nothing but their output. -/
  computes : p.Computes effects
  targets : p.targets.Nodup
  names : (sources.map (·.name)).Nodup
  safe : ∀ s ∈ sources, Manifest.isSafeName s.name = true
  /-- The directories can be made. -/
  prepared : (p.prepare fs).2 = .ok ()
  /-- Then every file of the run is absent or a regular file, and its path leads to it. -/
  admits : p.options.Admits p.here.cwd p.targets (sources.map (·.name)) (p.prepare fs).1
  directory : ∀ t ∈ p.targets, (p.prepare fs).1.lookup p.here.cwd (p.options.artifactDir t) =
    .ok ((p.options.artifactDir t).location p.here.cwd, .directory)
  /-- The paths of the files in a directory of compiled files lead to them. -/
  reach : ∀ t ∈ p.targets, ∀ file,
    (p.prepare fs).1.get? ((p.options.artifactDir t).location p.here.cwd ++ [file]) ≠ none →
    (p.prepare fs).1.resolve p.here.cwd ((p.options.artifactDir t).join ⟨file⟩) =
      .ok ((p.options.artifactDir t).location p.here.cwd ++ [file])

namespace Orderly

variable (h : p.Orderly effects sources fs)
include h

theorem build : (p.buildAll sources (p.prepare fs).1).2 =
      (p.answers sources (p.prepare fs).1).mapM (fun sa => p.result? effects sa.1 sa.2) ∧
    ((p.buildAll sources (p.prepare fs).1).2 ≠ none →
      AllDone (p.allTasks sources (p.prepare fs).1) effects p.options p.here.cwd (p.prepare fs).1
        (p.buildAll sources (p.prepare fs).1).1) :=
  buildAll_spec h.computes h.targets h.names h.safe h.admits

theorem finished (hrun : p.run sources fs = (g, .finished summary)) : ∃ fs₂,
    AllDone (p.allTasks sources (p.prepare fs).1) effects p.options p.here.cwd (p.prepare fs).1 fs₂ ∧
    (p.answers sources (p.prepare fs).1).mapM (fun sa => p.result? effects sa.1 sa.2) =
      some summary.results ∧
    removeOrphans p.here.cwd p.options p.targets (sources.map (·.name)) fs₂ =
      (g, summary.orphans) := by
  obtain ⟨hresults, hdone⟩ := h.build
  obtain ⟨-, hbuilt, hsweep⟩ := run_eq_finished.1 hrun
  exact ⟨_, hdone (by rw [hbuilt]; simp), hresults ▸ hbuilt, hsweep⟩

theorem finishes {results : List BuildResult}
    (hresults : (p.answers sources (p.prepare fs).1).mapM (fun sa => p.result? effects sa.1 sa.2) =
      some results) : ∃ g summary, p.run sources fs = (g, .finished summary) :=
  ⟨_, ⟨results, _⟩, run_eq_finished.2 ⟨h.prepared, h.build.1.trans hresults, rfl⟩⟩

theorem sameDirectories {fs₂ : FileSystem}
    (hdone : AllDone (p.allTasks sources (p.prepare fs).1) effects p.options p.here.cwd
      (p.prepare fs).1 fs₂) : FileSystem.SameDirectories (p.prepare fs).1 fs₂ := by
  refine hdone.sameDirectories fun x hx role => ?_
  obtain ⟨ht, s, hs, hn⟩ := of_mem_allTasks hx
  exact h.admits x.target ht x.name (hn ▸ List.mem_map_of_mem hs) role

/-- Sweeping after the tasks deletes exactly the orphans. -/
theorem swept {fs₂ : FileSystem}
    (hdone : AllDone (p.allTasks sources (p.prepare fs).1) effects p.options p.here.cwd
      (p.prepare fs).1 fs₂) :
    SweptAt (Orphaned p.options p.here.cwd p.targets (sources.map (·.name))) fs₂
      (removeOrphans p.here.cwd p.options p.targets (sources.map (·.name)) fs₂).1 := by
  have hsame := h.sameDirectories hdone
  refine removeOrphans_spec (fun t ht => ?_) fun t ht file horphan hne => ?_
  · exact FileSystem.lookup_directory_congr hsame (h.directory t ht)
  refine FileSystem.resolve_congr hsame (h.reach t ht file ?_)
  -- A task makes no orphan, so an orphan that is there after the tasks was there before them.
  by_cases hl : ∃ x ∈ p.allTasks sources (p.prepare fs).1, ∃ role,
      (p.options.artifactDir t).location p.here.cwd ++ [file] = x.place p.options p.here.cwd role
  · obtain ⟨x, hx, role, he⟩ := hl
    obtain ⟨hxt, s, hs, hn⟩ := of_mem_allTasks hx
    have hsafe : Manifest.isSafeName x.name = true := hn ▸ h.safe s hs
    rw [he] at horphan hne ⊢
    cases role with
    | artifact =>
      exact absurd horphan (not_orphaned_artifact hxt (hn ▸ List.mem_map_of_mem hs) hsafe)
    | tmp => exact Task.entry_tmp (hdone.own x hx .tmp ▸ hne)
    | source => exact absurd horphan (not_orphaned_source hsafe)
  · rwa [hdone.frame _ fun x hx role he => hl ⟨x, hx, role, he⟩] at hne

/-- A run that finishes leaves what its tasks have left, without the orphans. -/
theorem tasks_swept (hrun : p.run sources fs = (g, .finished summary)) : ∃ fs₂,
    AllDone (p.allTasks sources (p.prepare fs).1) effects p.options p.here.cwd (p.prepare fs).1 fs₂ ∧
    SweptAt (Orphaned p.options p.here.cwd p.targets (sources.map (·.name))) fs₂ g := by
  obtain ⟨fs₂, hdone, -, hsweep⟩ := h.finished hrun
  have hswept := h.swept hdone
  rw [hsweep] at hswept
  exact ⟨fs₂, hdone, hswept⟩

theorem artifact (hrun : p.run sources fs = (g, .finished summary))
    {sa : Source × Except Failure Text} (hsa : sa ∈ p.answers sources (p.prepare fs).1)
    {tc : Target × Compiler} (htc : tc ∈ p.compilers) :
    g.get? (p.options.place p.here.cwd tc.1 sa.1.name .artifact) =
      (p.task sa.1 sa.2 tc).entry effects p.options .artifact
        ((p.prepare fs).1.get? (p.options.place p.here.cwd tc.1 sa.1.name .artifact)) := by
  obtain ⟨fs₂, hdone, hswept⟩ := h.tasks_swept hrun
  have hs : sa.1 ∈ sources := mem_of_mem_answers hsa
  have hfree := hswept.frame _ (not_orphaned_artifact (List.mem_map_of_mem htc)
    (List.mem_map_of_mem hs) (h.safe _ hs))
  obtain ⟨ht, -, hn⟩ := p.task_target sa.1 sa.2 tc
  have hown := hdone.own _ (mem_allTasks.2 ⟨sa, hsa, tc, htc, rfl⟩) .artifact
  rw [Task.place, ht, hn] at hown
  exact hfree.trans hown

end Orderly

/-! ### An orderly run -/

/-- A pipeline that copies the emitted sources of sing-box. -/
def srsCopier : Pipeline :=
  withCompiler ⟨⟨[], 0⟩, fun _ url => .ok url, [], {}⟩ .singBox (Compiler.copying [])

/-- A file of an earlier run, of a source that is not among those to build. -/
def orphanFiles : FileSystem :=
  ((FileSystem.put ∅ ["dist".toList] (some .directory)).put
    ["dist".toList, "singbox".toList] (some .directory)).put
    ["dist".toList, "singbox".toList, "old.srs".toList] (some (.file [] false))

/-- What copying compilers make of their sources. -/
def copies : Effects := fun _ contents => .ran (some (.exited 0)) (some ⟨contents, false⟩)

/-- A source with rules and one without. -/
def twoSources : List Source :=
  [⟨"a".toList, "example.com".toList, .fixed .domainText⟩, ⟨"b".toList, [], .fixed .domainText⟩]

theorem srsCopier_orderly {sources : List Source} (hsub : ∀ s ∈ sources, s ∈ twoSources)
    (hnodup : (sources.map (·.name)).Nodup) : srsCopier.Orderly copies sources orphanFiles where
  computes := by
    intro tc htc
    rw [List.mem_singleton.1 htc]
    exact Compiler.copying_computes (by decide)
  targets := targets_withCompiler_nodup _ _ _
  names := hnodup
  safe s hs := by
    have hall : ∀ s ∈ twoSources, Manifest.isSafeName s.name = true := by decide
    exact hall s (hsub s hs)
  prepared := by rfl
  admits := by
    intro t ht n hn role
    obtain rfl := List.mem_singleton.1 ht
    obtain ⟨s, hs, rfl⟩ := List.mem_map.1 hn
    have hs := hsub s hs
    simp only [twoSources, List.mem_cons, List.not_mem_nil, or_false] at hs
    rcases hs with rfl | rfl <;> cases role <;> exact ⟨by rfl, by decide, by decide⟩
  directory := by
    intro t ht
    obtain rfl := List.mem_singleton.1 ht
    rfl
  reach := by
    intro t ht file hne
    obtain rfl := List.mem_singleton.1 ht
    have hmem := FileSystem.mem_names.2 hne
    have hnames : (srsCopier.prepare orphanFiles).1.names
        ((srsCopier.options.artifactDir .singBox).location srsCopier.here.cwd) =
          ["old.srs".toList] := by rfl
    rw [hnames] at hmem
    rw [List.mem_singleton.1 hmem]
    rfl
end Pipeline
end RuleSets
