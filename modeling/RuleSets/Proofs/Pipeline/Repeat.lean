import RuleSets.Proofs.FileSystem.Tree
import RuleSets.Proofs.Pipeline.Isolation

/-!
# Running again

A run that meets what an earlier run has left, and gets the same answers, changes nothing and tells
the same, but for the orphans, of which there are none any more (`run_again`).  What a task makes of
its files it makes of them again (`Task.entry_entry`), and there is nothing left to sweep
(`removeOrphans_eq_self`).
-/

namespace RuleSets

namespace Compiler.Effect

theorem result_result (effect : Effect) (strict : Bool) (old : Option Entry) :
    effect.result strict (effect.result strict old) = effect.result strict old := by
  unfold result
  cases effect.product? with
  | some product => rfl
  | none => cases strict <;> rfl

end Compiler.Effect

namespace Pipeline

variable {p : Pipeline} {effects : Effects} {sources : List Source} {fs g : FileSystem}
  {summary : Summary} {o : Options} {targets : List Target} {names : List Text} {cwd : Location}

theorem Task.entry_entry (x : Task) (effects : Effects) (o : Options) (role : Role)
    (old : Option Entry) :
    x.entry effects o role (x.entry effects o role old) = x.entry effects o role old := by
  obtain ⟨t, c, name, text | text⟩ := x
  · cases role with
    | source => rfl
    | artifact => simp only [entry]; cases o.compile.strict <;> rfl
    | tmp => simp only [entry]; cases o.compile.strict <;> rfl
  · cases role with
    | tmp => rfl
    | artifact => exact Compiler.Effect.result_result _ _ _
    | source =>
      simp only [entry]
      cases o.keepSources <;> rfl

/-! ### Nothing to sweep -/

/-- Where there are no files among the orphans, sweeping does nothing. -/
theorem removeFiles_eq_self {dir : Path} {q : Text → Bool}
    (hloc : ∀ file, fs.get? (dir.location cwd ++ [file]) ≠ none →
      (dir.join ⟨file⟩).location cwd = dir.location cwd ++ [file])
    (hfree : ∀ file, q file = true → ∀ contents executable,
      fs.get? (dir.location cwd ++ [file]) ≠ some (.file contents executable)) :
    removeFiles cwd dir q fs = (fs, 0) := by
  rw [removeFiles]
  rcases hlist : fs.list cwd dir with e | files
  · rfl
  refine foldl_eq_self fun file hfile => ?_
  obtain ⟨hmem, hq⟩ := List.mem_filter.1 hfile
  dsimp only
  rcases hr : fs.remove cwd (dir.join ⟨file⟩) with e | fs'
  · rfl
  · obtain ⟨-, ⟨contents, executable, hat⟩, -⟩ := FileSystem.remove_eq_ok hr
    rw [hloc file (FileSystem.mem_list hlist hmem), FileSystem.at?_eq_get? _ (by simp)] at hat
    exact absurd hat (hfree file hq contents executable)

theorem removeOrphans_eq_self
    (hloc : ∀ t ∈ targets, ∀ file, fs.get? ((o.artifactDir t).location cwd ++ [file]) ≠ none →
      ((o.artifactDir t).join ⟨file⟩).location cwd = (o.artifactDir t).location cwd ++ [file])
    (hfree : ∀ l, Orphaned o cwd targets names l → ∀ contents executable,
      fs.get? l ≠ some (.file contents executable)) :
    removeOrphans cwd o targets names fs = (fs, 0) := by
  have hgroup := (byDirectory_groups o targets).1
  refine foldl_eq_self fun group hg => ?_
  obtain ⟨t, ht, hdir⟩ := (hgroup group hg).directory
  have hmem := (((hgroup group hg).mem_iff t).1 ht).1
  have hself : removeFiles cwd group.1 (isOrphan group.2 names) fs = (fs, 0) :=
    removeFiles_eq_self (hdir ▸ hloc t hmem) fun file hfile =>
      hfree _ (orphaned_iff.2 ⟨group, hg, file, hfile, rfl⟩)
  dsimp only
  rw [hself]
  rfl

/-! ### The file system after a run -/

namespace Orderly

variable (h : p.Orderly effects sources fs) (hrun : p.run sources fs = (g, .finished summary))
include h hrun

theorem sameDirectories_of_run : FileSystem.SameDirectories (p.prepare fs).1 g := by
  obtain ⟨fs₂, hdone, hswept⟩ := h.tasks_swept hrun
  exact (h.sameDirectories hdone).trans hswept.sameDirectories

theorem prepare_again : p.prepare g = (g, .ok ()) := by
  refine prepare_eq_self fun dir hdir => ?_
  exact (isDirectory_of_prepare h.prepared dir hdir).imp_right
    (FileSystem.isDirectory_mono (h.sameDirectories_of_run hrun).keeps)

theorem admits_again : p.options.Admits p.here.cwd p.targets (sources.map (·.name)) g :=
  fun t ht n hn role => (h.admits t ht n hn role).congr (h.sameDirectories_of_run hrun)

theorem no_orphan_again {l : Location}
    (hl : Orphaned p.options p.here.cwd p.targets (sources.map (·.name)) l) (contents : Bytes)
    (executable : Bool) : g.get? l ≠ some (.file contents executable) := by
  obtain ⟨fs₂, hdone, hswept⟩ := h.tasks_swept hrun
  rw [hswept.own l hl]
  exact swept_ne_file

/-- Every file of a task is one that the task would make of itself. -/
theorem entry_again {x : Task} (hx : x ∈ p.allTasks sources (p.prepare fs).1) (role : Role) :
    x.entry effects p.options role (g.get? (x.place p.options p.here.cwd role)) =
      g.get? (x.place p.options p.here.cwd role) := by
  obtain ⟨fs₂, hdone, hswept⟩ := h.tasks_swept hrun
  obtain ⟨ht, s, hs, hn⟩ := of_mem_allTasks hx
  have hmem : x.name ∈ sources.map (·.name) := hn ▸ List.mem_map_of_mem hs
  have hsafe : Manifest.isSafeName x.name = true := hn ▸ h.safe s hs
  have hagain (role : Role) (hfree : ¬ Orphaned p.options p.here.cwd p.targets (sources.map (·.name))
      (x.place p.options p.here.cwd role)) : x.entry effects p.options role
        (g.get? (x.place p.options p.here.cwd role)) = g.get? (x.place p.options p.here.cwd role) := by
    rw [hswept.frame _ hfree, hdone.own x hx role]
    exact x.entry_entry ..
  cases role with
  | artifact => exact hagain .artifact (not_orphaned_artifact ht hmem hsafe)
  | source => exact hagain .source (not_orphaned_source hsafe)
  | tmp =>
    have hgone : g.get? (x.place p.options p.here.cwd .tmp) = none := by
      have hadm := h.admits_again hrun x.target ht x.name hmem .tmp
      refine hadm.file_or_none.resolve_right ?_
      rintro ⟨contents, executable, hat⟩
      exact h.no_orphan_again hrun (orphaned_tmp ht hsafe) contents executable hat
    rw [hgone]
    exact Classical.not_not.1 fun hne => Task.entry_tmp hne rfl

theorem location_again {t : Target} (ht : t ∈ p.targets) {file : Text}
    (hne : g.get? ((p.options.artifactDir t).location p.here.cwd ++ [file]) ≠ none) :
    ((p.options.artifactDir t).join ⟨file⟩).location p.here.cwd =
      (p.options.artifactDir t).location p.here.cwd ++ [file] := by
  obtain ⟨fs₂, hdone, hswept⟩ := h.tasks_swept hrun
  by_cases hown : ∃ x ∈ p.allTasks sources (p.prepare fs).1, ∃ role,
      (p.options.artifactDir t).location p.here.cwd ++ [file] = x.place p.options p.here.cwd role
  · obtain ⟨x, hx, role, he⟩ := hown
    obtain ⟨-, s, hs, hn⟩ := of_mem_allTasks hx
    have hsafe : Manifest.isSafeName x.name = true := hn ▸ h.safe s hs
    rw [Task.place, Options.place_eq hsafe] at he
    obtain rfl : file = fileName x.target x.name role := (List.cons.inj (List.append_inj' he rfl).2).1
    exact Path.location_join _ _ (isName_fileName hsafe)
  · have hbefore := hswept.ne_none hne
    rw [hdone.frame _ fun x hx role he => hown ⟨x, hx, role, he⟩] at hbefore
    exact FileSystem.location_of_resolve (h.reach t ht file hbefore)

end Orderly

/-! ### The second run -/

/-- A pipeline at another time of day. -/
def atTime (p : Pipeline) (now : Nat) : Pipeline := { p with here := { p.here with now } }

/-- What a finished run tells of its sources it tells of them at every other time, if it finishes. -/
theorem results_again {now : Nat} {results : List BuildResult}
    {answers : List (Source × Except Failure Text)}
    (hnow : now = p.here.now ∨ (Job.deadline? now p.options.compile.timeout).isSome)
    (h : answers.mapM (fun sa => p.result? effects sa.1 sa.2) = some results) :
    answers.mapM (fun sa => (p.atTime now).result? effects sa.1 sa.2) = some results := by
  obtain ⟨hall, rfl⟩ := mapM_eq_some.1 h
  rcases hnow with rfl | hend
  · exact h
  · refine mapM_eq_some.2 ⟨fun sa _ => result?_ne_none hend, List.filterMap_congr fun sa hsa => ?_⟩
    obtain ⟨r, hr⟩ := Option.ne_none_iff_exists'.1 (hall sa hsa)
    obtain ⟨r', hr'⟩ := Option.ne_none_iff_exists'.1
      (@result?_ne_none (p.atTime now) effects sa.1 sa.2 hend)
    have hoptions : (p.atTime now).options = p.options := rfl
    rw [hr, hr', result_congr rfl rfl hoptions rfl hr hr']

/-- A run that meets what an earlier run has left and gets the same answers leaves every file as it
is, and tells the same, with no orphans. -/
theorem run_again (h : p.Orderly effects sources fs) :
    ((Job.deadline? p.here.now p.options.compile.timeout).isSome →
      ∃ g summary, p.run sources fs = (g, .finished summary)) ∧
    ∀ g summary, p.run sources fs = (g, .finished summary) →
      (∀ t ∈ p.targets, ∀ stem contents executable,
        g.at? ((p.options.artifactDir t).location p.here.cwd ++
          [stem ++ t.extension ++ ".tmp".toList]) ≠ some (.file contents executable)) ∧
      ∀ now, now = p.here.now ∨ (Job.deadline? now p.options.compile.timeout).isSome →
        (p.atTime now).answers sources ((p.atTime now).prepare g).1 =
          p.answers sources (p.prepare fs).1 →
        (p.atTime now).run sources g = (g, .finished { summary with orphans := 0 }) := by
  refine ⟨fun hend => ?_, fun g summary hrun => ⟨fun t ht stem contents executable => ?_, ?_⟩⟩
  · exact h.finishes (mapM_eq_some.2 ⟨fun sa _ => result?_ne_none hend, rfl⟩)
  · rw [FileSystem.at?_eq_get? _ (by simp)]
    exact h.no_orphan_again hrun ⟨t, ht, _, ⟨stem, .inr rfl⟩, rfl, fun u _ n _ =>
      artifactName_ne_tmp⟩ contents executable
  · intro now hnow hanswers
    obtain ⟨-, -, hresults, -⟩ := h.finished hrun
    have hprepare : (p.atTime now).prepare g = (g, .ok ()) := h.prepare_again hrun
    rw [hprepare] at hanswers
    have hbuild := @buildAll_spec (p.atTime now) effects g h.computes h.targets sources h.names h.safe
      (h.admits_again hrun)
    rw [hanswers, results_again hnow hresults] at hbuild
    obtain ⟨hbuilt, hdone⟩ := hbuild
    -- The tasks are the same as in the first run, and what they make of the files is there already.
    have htasks : (p.atTime now).allTasks sources g = p.allTasks sources (p.prepare fs).1 := by
      rw [allTasks, allTasks, hanswers]
      rfl
    have hsame : ((p.atTime now).buildAll sources g).1 = g := by
      have hself : AllDone (p.allTasks sources (p.prepare fs).1) effects p.options p.here.cwd g g :=
        ⟨fun x hx role => (h.entry_again hrun hx role).symm, fun _ _ => rfl⟩
      refine (hdone (by rw [hbuilt]; simp)).eq hself fun x => ?_
      rw [htasks]
    have hsweep : removeOrphans p.here.cwd p.options p.targets (sources.map (·.name)) g = (g, 0) :=
      removeOrphans_eq_self (fun t ht file hne => h.location_again hrun ht hne) fun l hl =>
        h.no_orphan_again hrun hl
    refine run_eq_finished.2 ⟨congrArg Prod.snd hprepare, ?_, ?_⟩
    · rw [hprepare]
      exact hbuilt
    · rw [hprepare, hsame]
      exact hsweep

set_option maxRecDepth 10000 in
theorem srsCopier_again :
    srsCopier.Orderly copies twoSources orphanFiles ∧
    ∃ g summary, srsCopier.run twoSources orphanFiles = (g, .finished summary) ∧
      summary.orphans = 1 ∧
      srsCopier.run twoSources g = (g, .finished { summary with orphans := 0 }) ∧
      (srsCopier.atTime 60000).run twoSources g = (g, .finished { summary with orphans := 0 }) := by
  have h : srsCopier.Orderly copies twoSources orphanFiles :=
    srsCopier_orderly (fun _ hs => hs) (by decide)
  obtain ⟨-, hall⟩ := run_again h
  obtain ⟨g, summary, hrun, horphans⟩ : ∃ g summary,
    srsCopier.run twoSources orphanFiles = (g, .finished summary) ∧ summary.orphans = 1 :=
    ⟨_, _, by rfl, by rfl⟩
  obtain ⟨-, hagain⟩ := hall g summary hrun
  have hanswers (now : Nat) :
      (srsCopier.atTime now).answers twoSources ((srsCopier.atTime now).prepare g).1 =
      srsCopier.answers twoSources (srsCopier.prepare orphanFiles).1 := by
    rw [answers_of_constant (fun _ _ _ => rfl), answers_of_constant (fun _ _ _ => rfl)]
    rfl
  exact ⟨h, g, summary, hrun, horphans, hagain 0 (.inl rfl) (hanswers 0),
    hagain 60000 (.inr (by decide)) (hanswers 60000)⟩

end Pipeline
end RuleSets
