import RuleSets.Proofs.Pipeline.Report
import RuleSets.Proofs.Pipeline.Run

/-!
# Strict runs

After a strict run the managed files of the directories of compiled files are exactly the products of
this run's compilers (`strict_run_syncs`): nothing is left of earlier runs, of failed attempts or of
sources that are gone.
-/

namespace RuleSets.Pipeline

variable {p : Pipeline} {effects : Effects} {sources : List Source} {fs g : FileSystem}
  {summary : Summary} {t : Target} {c : Compiler}

theorem entry_of_strict {s : Source} {answer : Except Failure Text} {contents : Bytes}
    {executable : Bool} {old : Option Entry} (hstrict : p.options.compile.strict = true) :
    (p.task s answer (t, c)).entry effects p.options .artifact old =
        some (.file contents executable) ↔
      p.Yields effects t c s answer ⟨contents, executable⟩ := by
  rw [yields_iff]
  have hc := (p.task_target s answer (t, c)).2.1
  rcases hx : p.task s answer (t, c) with ⟨t', c', name, text | text⟩ <;> rw [hx] at hc
  · simp [Task.entry, hstrict]
  · obtain rfl : c' = c := hc
    simp only [Task.entry, Compiler.Effect.result, hstrict, if_true, Option.some.injEq,
      exists_eq_left']
    rcases (effects c' (Utf8.encode text)).product? with _ | ⟨contents', executable'⟩
    · simp
    · simp [Compiler.Product.entry]

/-- Which managed files there are after a strict run. -/
theorem strict_run_files (h : p.Orderly effects sources fs)
    (hstrict : p.options.compile.strict = true)
    (hrun : p.run sources fs = (g, .finished summary)) (ht : t ∈ p.targets) {file : Text}
    (hfile : Manages t file) (contents : Bytes) (executable : Bool) :
    g.at? ((p.options.artifactDir t).location p.here.cwd ++ [file]) =
        some (.file contents executable) ↔
      ∃ sa ∈ p.answers sources (p.prepare fs).1, ∃ uc ∈ p.compilers,
        p.Yields effects uc.1 uc.2 sa.1 sa.2 ⟨contents, executable⟩ ∧
        (p.options.artifactPath uc.1 sa.1.name).location p.here.cwd =
          (p.options.artifactDir t).location p.here.cwd ++ [file] := by
  rw [FileSystem.at?_eq_get? _ (by simp)]
  constructor
  · intro hget
    obtain ⟨fs₂, hdone, -, hsweep⟩ := h.finished hrun
    have hswept := h.swept hdone
    rw [hsweep] at hswept
    -- A managed file that is still there is the compiled file of a present source.
    obtain ⟨u, hu, n, hn, rfl⟩ : ∃ u ∈ p.targets, ∃ n ∈ sources.map (·.name),
        u.artifactName n = file := by
      refine Classical.byContradiction fun hnone => ?_
      have horphan : Orphaned p.options p.here.cwd p.targets (sources.map (·.name))
          ((p.options.artifactDir t).location p.here.cwd ++ [file]) :=
        ⟨t, ht, file, hfile, rfl, fun u hu n hn he => hnone ⟨u, hu, n, hn, he⟩⟩
      rw [hswept.own _ horphan] at hget
      exact swept_ne_file hget
    obtain ⟨s, hs, rfl⟩ := List.mem_map.1 hn
    obtain ⟨⟨u, c⟩, huc, rfl⟩ := List.mem_map.1 hu
    rw [← p.answers_map_fst sources (p.prepare fs).1] at hs
    obtain ⟨sa, hsa, rfl⟩ := List.mem_map.1 hs
    have hplace : p.options.place p.here.cwd u sa.1.name .artifact =
        (p.options.artifactDir t).location p.here.cwd ++ [u.artifactName sa.1.name] := by
      rw [Options.place_eq (h.safe _ (mem_of_mem_answers hsa)), fileName_artifact,
        artifactDir_of_manages hfile]
      rfl
    refine ⟨sa, hsa, (u, c), huc, ?_, hplace⟩
    rw [← hplace, h.artifact hrun hsa huc] at hget
    exact (entry_of_strict hstrict).1 hget
  · rintro ⟨sa, hsa, uc, huc, hyields, hplace⟩
    rw [← hplace]
    exact (h.artifact hrun hsa huc).trans ((entry_of_strict hstrict).2 hyields)

/-- A strict run brings the directories of compiled files into line with what its compilers made: of
the files that an enabled target manages there, those remain for which the source was fetched, had
content for its target, and was compiled in time to a file with something in it, and they hold just
that.  The results tell the same. -/
theorem strict_run_syncs (h : p.Orderly effects sources fs)
    (hstrict : p.options.compile.strict = true) :
    ((Job.deadline? p.here.now p.options.compile.timeout).isSome →
      ∃ g summary, p.run sources fs = (g, .finished summary)) ∧
    ∀ g summary, p.run sources fs = (g, .finished summary) →
      (∀ t ∈ p.targets, ∃ dir,
        g.lookup p.here.cwd (p.options.artifactDir t) = .ok (dir, .directory) ∧
        ∀ file, Manages t file → ∀ contents executable,
          g.at? (dir ++ [file]) = some (.file contents executable) ↔
            ∃ sa ∈ p.answers sources (p.prepare fs).1, ∃ uc ∈ p.compilers,
              p.Yields effects uc.1 uc.2 sa.1 sa.2 ⟨contents, executable⟩ ∧
              (p.options.artifactPath uc.1 sa.1.name).location p.here.cwd = dir ++ [file]) ∧
      summary.results.map (·.name) = sources.map (·.name) ∧
      ∀ x ∈ (p.answers sources (p.prepare fs).1).zip summary.results,
        (x.2.outcome = .extracted ↔
          ∃ text, x.1.2 = .ok text ∧ (bucketOf x.1.1.hint text).isEmpty = false) ∧
        ∀ tc ∈ p.compilers, ∀ n, x.2.target? tc.1 = some (.built n) ↔
          ∃ product, p.Yields effects tc.1 tc.2 x.1.1 x.1.2 product ∧
            product.contents.length = n := by
  refine ⟨fun hd => ?_, fun g summary hrun => ⟨fun t ht => ?_, ?_, fun x hx => ?_⟩⟩
  · exact h.finishes (mapM_eq_some.2 ⟨fun sa _ => result?_ne_none hd, rfl⟩)
  · obtain ⟨fs₂, hdone, -, hsweep⟩ := h.finished hrun
    have hswept := h.swept hdone
    rw [hsweep] at hswept
    have hsame := (h.sameDirectories hdone).trans hswept.sameDirectories
    exact ⟨_, FileSystem.lookup_directory_congr hsame (h.directory t ht),
      fun file hfile => strict_run_files h hstrict hrun ht hfile⟩
  · obtain ⟨fs₂, -, hresults, -⟩ := h.finished hrun
    exact map_name_of_results hresults
  · obtain ⟨fs₂, -, hresults, -⟩ := h.finished hrun
    have hr := mem_zip_of_mapM hresults hx
    exact ⟨outcome_of_result hr, fun tc htc n => target?_built h.targets hr htc⟩

set_option maxRecDepth 10000 in
theorem srsCopier_syncs :
    srsCopier.Orderly copies twoSources orphanFiles ∧ srsCopier.options.compile.strict = true ∧
    ∃ g summary, srsCopier.run twoSources orphanFiles = (g, .finished summary) ∧
      g.lookup [] ⟨"dist/singbox".toList⟩ = .ok (["dist".toList, "singbox".toList], .directory) ∧
      (∃ contents executable, g.at? ["dist".toList, "singbox".toList, "a.srs".toList] =
        some (.file contents executable)) ∧
      ∀ contents executable, g.at? ["dist".toList, "singbox".toList, "old.srs".toList] ≠
        some (.file contents executable) := by
  have horderly : srsCopier.Orderly copies twoSources orphanFiles :=
    srsCopier_orderly (fun _ hs => hs) (by decide)
  obtain ⟨-, hsyncs⟩ := strict_run_syncs horderly rfl
  obtain ⟨g, summary, hrun, hlook⟩ : ∃ g summary, srsCopier.run twoSources orphanFiles =
      (g, .finished summary) ∧ g.lookup [] ⟨"dist/singbox".toList⟩ =
        .ok (["dist".toList, "singbox".toList], .directory) := ⟨_, _, by rfl, by rfl⟩
  obtain ⟨dir, hdir, hfiles⟩ := (hsyncs g summary hrun).1 .singBox (by decide)
  obtain rfl : ["dist".toList, "singbox".toList] = dir :=
    (Prod.mk.inj (Except.ok.inj (hlook.symm.trans hdir))).1
  have hanswers : srsCopier.answers twoSources (srsCopier.prepare orphanFiles).1 =
      [(⟨"a".toList, "example.com".toList, .fixed .domainText⟩, .ok "example.com".toList),
        (⟨"b".toList, [], .fixed .domainText⟩, .ok [])] := by rfl
  refine ⟨horderly, rfl, g, summary, hrun, hlook, ⟨Utf8.encode (Target.singBox.render
    (bucketOf (.fixed .domainText) "example.com".toList) srsCopier.options.version), false, ?_⟩,
    fun contents executable hget => ?_⟩
  · have hyields : srsCopier.Yields copies .singBox (Compiler.copying [])
      ⟨"a".toList, "example.com".toList, .fixed .domainText⟩ (.ok "example.com".toList) _ :=
      ⟨_, rfl, by decide, by rfl⟩
    exact (hfiles "a.srs".toList ⟨"a".toList, .inl rfl⟩ _ _).2
      ⟨_, hanswers ▸ List.mem_cons_self .., _, List.mem_cons_self .., hyields, by rfl⟩
  · obtain ⟨sa, hsa, uc, huc, -, hplace⟩ :=
      (hfiles "old.srs".toList ⟨"old".toList, .inl rfl⟩ contents executable).1 hget
    have hlast := congrArg List.getLast? hplace
    rw [List.getLast?_concat, List.mem_singleton.1 huc] at hlast
    rw [hanswers] at hsa
    rcases List.mem_cons.1 hsa with rfl | hsa
    · exact absurd hlast (by decide)
    · rw [List.mem_singleton.1 hsa] at hlast
      exact absurd hlast (by decide)

end RuleSets.Pipeline
