import RuleSets.Proofs.Pipeline.Report
import RuleSets.Proofs.Pipeline.Run

/-!
# Isolation

No source and no target of a run gets in the way of another (`runs_isolated`): what is told of a
source, and what is left of its compiled files, is the same in every two runs in which the source gets
the same answer and the same compiler, whatever else is in these runs and in whatever order.
-/

namespace RuleSets.Pipeline

variable {p p' : Pipeline} {effects : Effects} {sources sources' : List Source}
  {fs fs' g g' : FileSystem} {summary summary' : Summary} {s s' : Source}
  {answer : Except Failure Text} {r r' : BuildResult} {t : Target} {c : Compiler}

/-! ### The order of the sources -/

/-- A fetcher that looks at no files gives a source the same answer wherever a run comes to it. -/
theorem answers_of_constant (hfetch : ∀ st st' url, p.fetch st url = p.fetch st' url)
    (sources : List Source) (fs : FileSystem) :
    p.answers sources fs = sources.map fun s => (s, p.fetch ∅ s.url) := by
  induction sources generalizing fs with
  | nil => rfl
  | cons s rest ih => rw [answers, ih, List.map_cons, hfetch fs ∅]

theorem answers_perm (hfetch : ∀ st st' url, p.fetch st url = p.fetch st' url)
    (hperm : sources'.Perm sources) (fs fs' : FileSystem) :
    (p.answers sources' fs').Perm (p.answers sources fs) := by
  rw [answers_of_constant hfetch, answers_of_constant hfetch]
  exact hperm.map _

theorem Orderly.perm (h : p.Orderly effects sources fs) (hperm : sources'.Perm sources) :
    p.Orderly effects sources' fs where
  computes := h.computes
  targets := h.targets
  names := (hperm.map _).nodup_iff.2 h.names
  safe s hs := h.safe s (hperm.mem_iff.1 hs)
  prepared := h.prepared
  admits t ht n hn := h.admits t ht n ((hperm.map _).mem_iff.1 hn)
  directory := h.directory
  reach := h.reach

theorem run_perm (h : p.Orderly effects sources fs)
    (hrun : p.run sources fs = (g, .finished summary))
    (hperm : (p.answers sources' (p.prepare fs).1).Perm (p.answers sources (p.prepare fs).1)) :
    ∃ summary', p.run sources' fs = (g, .finished summary') ∧
      summary'.orphans = summary.orphans ∧ summary'.results.Perm summary.results := by
  have hsources : sources'.Perm sources := by
    have hmap := hperm.map (·.1)
    rwa [answers_map_fst, answers_map_fst] at hmap
  have h' := h.perm hsources
  obtain ⟨fs₂, hdone, hresults, hsweep⟩ := h.finished hrun
  obtain ⟨results', hresults', hrp⟩ := mapM_perm hperm.symm hresults
  obtain ⟨g', summary', hrun'⟩ := h'.finishes hresults'
  obtain ⟨fs₂', hdone', hsummary', hsweep'⟩ := h'.finished hrun'
  have hsame : fs₂' = fs₂ := hdone'.eq hdone fun x => by
    simp only [mem_allTasks, hperm.mem_iff]
  have hnames (n : Text) : n ∈ sources'.map (·.name) ↔ n ∈ sources.map (·.name) :=
    (hsources.map _).mem_iff
  rw [hsame, removeOrphans_congr hnames, hsweep] at hsweep'
  obtain ⟨rfl, horphans⟩ := Prod.mk.inj hsweep'
  refine ⟨summary', hrun', horphans.symm, ?_⟩
  rw [hresults'] at hsummary'
  rw [← Option.some.inj hsummary']
  exact hrp

/-! ### Two runs -/

theorem task_congr (hname : s'.name = s.name) (hhint : s'.hint = s.hint)
    (hoptions : p'.options = p.options) (answer : Except Failure Text) (tc : Target × Compiler) :
    p'.task s' answer tc = p.task s answer tc := by
  cases answer with
  | error f => rw [task, task, hname]
  | ok text => simp only [task, taskOf, hname, hhint, hoptions]

theorem entry_artifact_strict {x : Task} {o : Options} (hstrict : o.compile.strict = true)
    (old old' : Option Entry) :
    x.entry effects o .artifact old = x.entry effects o .artifact old' := by
  obtain ⟨t, c, name, text | text⟩ := x
  · simp [Task.entry, hstrict]
  · simp only [Task.entry, Compiler.Effect.result, hstrict, if_true]

section
variable (hname : s'.name = s.name) (hhint : s'.hint = s.hint) (hoptions : p'.options = p.options)
include hname hhint hoptions

theorem status?_congr {text : Text} (hne : ¬ (bucketOf s.hint text).isEmpty = true)
    (hr : p.result? effects s (.ok text) = some r) (hr' : p'.result? effects s' (.ok text) = some r')
    (htc : (t, c) ∈ p.compilers) (htc' : (t, c) ∈ p'.compilers) :
    (p'.taskOf t c s'.name (bucketOf s'.hint text)).status? effects p'.options p'.here =
      (p.taskOf t c s.name (bucketOf s.hint text)).status? effects p.options p.here := by
  have htask : p'.taskOf t c s'.name (bucketOf s'.hint text) =
      p.taskOf t c s.name (bucketOf s.hint text) :=
    task_congr hname hhint hoptions (.ok text) (t, c)
  have htold := (targets_of_result hr hne).1 (t, c) htc
  have htold' := (targets_of_result hr' (by rw [hhint]; exact hne)).1 (t, c) htc'
  rw [htask, hoptions] at htold' ⊢
  obtain ⟨status, hs⟩ := Option.ne_none_iff_exists'.1 htold
  obtain ⟨status', hs'⟩ := Option.ne_none_iff_exists'.1 htold'
  rw [hs, hs', status?_unique hs hs']

theorem target?_congr (hnodup : p.targets.Nodup) (hnodup' : p'.targets.Nodup)
    (hr : p.result? effects s answer = some r) (hr' : p'.result? effects s' answer = some r')
    (htc : (t, c) ∈ p.compilers) (htc' : (t, c) ∈ p'.compilers) : r'.target? t = r.target? t := by
  rw [target?_eq hnodup hr htc, target?_eq hnodup' hr' htc']
  cases answer with
  | error f => rfl
  | ok text =>
    dsimp only
    by_cases hempty : (bucketOf s.hint text).isEmpty = true
    · rw [if_pos hempty, if_pos (by rw [hhint]; exact hempty)]
    · rw [if_neg hempty, if_neg (by rw [hhint]; exact hempty)]
      exact status?_congr hname hhint hoptions hempty hr hr' htc htc'

theorem result_congr (hcompilers : p'.compilers = p.compilers)
    (hr : p.result? effects s answer = some r) (hr' : p'.result? effects s' answer = some r') :
    r' = r := by
  have hhead := head_of_result hr
  have hhead' := head_of_result hr'
  rw [hname, hhint, ← hhead] at hhead'
  have htargets : r'.targets = r.targets := by
    cases answer with
    | error f => cases hr; cases hr'; rfl
    | ok text =>
      by_cases hempty : (bucketOf s.hint text).isEmpty = true
      · rw [result?, if_pos hempty] at hr
        rw [result?, if_pos (by rw [hhint]; exact hempty)] at hr'
        cases hr
        cases hr'
        rfl
      · rw [(targets_of_result hr hempty).2,
          (targets_of_result hr' (by rw [hhint]; exact hempty)).2, hcompilers]
        refine List.filterMap_congr fun tc htc => ?_
        rw [status?_congr hname hhint hoptions hempty hr hr' htc (hcompilers ▸ htc)]
  cases r
  cases r'
  simp only [BuildResult.mk.injEq] at hhead' htargets ⊢
  exact ⟨hhead'.1, hhead'.2.1, hhead'.2.2.1, hhead'.2.2.2.1, htargets⟩

end

/-- What the directories of a run held is what they hold once they are all there. -/
theorem Orderly.before (h : p.Orderly effects sources fs) {sa : Source × Except Failure Text}
    (hsa : sa ∈ p.answers sources (p.prepare fs).1) {tc : Target × Compiler}
    (htc : tc ∈ p.compilers) :
    (p.prepare fs).1.get? (p.options.place p.here.cwd tc.1 sa.1.name .artifact) =
      fs.get? (p.options.place p.here.cwd tc.1 sa.1.name .artifact) := by
  have hadm := h.admits tc.1 (List.mem_map_of_mem htc) sa.1.name
    (List.mem_map_of_mem (mem_of_mem_answers hsa)) .artifact
  rcases prepare_extends p fs (p.options.place p.here.cwd tc.1 sa.1.name .artifact) with
    heq | ⟨-, hdir⟩
  · exact heq
  · exact absurd hdir hadm.get?_ne_directory

/-- What is left of a compiled file depends on the source's answer and the target's compiler, and in
non-strict mode on what was there before. -/
theorem artifact_congr (h : p.Orderly effects sources fs)
    (hrun : p.run sources fs = (g, .finished summary)) (h' : p'.Orderly effects sources' fs')
    (hrun' : p'.run sources' fs' = (g', .finished summary')) (hcwd : p'.here.cwd = p.here.cwd)
    (hoptions : p'.options = p.options) (hname : s'.name = s.name) (hhint : s'.hint = s.hint)
    (hsa : (s, answer) ∈ p.answers sources (p.prepare fs).1)
    (hsa' : (s', answer) ∈ p'.answers sources' (p'.prepare fs').1)
    (htc : (t, c) ∈ p.compilers) (htc' : (t, c) ∈ p'.compilers)
    (hold : p.options.compile.strict = true ∨
      fs'.at? ((p.options.artifactPath t s.name).location p.here.cwd) =
        fs.at? ((p.options.artifactPath t s.name).location p.here.cwd)) :
    g'.at? ((p.options.artifactPath t s.name).location p.here.cwd) =
      g.at? ((p.options.artifactPath t s.name).location p.here.cwd) := by
  have hne : (p.options.artifactPath t s.name).location p.here.cwd ≠ [] :=
    (h.admits t (List.mem_map_of_mem htc) s.name
      (List.mem_map_of_mem (mem_of_mem_answers hsa)) .artifact).location_ne_nil
  have hgot := h.artifact hrun hsa htc
  have hgot' := h'.artifact hrun' hsa' htc'
  rw [task_congr hname hhint hoptions, hname, hoptions, hcwd] at hgot'
  rw [FileSystem.at?_eq_get? _ hne, FileSystem.at?_eq_get? _ hne] at hold ⊢
  refine hgot'.trans (Eq.trans ?_ hgot.symm)
  rcases hold with hstrict | hold
  · exact entry_artifact_strict hstrict _ _
  · have hbefore := h.before hsa htc
    have hbefore' := h'.before hsa' htc'
    rw [hname, hoptions, hcwd] at hbefore'
    rw [hbefore, hbefore']
    exact congrArg _ hold

/-! ### All runs -/

/-- In every run each source is counted once; permuting the sources permutes the results and changes
nothing else; and what two runs tell and leave of a source for a target is the same, provided that
the source gets the same answer and the target the same compiler. -/
theorem runs_isolated (h : p.Orderly effects sources fs) :
    ((Job.deadline? p.here.now p.options.compile.timeout).isSome →
      ∃ g summary, p.run sources fs = (g, .finished summary)) ∧
    ∀ g summary, p.run sources fs = (g, .finished summary) →
      summary.succeeded + summary.failed + summary.emptied = sources.length ∧
      (∀ sources', (p.answers sources' (p.prepare fs).1).Perm (p.answers sources (p.prepare fs).1) →
        ∃ summary', p.run sources' fs = (g, .finished summary') ∧
          summary'.orphans = summary.orphans ∧ summary'.results.Perm summary.results) ∧
      ∀ p' sources' fs' g' summary', Orderly p' effects sources' fs' →
        p'.here.cwd = p.here.cwd → p'.options = p.options →
        p'.run sources' fs' = (g', .finished summary') →
        ∀ x ∈ (p.answers sources (p.prepare fs).1).zip summary.results,
        ∀ x' ∈ (p'.answers sources' (p'.prepare fs').1).zip summary'.results,
          x'.1.1.name = x.1.1.name → x'.1.1.hint = x.1.1.hint → x'.1.2 = x.1.2 →
          ({ x'.2 with targets := [] } : BuildResult) = { x.2 with targets := [] } ∧
          (p'.compilers = p.compilers → x'.2 = x.2) ∧
          ∀ t c, (t, c) ∈ p.compilers → (t, c) ∈ p'.compilers →
            x'.2.target? t = x.2.target? t ∧
            let artifact := (p.options.artifactPath t x.1.1.name).location p.here.cwd
            (p.options.compile.strict = true ∨ fs'.at? artifact = fs.at? artifact →
              g'.at? artifact = g.at? artifact) := by
  refine ⟨fun hd => ?_, fun g summary hrun => ⟨?_, fun sources' => run_perm h hrun, ?_⟩⟩
  · exact h.finishes (mapM_eq_some.2 ⟨fun sa _ => result?_ne_none hd, rfl⟩)
  · obtain ⟨-, -, hresults, -⟩ := h.finished hrun
    have hlength := congrArg List.length (map_name_of_results hresults)
    rw [List.length_map, List.length_map] at hlength
    rw [summary.tally, hlength]
  · rintro p' sources' fs' g' summary' h' hcwd hoptions hrun' ⟨⟨s, answer⟩, r⟩ hx
      ⟨⟨s', answer'⟩, r'⟩ hx' hname hhint ⟨⟩
    obtain ⟨-, -, hresults, -⟩ := h.finished hrun
    obtain ⟨-, -, hresults', -⟩ := h'.finished hrun'
    have hr := mem_zip_of_mapM hresults hx
    have hr' := mem_zip_of_mapM hresults' hx'
    refine ⟨?_, fun hcompilers => result_congr hname hhint hoptions hcompilers hr hr',
      fun t c htc htc' => ⟨?_, fun hold => ?_⟩⟩
    · rw [head_of_result hr, ← hname, ← hhint, ← head_of_result hr']
    · exact target?_congr hname hhint hoptions h.targets h'.targets hr hr' htc htc'
    · exact artifact_congr h hrun h' hrun' hcwd hoptions hname hhint (List.of_mem_zip hx).1
        (List.of_mem_zip hx').1 htc htc' hold

set_option maxRecDepth 10000 in
theorem srsCopier_isolated :
    srsCopier.Orderly copies twoSources orphanFiles ∧
    srsCopier.Orderly copies (twoSources.take 1) orphanFiles ∧
    ∃ g r r₂ orphans, srsCopier.run twoSources orphanFiles = (g, .finished ⟨[r, r₂], orphans⟩) ∧
      (∃ summary', srsCopier.run twoSources.reverse orphanFiles = (g, .finished summary') ∧
        summary'.orphans = orphans ∧ summary'.results.Perm [r, r₂]) ∧
      ∃ g' r' orphans',
        srsCopier.run (twoSources.take 1) orphanFiles = (g', .finished ⟨[r'], orphans'⟩) ∧
        r' = r ∧ g'.at? ["dist".toList, "singbox".toList, "a.srs".toList] =
          g.at? ["dist".toList, "singbox".toList, "a.srs".toList] := by
  have h : srsCopier.Orderly copies twoSources orphanFiles :=
    srsCopier_orderly (fun _ hs => hs) (by decide)
  have h' : srsCopier.Orderly copies (twoSources.take 1) orphanFiles :=
    srsCopier_orderly (fun _ hs => List.mem_of_mem_take hs) (by decide)
  obtain ⟨-, hall⟩ := runs_isolated h
  obtain ⟨g, r, r₂, orphans, hrun⟩ : ∃ g r r₂ orphans,
    srsCopier.run twoSources orphanFiles = (g, .finished ⟨[r, r₂], orphans⟩) := ⟨_, _, _, _, by rfl⟩
  obtain ⟨g', r', orphans', hrun'⟩ : ∃ g' r' orphans',
    srsCopier.run (twoSources.take 1) orphanFiles = (g', .finished ⟨[r'], orphans'⟩) :=
    ⟨_, _, _, by rfl⟩
  obtain ⟨-, hperm, htwo⟩ := hall g _ hrun
  have hfetch := answers_perm (p := srsCopier) (fun _ _ _ => rfl) (List.reverse_perm twoSources)
  obtain ⟨-, hsame, hfile⟩ := htwo _ _ _ _ _ h' rfl rfl hrun' (_, r) (List.mem_cons_self ..)
    (_, r') (List.mem_cons_self ..) rfl rfl rfl
  exact ⟨h, h', g, r, r₂, orphans, hrun, hperm _ (hfetch _ _), g', r', orphans', hrun', hsame rfl,
    (hfile .singBox _ (List.mem_cons_self ..) (List.mem_cons_self ..)).2 (.inl rfl)⟩

end RuleSets.Pipeline
