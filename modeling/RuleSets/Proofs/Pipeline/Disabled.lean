import RuleSets.Proofs.Pipeline.Frame

/-!
# Disabled targets

Building never touches a file of a target that is not enabled.  Sweeping goes by directories and
extensions, so it spares the compiled files of a disabled target as long as no enabled target has
its extension (`disabled_artifacts`); where one has it, they are swept away, those of present sources
like all others.
-/

namespace RuleSets

namespace Path

/-- The last name of a path with a long end is a name with that end. -/
theorem location_of_tail {q : Path} {s tail : Text} (h : q.text = s ++ tail) (hslash : '/' ∉ tail)
    (hlong : 2 < tail.length) (cwd : Location) : ∃ dir w, q.location cwd = dir ++ [w ++ tail] := by
  obtain ⟨ws, w, -, hpieces⟩ := Text.splitBy_append (· == '/') s (no_slash hslash)
  have hlen : 2 < (w ++ tail).length := by
    rw [List.length_append]
    omega
  have hne : (w ++ tail).isEmpty = false := by
    rw [List.isEmpty_eq_false_iff]
    exact List.ne_nil_of_length_pos (by omega)
  have hdot : w ++ tail ≠ ['.'] := fun he => by
    rw [he] at hlen
    exact absurd hlen (by decide)
  have hdots : w ++ tail ≠ ['.', '.'] := fun he => by
    rw [he] at hlen
    exact absurd hlen (by decide)
  refine ⟨(ws.filter fun s => !s.isEmpty).foldl enter (if q.isAbsolute then [] else cwd), w, ?_⟩
  rw [location, names, pieces, h, hpieces, List.filter_append, List.filter_cons_of_pos (by rw [hne]; rfl),
    List.filter_nil, List.foldl_append, List.foldl_cons, List.foldl_nil, enter, if_neg hdot,
    if_neg hdots]

end Path

namespace Pipeline

open FileSystem

variable {p : Pipeline} {sources : List Source} {fs g : FileSystem} {t u : Target} {o : Options}
  {cwd l : Location} {n : Text} {names : List Text} {contents : Bytes} {executable : Bool}

/-- Whatever a name is, the location of a file for it ends in the tail of the file's name. -/
theorem place_of_tail (o : Options) (cwd : Location) (t : Target) (n : Text) (role : Role) :
    ∃ dir w, o.place cwd t n role = dir ++ [w ++ tail t role] := by
  have hjoin (dir : Path) (s : Text) : ∃ a, (dir.join ⟨s⟩).text = a ++ s := by
    rw [Path.join]
    split
    · exact ⟨[], rfl⟩
    · exact ⟨_, rfl⟩
  have htext : ∃ s, (o.filePath t n role).text = s ++ tail t role := by
    obtain ⟨a, ha⟩ := hjoin (o.artifactDir t) (t.artifactName n)
    obtain ⟨b, hb⟩ := hjoin o.workDir (t.sourceName n)
    cases role with
    | artifact => exact ⟨a ++ n, by
        rw [Options.filePath, Options.artifactPath, ha, Target.artifactName, tail]
        simp only [List.append_assoc]⟩
    | tmp => exact ⟨a ++ n, by
        rw [Options.filePath, Options.artifactPath, Path.tmp, Path.withTail, ha, Target.artifactName,
          tail]
        simp only [List.append_assoc]⟩
    | source => exact ⟨b ++ n, by
        rw [Options.filePath, Options.sourcePath, hb, Target.sourceName, tail]
        simp only [List.append_assoc]⟩
  obtain ⟨s, hs⟩ := htext
  exact Path.location_of_tail hs (by cases t <;> cases role <;> decide)
    (by cases t <;> cases role <;> decide) cwd

theorem not_owned_of_disabled (ht : t ∉ p.targets) :
    ¬ p.Owns names (p.options.place p.here.cwd t n .artifact) := by
  rintro ⟨m, -, u, hu, role, he⟩
  obtain ⟨dir, w, hw⟩ := place_of_tail p.options p.here.cwd t n .artifact
  obtain ⟨dir', w', hw'⟩ := place_of_tail p.options p.here.cwd u m role
  rw [hw, hw'] at he
  have hname : fileName t w .artifact = fileName u w' role :=
    (List.cons.inj (List.append_inj' he rfl).2).1
  exact ht ((fileName_injective hname).1 ▸ hu)

theorem not_orphaned_of_extension {targets : List Target}
    (hext : ∀ u ∈ targets, u.extension ≠ t.extension) :
    ¬ Orphaned o cwd targets names (o.place cwd t n .artifact) := by
  rintro ⟨u, hu, file, hmanages, he, -⟩
  obtain ⟨dir, w, hw⟩ := place_of_tail o cwd t n .artifact
  rw [hw] at he
  obtain rfl : fileName t w .artifact = file := (List.cons.inj (List.append_inj' he rfl).2).1
  rw [fileName_artifact, manages_artifact_iff] at hmanages
  exact hext u hu hmanages

/-- An enabled target with the extension of a disabled one makes orphans of its files. -/
theorem orphaned_of_extension {targets : List Target} (ht : t ∉ targets) (hu : u ∈ targets)
    (hext : u.extension = t.extension) (hn : Manifest.isSafeName n = true) :
    Orphaned o cwd targets names (o.place cwd t n .artifact) := by
  refine ⟨u, hu, t.artifactName n, manages_artifact_iff.2 hext, ?_, ?_⟩
  · rw [Options.place_eq hn, fileName_artifact, artifactDir_of_extension hext]
    rfl
  · rintro v hv m - he
    rw [← fileName_artifact, ← fileName_artifact] at he
    exact ht ((fileName_injective he).1 ▸ hv)

/-- A file of a disabled target whose extension no enabled target has stays as it is. -/
theorem disabled_kept (ht : fs.IsTree)
    (hc : ∀ tc ∈ p.compilers, tc.2.TouchesOnlyOutput p.here.cwd) (hdis : t ∉ p.targets)
    (hext : ∀ u ∈ p.targets, u.extension ≠ t.extension) :
    (p.run sources fs).1.at? (p.options.place p.here.cwd t n .artifact) =
        some (.file contents executable) ↔
      fs.at? (p.options.place p.here.cwd t n .artifact) = some (.file contents executable) := by
  by_cases hsame : (p.run sources fs).1.at? (p.options.place p.here.cwd t n .artifact) =
      fs.at? (p.options.place p.here.cwd t n .artifact)
  · rw [hsame]
  · rcases run_footprint hc ht hsame with ⟨hnone, hdir, -⟩ | ⟨-, howned | horphaned⟩
    · rw [hnone, hdir]
      simp
    · exact absurd howned (not_owned_of_disabled hdis)
    · exact absurd horphaned (not_orphaned_of_extension hext)

/-- A file of a disabled target whose extension an enabled target has does not outlast a run. -/
theorem disabled_swept {effects : Effects} {summary : Summary} (h : p.Orderly effects sources fs)
    (hrun : p.run sources fs = (g, .finished summary)) (hdis : t ∉ p.targets) (hu : u ∈ p.targets)
    (hext : u.extension = t.extension) (hn : Manifest.isSafeName n = true) :
    g.at? (p.options.place p.here.cwd t n .artifact) ≠ some (.file contents executable) := by
  obtain ⟨fs₂, hdone, hswept⟩ := h.tasks_swept hrun
  rw [at?_eq_get? _ (by rw [Options.place_eq hn]; simp),
    hswept.own _ (orphaned_of_extension hdis hu hext hn)]
  exact swept_ne_file

/-- Building, with all that strictness deletes, leaves the compiled files of a disabled target as they
are.  So does the whole run, unless an enabled target has the extension of the disabled one: then the
run sweeps away what the disabled target has there, for present sources too. -/
theorem disabled_artifacts (ht : fs.IsTree)
    (hc : ∀ tc ∈ p.compilers, tc.2.TouchesOnlyOutput p.here.cwd) (hdis : t ∉ p.targets) (n : Text) :
    let artifact := (p.options.artifactPath t n).location p.here.cwd
    (p.buildAll sources fs).1.at? artifact = fs.at? artifact ∧
    ((∀ u ∈ p.targets, u.extension ≠ t.extension) → ∀ contents executable,
      (p.run sources fs).1.at? artifact = some (.file contents executable) ↔
        fs.at? artifact = some (.file contents executable)) ∧
    ((∃ u ∈ p.targets, u.extension = t.extension) → Manifest.isSafeName n = true →
      ∀ effects g summary, p.Orderly effects sources fs →
        p.run sources fs = (g, .finished summary) →
        ∀ contents executable, g.at? artifact ≠ some (.file contents executable)) := by
  refine ⟨?_, fun hext contents executable => disabled_kept ht hc hdis hext, ?_⟩
  · exact (buildAll_modifies hc sources ht).frame _ (not_owned_of_disabled hdis)
  · rintro ⟨u, hu, hext⟩ hn effects g summary horderly hrun contents executable
    exact disabled_swept horderly hrun hdis hu hext hn

/-- A pipeline that copies the emitted sources of mihomo's domain lists, and makes no other file. -/
def domainCopier : Pipeline :=
  withCompiler ⟨⟨[], 0⟩, fun _ url => .ok url, [], {}⟩ .mihomoDomain (Compiler.copying [])

/-- Files of disabled targets for a present source. -/
def disabledFiles : FileSystem :=
  ((((FileSystem.put ∅ ["dist".toList] (some .directory)).put
    ["dist".toList, "mihomo".toList] (some .directory)).put
    ["dist".toList, "mihomo".toList, "a_ipcidr.mrs".toList] (some (.file [1] false))).put
    ["dist".toList, "singbox".toList] (some .directory)).put
    ["dist".toList, "singbox".toList, "a.srs".toList] (some (.file [2] false))

set_option maxRecDepth 10000 in
/-- The file is one of a present source, and still it is gone. -/
theorem domainCopier_sweeps_present :
    Target.mihomoIpCidr ∉ domainCopier.targets ∧ "a".toList ∈ twoSources.map (·.name) ∧
    disabledFiles.at? ["dist".toList, "mihomo".toList, "a_ipcidr.mrs".toList] =
      some (.file [1] false) ∧
    (domainCopier.options.artifactPath .mihomoIpCidr "a".toList).location domainCopier.here.cwd =
      ["dist".toList, "mihomo".toList, "a_ipcidr.mrs".toList] ∧
    (domainCopier.run twoSources disabledFiles).1.at?
      ["dist".toList, "mihomo".toList, "a_ipcidr.mrs".toList] = none :=
  ⟨by decide, by decide, by rfl, by rfl, by rfl⟩

theorem domainCopier_keeps_others :
    disabledFiles.IsTree ∧
    (∀ tc ∈ domainCopier.compilers, tc.2.TouchesOnlyOutput domainCopier.here.cwd) ∧
    Target.singBox ∉ domainCopier.targets ∧
    (∀ u ∈ domainCopier.targets, u.extension ≠ Target.singBox.extension) ∧
    (domainCopier.run twoSources disabledFiles).1.at?
      ["dist".toList, "singbox".toList, "a.srs".toList] = some (.file [2] false) := by
  have htree : disabledFiles.IsTree := by decide
  have htouches : ∀ tc ∈ domainCopier.compilers, tc.2.TouchesOnlyOutput domainCopier.here.cwd := by
    intro tc htc
    rw [List.mem_singleton.1 htc]
    exact Compiler.copying_touchesOnlyOutput _
  have hdis : Target.singBox ∉ domainCopier.targets := by decide
  have hext : ∀ u ∈ domainCopier.targets, u.extension ≠ Target.singBox.extension := by decide
  obtain ⟨-, hkept, -⟩ := @disabled_artifacts domainCopier twoSources disabledFiles .singBox htree
    htouches hdis "a".toList
  exact ⟨htree, htouches, hdis, hext, (hkept hext [2] false).2 (by rfl)⟩

end Pipeline
end RuleSets
