import RuleSets.Proofs.Compiler.Touch

/-!
# Failures in strict mode

A strict attempt that fails leaves no file at its output, whatever its compiler has done to the file
system (`strict_failure_keeps_output_iff`).  There is one exception: an attempt ends before anything is
done if the temporary file of an earlier one cannot be deleted, and then an older output stays.
That happens just where a directory stands in its place or its name is too long
(`exists_removeIfPresent_tmp_error_iff`).
-/

namespace RuleSets

namespace FileSystem

variable {fs fs' : FileSystem} {cwd loc : Location} {p : Path} {e : IoError}

theorem isFile_iff : fs.isFile cwd p = true ↔
    ∃ contents executable, fs.lookup cwd p = .ok (p.location cwd, .file contents executable) := by
  unfold isFile
  constructor
  · intro h
    split at h
    · rename_i loc contents executable hl
      exact ⟨contents, executable, by rw [hl, location_of_resolve (resolve_of_lookup hl).1]⟩
    · cases h
  · rintro ⟨contents, executable, hl⟩
    rw [hl]

/-! ### Discarded files -/

theorem discard_keeps (fs : FileSystem) (cwd : Location) (p : Path) :
    KeepsDirectories (fs.discard cwd p) fs := fun l hl => by
  rw [← discard_at? (by rw [hl]; simp), hl]

/-- Where a file was discarded there is none. -/
theorem isFile_discard (fs : FileSystem) (cwd : Location) (p : Path) :
    (fs.discard cwd p).isFile cwd p = false := by
  refine Bool.eq_false_iff.2 fun h => ?_
  obtain ⟨contents, executable, hl⟩ := isFile_iff.1 h
  obtain ⟨hr, hat⟩ := resolve_of_lookup hl
  have hold : fs.at? (p.location cwd) = some (.file contents executable) := by
    rw [← discard_at? (by rw [hat]; simp), hat]
  have hgone := discard_gone (resolve_mono (discard_keeps fs cwd p) hr) (by rw [hold]; simp)
  rw [hgone] at hat
  cases hat

/-! ### Temporary files next to a file -/

theorem namesOf_tmp {names : List Text} (h : namesOf p = .ok names) :
    namesOf p.tmp = if maxPath < (Utf8.encode p.tmp.text).length then .error .nameTooLong
      else .ok p.tmp.names := by
  have hnul : p.tmp.text.contains '\x00' = false := by
    unfold namesOf at h
    split at h
    · cases h
    · rename_i hp
      simpa [Path.tmp, Path.withTail] using hp
  have hne : p.tmp.text.isEmpty = false := by
    simp [Path.tmp, Path.withTail]
  rw [namesOf, if_neg (by rw [hnul]; decide), if_neg (by rw [hne]; decide)]
  rfl

/-- The names on the way to a file, the last of them in a directory. -/
theorem follow_of_isFile (h : fs.isFile cwd p = true) : ∃ init last dir,
    namesOf p = .ok (init ++ [last]) ∧ isSlashed p = false ∧
      fs.follow cwd p init = .ok dir ∧ fs.at? dir = some .directory := by
  obtain ⟨contents, executable, hl⟩ := isFile_iff.1 h
  obtain ⟨hr, hat⟩ := resolve_of_lookup hl
  obtain ⟨names, hn, hf, hslash⟩ := resolve_iff.1 hr
  obtain ⟨hne, hnames⟩ := namesOf_ok hn
  have hunslashed : isSlashed p = false := Bool.eq_false_iff.2 fun hs => by
    rw [hslash hs] at hat
    cases hat
  rcases List.eq_nil_or_concat names with rfl | ⟨init, last, rfl⟩
  · -- Only the root is named by nothing, and that is a directory.
    have habs : p.isAbsolute = true := Classical.byContradiction fun habs =>
      Path.names_ne_nil hne (by simpa using habs) hnames
    rw [follow, habs] at hf
    rw [← Except.ok.inj hf] at hat
    cases hat
  · rw [List.concat_eq_append] at *
    obtain ⟨dir, hdir, hlast⟩ := foldlM_step_append.1 hf
    exact ⟨init, last, dir, hn, hunslashed, hdir, (foldlM_step_cons.1 hlast).1⟩

theorem resolve_tmp_of_isFile (h : fs.isFile cwd p = true) :
    fs.resolve cwd p.tmp = .error .nameTooLong ∨ ∃ loc, fs.resolve cwd p.tmp = .ok loc := by
  obtain ⟨init, last, dir, hn, hslash, hf, hdir⟩ := follow_of_isFile h
  obtain ⟨hne, hnames⟩ := namesOf_ok hn
  have htmp : p.tmp.names = init ++ [last ++ ".tmp".toList] := Path.names_tmp hne hslash hnames
  have hlong (q : Text) (hq : q.length < 4) : last ++ ".tmp".toList ≠ q := by
    rintro rfl
    rw [List.length_append] at hq
    exact Nat.not_lt.2 (Nat.le_add_left 4 last.length) hq
  have hresolve : fs.resolve cwd p.tmp =
      if maxPath < (Utf8.encode p.tmp.text).length then .error .nameTooLong
      else fs.step dir (last ++ ".tmp".toList) := by
    rw [resolve, namesOf_tmp hn]
    split
    · rfl
    · show fs.follow cwd p.tmp (if isSlashed p.tmp then p.tmp.names ++ [['.']] else p.tmp.names) = _
      rw [isSlashed_tmp, if_neg (by decide), htmp, follow, Path.isAbsolute_tmp hne, List.foldlM_append]
      rw [follow] at hf
      rw [hf]
      show [last ++ ".tmp".toList].foldlM fs.step dir = _
      rw [List.foldlM_cons]
      cases fs.step dir (last ++ ".tmp".toList) <;> rfl
  rw [hresolve]
  split
  · exact .inl rfl
  · rw [step, hdir]
    dsimp only
    rw [if_neg (hlong ['.'] (by decide)), if_neg (hlong ['.', '.'] (by decide))]
    split
    · exact .inl rfl
    · exact .inr ⟨_, rfl⟩

/-- The temporary file next to a file can be deleted unless it is none, or its name is too long. -/
theorem exists_removeIfPresent_tmp_error_iff (h : fs.isFile cwd p = true) :
    (∃ e, fs.removeIfPresent cwd p.tmp = .error e) ↔
      fs.isDirectory cwd p.tmp = true ∨ fs.resolve cwd p.tmp = .error .nameTooLong := by
  constructor
  · rintro ⟨e, he⟩
    rcases resolve_tmp_of_isFile h with hlong | ⟨loc, hr⟩
    · exact .inr hlong
    rcases hat : fs.at? loc with _ | ⟨_ | ⟨contents, executable⟩⟩
    · rw [removeIfPresent, remove_of_none hr hat] at he
      cases he
    · rw [isDirectory, lookup_of_resolve hr hat]
      exact .inl rfl
    · rw [removeIfPresent, remove_of_resolve hr hat] at he
      cases he
  · rintro (hdir | hlong)
    · obtain ⟨hr, hat⟩ := resolve_of_lookup (isDirectory_iff.1 hdir)
      exact ⟨.isADirectory, by rw [removeIfPresent, remove_of_directory hr hat]⟩
    · refine ⟨.nameTooLong, ?_⟩
      simp only [removeIfPresent, remove, lookup, hlong, bind, Except.bind]

end FileSystem

namespace Compiler

open FileSystem

variable {c : Compiler} {here : Surroundings} {o : Options} {source output : Path}
  {fs : FileSystem} {f : Failure}

/-- How a strict attempt fails: at the start, with nothing changed, or with the output discarded. -/
theorem final_of_strict_failure (hs : o.strict = true)
    (hf : (c.compile here o source output fs).outcome = .failed f) :
    (∃ e, fs.removeIfPresent here.cwd output.tmp = .error e ∧
        (c.compile here o source output fs).final fs = fs) ∨
      ∃ fs₁ fs₂, fs.removeIfPresent here.cwd output.tmp = .ok fs₁ ∧
        (c.produce here o.timeout source output.tmp fs₁).final fs₁ = fs₂ ∧
        (c.compile here o source output fs).final fs =
          (fs₂.discard here.cwd output.tmp).discard here.cwd output := by
  rcases compile_course c here o source output fs with
    ⟨e, hr, ha⟩ | ⟨fs₁, made, fs₂, hr, rfl, hfs₂, ⟨ho, -⟩ | ⟨f', -, hfinal⟩ | ⟨n, fs₃, ho, -⟩⟩
  · exact .inl ⟨e, hr, by rw [ha]; rfl⟩
  · rw [ho] at hf
    cases hf
  · rw [if_pos hs] at hfinal
    exact .inr ⟨fs₁, fs₂, hr, hfs₂, hfinal⟩
  · rw [ho] at hf
    cases hf

/-- A strict attempt that fails leaves a file at its output only if it was there before and the
temporary file could not be deleted, since a directory stands in its place or its name is too long.  If
its compiler makes no directory, it leaves nothing else there either. -/
theorem strict_failure_keeps_output_iff {c : Compiler} {here : Surroundings} {o : Options}
    {source output : Path} {fs : FileSystem} {f : Failure} (hs : o.strict = true)
    (hf : (c.compile here o source output fs).outcome = .failed f) :
    let after := (c.compile here o source output fs).final fs
    (after.isFile here.cwd output = true ↔ fs.isFile here.cwd output = true ∧
      (fs.isDirectory here.cwd output.tmp = true ∨
        fs.resolve here.cwd output.tmp = .error .nameTooLong)) ∧
    (c.MakesNoDirectory → after.isDirectory here.cwd output = true →
      fs.isDirectory here.cwd output = true) := by
  intro after
  rcases final_of_strict_failure hs hf with ⟨e, hr, hafter⟩ | ⟨fs₁, fs₂, hr, hfs₂, hafter⟩
  · rw [show after = fs from hafter]
    refine ⟨⟨fun h => ⟨h, ?_⟩, And.left⟩, fun _ h => h⟩
    exact (exists_removeIfPresent_tmp_error_iff h).1 ⟨e, hr⟩
  · rw [show after = _ from hafter, isFile_discard]
    refine ⟨⟨nofun, fun ⟨hfile, hblocked⟩ => ?_⟩, fun hd h => ?_⟩
    · obtain ⟨e, he⟩ := (exists_removeIfPresent_tmp_error_iff hfile).2 hblocked
      rw [hr] at he
      cases he
    · -- No directory is new after any of the steps.
      have hmade : KeepsDirectories fs₂ fs₁ := hfs₂ ▸ hd.produce here o.timeout source output.tmp fs₁
      have hfirst : KeepsDirectories fs₁ fs := by
        rw [removeIfPresent_discard hr]
        exact discard_keeps fs here.cwd output.tmp
      refine isDirectory_mono (fun l hl => hfirst l (hmade l ?_)) h
      exact discard_keeps _ _ _ l (discard_keeps _ _ _ l hl)

/-- An older output whose temporary file has a directory in its place. -/
def blockedTmpFiles : FileSystem :=
  ((FileSystem.put ∅ ["a.json".toList] (some (.file [1, 2] false))).put ["a.srs".toList]
    (some (.file [3] false))).put ["a.srs.tmp".toList] (some .directory)

/-- The output has survived the failure. -/
theorem blocked_failure_keeps_output :
    blockedTmpFiles.Admits [] ⟨"a.srs".toList⟩ ∧
    ((copying []).compile ⟨[], 0⟩ ⟨1000, true⟩ ⟨"a.json".toList⟩ ⟨"a.srs".toList⟩
      blockedTmpFiles).outcome = .failed (.io .isADirectory) ∧
    (((copying []).compile ⟨[], 0⟩ ⟨1000, true⟩ ⟨"a.json".toList⟩ ⟨"a.srs".toList⟩
      blockedTmpFiles).final blockedTmpFiles).at? ["a.srs".toList] = some (.file [3] false) :=
  ⟨⟨by rfl, by decide, by decide⟩, by rfl, by rfl⟩

/-- A compiler that is killed, over an older output and next to a stale temporary file. -/
theorem killed_failure_removes_output :
    let attempt := (copying []).compile ⟨[], 0⟩ ⟨0, true⟩ ⟨"a.json".toList⟩ ⟨"a.srs".toList⟩
      staleTmpFiles
    attempt.outcome = .failed (.compile .timeout "copy timed out after 0ns".toList) ∧
    (copying []).MakesNoDirectory ∧
    staleTmpFiles.isFile [] ⟨"a.srs".toList⟩ = true ∧
    (attempt.final staleTmpFiles).isFile [] ⟨"a.srs".toList⟩ = false ∧
    (attempt.final staleTmpFiles).isDirectory [] ⟨"a.srs".toList⟩ = false := by
  intro attempt
  have hf : attempt.outcome = .failed (.compile .timeout "copy timed out after 0ns".toList) := by rfl
  have hd : (copying []).MakesNoDirectory := copying_makesNoDirectory []
  obtain ⟨hfile, hdirectory⟩ := strict_failure_keeps_output_iff (by rfl) hf
  refine ⟨hf, hd, by decide, Bool.eq_false_iff.2 fun h => ?_, Bool.eq_false_iff.2 fun h => ?_⟩
  · rcases (hfile.1 h).2 with hblocked | hlong
    · exact absurd hblocked (by decide)
    · exact absurd hlong (by decide)
  · exact absurd (hdirectory hd h) (by decide)

end Compiler
end RuleSets
