import RuleSets.Proofs.FileSystem.Operation
import RuleSets.Proofs.Pipeline.FileName

/-!
# Sweeping orphans

`removeOrphans_spec`: the files that are deleted are those at locations that a target manages and no
present source owns (`Orphaned`); everything else stays, directories included.
-/

namespace RuleSets.Pipeline

variable {o : Options} {targets ts : List Target} {names : List Text} {cwd dir : Location}
  {fs fs' : FileSystem} {path : Path} {file : Text} {t u : Target}

/-! ### Deleting files -/

/-- What is left of an entry when files are deleted. -/
def swept : Option Entry → Option Entry
  | some (.file _ _) => none
  | e => e

theorem swept_ne_file {e : Option Entry} {contents : Bytes} {executable : Bool} :
    swept e ≠ some (.file contents executable) := by
  rcases e with _ | ⟨_ | ⟨contents', executable'⟩⟩ <;> simp [swept]

/-- Whether one file system is the other without the files at some locations. -/
structure SweptAt (gone : Location → Prop) (fs fs' : FileSystem) : Prop where
  own : ∀ l, gone l → fs'.get? l = swept (fs.get? l)
  frame : ∀ l, ¬ gone l → fs'.get? l = fs.get? l

namespace SweptAt

variable {gone gone' : Location → Prop} {fs'' : FileSystem}

theorem refl (fs : FileSystem) : SweptAt (fun _ => False) fs fs :=
  ⟨fun _ h => h.elim, fun _ _ => rfl⟩

theorem trans (h : SweptAt gone fs fs') (h' : SweptAt gone' fs' fs'') :
    SweptAt (fun l => gone l ∨ gone' l) fs fs'' := by
  have hidem (e : Option Entry) : swept (swept e) = swept e := by
    rcases e with _ | ⟨_ | ⟨contents, executable⟩⟩ <;> rfl
  constructor
  · intro l hl
    by_cases hl' : gone' l
    · rw [h'.own l hl']
      by_cases hg : gone l
      · rw [h.own l hg, hidem]
      · rw [h.frame l hg]
    · rw [h'.frame l hl', h.own l (hl.resolve_right hl')]
  · intro l hl
    rw [not_or] at hl
    rw [h'.frame l hl.2, h.frame l hl.1]

theorem congr (h : SweptAt gone fs fs') (hgone : ∀ l, gone l ↔ gone' l) : SweptAt gone' fs fs' :=
  ⟨fun l hl => h.own l ((hgone l).2 hl), fun l hl => h.frame l fun hg => hl ((hgone l).1 hg)⟩

theorem sameDirectories (h : SweptAt gone fs fs') : FileSystem.SameDirectories fs fs' := by
  intro l
  rcases List.eq_nil_or_concat l with rfl | ⟨init, name, rfl⟩
  · exact Iff.rfl
  rw [FileSystem.at?_eq_get? _ (by simp), FileSystem.at?_eq_get? _ (by simp)]
  by_cases hl : gone (init.concat name)
  · rw [h.own _ hl]
    rcases fs.get? (init.concat name) with _ | ⟨_ | ⟨contents, executable⟩⟩ <;> simp [swept]
  · rw [h.frame _ hl]

theorem ne_none (h : SweptAt gone fs fs') {l : Location} (hl : fs'.get? l ≠ none) :
    fs.get? l ≠ none := by
  intro hn
  by_cases hg : gone l
  · exact hl (by rw [h.own l hg, hn]; rfl)
  · exact hl (by rw [h.frame l hg, hn])

end SweptAt

theorem remove_swept (h : fs.resolve cwd (path.join ⟨file⟩) = .ok (dir ++ [file])) :
    match fs.remove cwd (path.join ⟨file⟩) with
    | .ok fs' => SweptAt (· = dir ++ [file]) fs fs'
    | .error _ => SweptAt (· = dir ++ [file]) fs fs := by
  have hat : fs.at? (dir ++ [file]) = fs.get? (dir ++ [file]) := FileSystem.at?_eq_get? _ (by simp)
  rcases he : fs.get? (dir ++ [file]) with _ | ⟨_ | ⟨contents, executable⟩⟩
  · rw [FileSystem.remove_of_none h (hat.trans he)]
    exact ⟨fun l hl => by rw [hl, he]; rfl, fun _ _ => rfl⟩
  · rw [FileSystem.remove_of_directory h (hat.trans he)]
    exact ⟨fun l hl => by rw [hl, he]; rfl, fun _ _ => rfl⟩
  · rw [FileSystem.remove_of_resolve h (hat.trans he)]
    refine ⟨fun l hl => ?_, fun l hl => FileSystem.get?_put_of_ne hl⟩
    rw [hl, FileSystem.get?_put_self, he]
    rfl

theorem foldl_remove_swept (files : List Text) (n : Nat)
    (h : ∀ file ∈ files, fs.resolve cwd (path.join ⟨file⟩) = .ok (dir ++ [file])) :
    SweptAt (fun l => ∃ file ∈ files, l = dir ++ [file]) fs
      (files.foldl (fun (fs, n) file =>
        match fs.remove cwd (path.join ⟨file⟩) with
        | .ok fs' => (fs', n + 1)
        | .error _ => (fs, n)) (fs, n)).1 := by
  induction files generalizing fs n with
  | nil => exact (SweptAt.refl fs).congr fun l => by simp
  | cons file files ih =>
    have hone := remove_swept (h file (List.mem_cons_self ..))
    have hsplit (l : Location) : (l = dir ++ [file] ∨ ∃ file' ∈ files, l = dir ++ [file']) ↔
        ∃ file' ∈ file :: files, l = dir ++ [file'] := by
      simp only [List.mem_cons, exists_eq_or_imp]
    rw [List.foldl_cons]
    cases hr : fs.remove cwd (path.join ⟨file⟩) with
    | error e =>
      rw [hr] at hone
      simp only [hr]
      exact (hone.trans (ih n fun file' hf => h file' (List.mem_cons_of_mem _ hf))).congr hsplit
    | ok fs₁ =>
      rw [hr] at hone
      simp only [hr]
      refine (hone.trans (ih (n + 1) fun file' hf => ?_)).congr hsplit
      exact FileSystem.resolve_congr hone.sameDirectories (h file' (List.mem_cons_of_mem _ hf))

/-- Deleting the files of a directory that satisfy `q`, if all entries of it can be reached. -/
theorem removeFiles_swept {q : Text → Bool} (hdir : fs.lookup cwd path = .ok (dir, .directory))
    (hreach : ∀ file, q file = true → fs.get? (dir ++ [file]) ≠ none →
      fs.resolve cwd (path.join ⟨file⟩) = .ok (dir ++ [file])) :
    SweptAt (fun l => ∃ file, q file = true ∧ l = dir ++ [file]) fs
      (removeFiles cwd path q fs).1 := by
  rw [removeFiles, FileSystem.list_of_lookup hdir]
  have hfold := foldl_remove_swept ((fs.names dir).filter q) 0 fun file hf =>
    hreach file (List.mem_filter.1 hf).2 (FileSystem.mem_names.1 (List.mem_filter.1 hf).1)
  constructor
  · rintro l ⟨file, hq, rfl⟩
    by_cases hmem : file ∈ fs.names dir
    · exact hfold.own _ ⟨file, List.mem_filter.2 ⟨hmem, hq⟩, rfl⟩
    · have hnone : fs.get? (dir ++ [file]) = none := by
        by_cases hn : fs.get? (dir ++ [file]) = none
        · exact hn
        · exact absurd (FileSystem.mem_names.2 hn) hmem
      refine (hfold.frame (dir ++ [file]) ?_).trans (by rw [hnone]; rfl)
      rintro ⟨file', hf, he⟩
      obtain rfl : file = file' := (List.cons.inj (List.append_inj' he rfl).2).1
      exact hmem (List.mem_filter.1 hf).1
  · intro l hl
    refine hfold.frame l ?_
    rintro ⟨file, hf, rfl⟩
    exact hl ⟨file, (List.mem_filter.1 hf).2, rfl⟩

/-! ### Directories with their targets -/

theorem same_comm {a b : Path} (h : a.same b = true) : b.same a = true := by
  rw [Path.same, beq_iff_eq] at h ⊢
  exact h.symm

theorem same_trans {a b c : Path} (h : a.same b = true) (h' : b.same c = true) :
    a.same c = true := by
  rw [Path.same, beq_iff_eq] at h h' ⊢
  exact h.trans h'

/-- What is so of every group: its targets are those with its directory, and the directory is that of
one of them. -/
structure IsGroup (o : Options) (targets : List Target) (g : Path × List Target) : Prop where
  mem_iff : ∀ t, t ∈ g.2 ↔ t ∈ targets ∧ (o.artifactDir t).same g.1 = true
  directory : ∃ t ∈ g.2, o.artifactDir t = g.1

theorem byDirectory_groups (o : Options) (targets : List Target) :
    (∀ g ∈ byDirectory o targets, IsGroup o targets g) ∧
      ∀ t ∈ targets, ∃ g ∈ byDirectory o targets, t ∈ g.2 := by
  induction targets with
  | nil => exact ⟨fun g hg => absurd hg List.not_mem_nil, fun t ht => absurd ht List.not_mem_nil⟩
  | cons t ts ih =>
    obtain ⟨hgroup, hcover⟩ := ih
    have hself : (o.artifactDir t).same (o.artifactDir t) = true := beq_self_eq_true _
    -- The groups that `t` is put before hold the targets with its directory and no others.
    have hhere (u : Target) : u ∈ ((byDirectory o ts).filter
        (·.1.same (o.artifactDir t))).flatMap (·.2) ↔
          u ∈ ts ∧ (o.artifactDir u).same (o.artifactDir t) = true := by
      rw [List.mem_flatMap]
      constructor
      · rintro ⟨g, hg, hu⟩
        obtain ⟨hg, hsame⟩ := List.mem_filter.1 hg
        obtain ⟨hmem, hdir⟩ := ((hgroup g hg).mem_iff u).1 hu
        exact ⟨hmem, same_trans hdir hsame⟩
      · rintro ⟨hu, hsame⟩
        obtain ⟨g, hg, hmem⟩ := hcover u hu
        refine ⟨g, List.mem_filter.2 ⟨hg, ?_⟩, hmem⟩
        exact same_trans (same_comm (((hgroup g hg).mem_iff u).1 hmem).2) hsame
    rw [byDirectory]
    constructor
    · intro g hg
      rcases List.mem_cons.1 hg with rfl | hg
      · refine ⟨fun u => ?_, t, List.mem_cons_self .., rfl⟩
        rw [List.mem_cons, hhere, List.mem_cons]
        constructor
        · rintro (rfl | ⟨hu, hsame⟩)
          · exact ⟨.inl rfl, hself⟩
          · exact ⟨.inr hu, hsame⟩
        · rintro ⟨rfl | hu, hsame⟩
          · exact .inl rfl
          · exact .inr ⟨hu, hsame⟩
      · obtain ⟨hg, hother⟩ := List.mem_filter.1 hg
        refine ⟨fun u => ?_, (hgroup g hg).directory⟩
        rw [(hgroup g hg).mem_iff u, List.mem_cons]
        constructor
        · rintro ⟨hu, hsame⟩
          exact ⟨.inr hu, hsame⟩
        · rintro ⟨rfl | hu, hsame⟩
          · rw [same_comm hsame] at hother
            cases hother
          · exact ⟨hu, hsame⟩
    · intro u hu
      by_cases hsame : (o.artifactDir u).same (o.artifactDir t) = true
      · refine ⟨_, List.mem_cons_self .., ?_⟩
        rcases List.mem_cons.1 hu with rfl | hu
        · exact List.mem_cons_self ..
        · exact List.mem_cons_of_mem _ ((hhere u).2 ⟨hu, hsame⟩)
      · rcases List.mem_cons.1 hu with rfl | hu
        · exact absurd hself hsame
        · obtain ⟨g, hg, hmem⟩ := hcover u hu
          refine ⟨g, List.mem_cons_of_mem _ (List.mem_filter.2 ⟨hg, ?_⟩), hmem⟩
          rw [Bool.not_eq_true']
          by_cases hg' : g.1.same (o.artifactDir t) = true
          · exact absurd (same_trans (((hgroup g hg).mem_iff u).1 hmem).2 hg') hsame
          · simpa using hg'

/-! ### Orphans -/

/-- Whether a file name has the extension of a target, perhaps with `.tmp` behind it. -/
def Manages (t : Target) (file : Text) : Prop :=
  ∃ stem, file = stem ++ t.extension ∨ file = stem ++ t.extension ++ ".tmp".toList

/-- Whether a location is managed by a target and belongs to no present source. -/
def Orphaned (o : Options) (cwd : Location) (targets : List Target) (names : List Text)
    (l : Location) : Prop :=
  ∃ t ∈ targets, ∃ file, Manages t file ∧ l = (o.artifactDir t).location cwd ++ [file] ∧
    ∀ u ∈ targets, ∀ n ∈ names, u.artifactName n ≠ file

theorem withoutTmp_append (s : Text) : withoutTmp (s ++ ".tmp".toList) = s := by
  have hsuffix : (".tmp".toList : Text).isSuffixOf (s ++ ".tmp".toList) = true := by
    rw [List.isSuffixOf_iff_suffix]
    exact List.suffix_append ..
  rw [withoutTmp, Text.beforeSuffix?, if_pos hsuffix, List.length_append, Nat.add_sub_cancel,
    List.take_left]
  rfl

/-- Two ends of which neither ends in the other are not ends of one text. -/
theorem not_suffix_append {a b : Text} (hab : ¬ a <:+ b) (hba : ¬ b <:+ a) (s : Text) :
    ¬ a <:+ s ++ b := fun h =>
  (List.suffix_or_suffix_of_suffix h (List.suffix_append s b)).elim hab hba

theorem withoutTmp_of_extension (s : Text) : withoutTmp (s ++ t.extension) = s ++ t.extension := by
  have hsuffix : ¬ (".tmp".toList : Text).isSuffixOf (s ++ t.extension) = true := by
    rw [List.isSuffixOf_iff_suffix]
    exact not_suffix_append (by cases t <;> decide) (by cases t <;> decide) s
  rw [withoutTmp, Text.beforeSuffix?, if_neg hsuffix]
  rfl

theorem manages_iff : Manages t file ↔ t.extension.isSuffixOf (withoutTmp file) = true := by
  rw [List.isSuffixOf_iff_suffix]
  constructor
  · rintro ⟨stem, rfl | rfl⟩
    · rw [withoutTmp_of_extension]
      exact List.suffix_append ..
    · rw [withoutTmp_append]
      exact List.suffix_append ..
  · rintro ⟨stem, hstem⟩
    refine ⟨stem, ?_⟩
    rw [hstem, withoutTmp, Text.beforeSuffix?]
    split
    · rename_i h
      obtain ⟨s, rfl⟩ := List.isSuffixOf_iff_suffix.1 h
      right
      rw [List.length_append, Nat.add_sub_cancel, List.take_left]
      rfl
    · exact .inl rfl

theorem manages_artifact (t : Target) (n : Text) : Manages t (fileName t n .artifact) :=
  ⟨n ++ t.nameTail, .inl (by rw [fileName, tail, List.append_assoc])⟩

theorem manages_tmp (t : Target) (n : Text) : Manages t (fileName t n .tmp) :=
  ⟨n ++ t.nameTail, .inr (by simp only [fileName, tail, List.append_assoc])⟩

theorem artifactName_ne_tmp {n stem : Text} :
    u.artifactName n ≠ stem ++ t.extension ++ ".tmp".toList := by
  intro he
  have hsame := congrArg withoutTmp he
  rw [withoutTmp_append, Target.artifactName, withoutTmp_of_extension] at hsame
  rw [Target.artifactName, hsame] at he
  exact absurd (List.self_eq_append_right.1 he) (by decide)

/-- Temporary files are orphans always. -/
theorem orphaned_tmp {n : Text} (ht : t ∈ targets) (hsafe : Manifest.isSafeName n = true) :
    Orphaned o cwd targets names (o.place cwd t n .tmp) := by
  refine ⟨t, ht, fileName t n .tmp, manages_tmp t n, Options.place_eq hsafe, fun u _ m _ => ?_⟩
  have htail : fileName t n .tmp = n ++ t.nameTail ++ t.extension ++ ".tmp".toList := by
    simp only [fileName, tail, List.append_assoc]
  rw [htail]
  exact artifactName_ne_tmp

theorem not_orphaned_artifact {n : Text} (ht : t ∈ targets) (hn : n ∈ names)
    (hsafe : Manifest.isSafeName n = true) :
    ¬ Orphaned o cwd targets names (o.place cwd t n .artifact) := by
  rintro ⟨u, -, file, -, hl, hfree⟩
  rw [Options.place_eq hsafe, fileName_artifact] at hl
  exact hfree t ht n hn (List.cons.inj (List.append_inj' hl rfl).2).1

theorem not_orphaned_source {n : Text} (hsafe : Manifest.isSafeName n = true) :
    ¬ Orphaned o cwd targets names (o.place cwd t n .source) := by
  rintro ⟨u, -, file, hmanages, hl, -⟩
  rw [Options.place_eq hsafe] at hl
  obtain rfl : fileName t n .source = file := (List.cons.inj (List.append_inj' hl rfl).2).1
  have hsource : t.sourceExtension <:+ fileName t n .source :=
    ⟨n ++ t.nameTail, by rw [fileName, tail, List.append_assoc]⟩
  obtain ⟨stem, he | he⟩ := hmanages
  · rw [he] at hsource
    exact not_suffix_append (by cases t <;> cases u <;> decide) (by cases t <;> cases u <;> decide)
      stem hsource
  · rw [he] at hsource
    exact not_suffix_append (by cases t <;> decide) (by cases t <;> decide) (stem ++ u.extension)
      hsource

/-- A target manages the compiled files of those targets that have its extension. -/
theorem manages_artifact_iff {n : Text} :
    Manages t (u.artifactName n) ↔ t.extension = u.extension := by
  rw [manages_iff, Target.artifactName, withoutTmp_of_extension, List.isSuffixOf_iff_suffix]
  constructor
  · intro h
    refine Classical.byContradiction fun hne => ?_
    exact not_suffix_append (by revert hne; cases t <;> cases u <;> decide)
      (by revert hne; cases t <;> cases u <;> decide) _ h
  · rintro hext
    rw [hext]
    exact List.suffix_append ..

theorem artifactDir_of_extension (h : t.extension = u.extension) :
    o.artifactDir t = o.artifactDir u := by
  revert h
  cases t <;> cases u <;> intro h <;> first | rfl | (exact absurd h (by decide))

/-- Targets that manage one compiled file share their directory. -/
theorem artifactDir_of_manages {n : Text} (h : Manages t (u.artifactName n)) :
    o.artifactDir t = o.artifactDir u :=
  artifactDir_of_extension (manages_artifact_iff.1 h)

theorem isOrphan_iff {g : Path × List Target} (hg : IsGroup o targets g) :
    isOrphan g.2 names file = true ↔
      (∃ t ∈ g.2, Manages t file) ∧ ∀ u ∈ targets, ∀ n ∈ names, u.artifactName n ≠ file := by
  rw [isOrphan, Bool.and_eq_true, List.any_eq_true, Bool.not_eq_true', Bool.and_eq_false_iff]
  constructor
  · rintro ⟨⟨t, ht, hsuffix⟩, hfree⟩
    have hmanages := manages_iff.2 hsuffix
    refine ⟨⟨t, ht, hmanages⟩, ?_⟩
    rintro u hu n hn rfl
    have hmem : u ∈ g.2 := by
      refine (hg.mem_iff u).2 ⟨hu, ?_⟩
      rw [← artifactDir_of_manages hmanages]
      exact ((hg.mem_iff t).1 ht).2
    rcases hfree with hbase | hfree
    · rw [Target.artifactName, withoutTmp_of_extension, beq_self_eq_true] at hbase
      cases hbase
    · rw [List.any_eq_false] at hfree
      refine hfree u hmem (List.any_eq_true.2 ⟨n, hn, ?_⟩)
      exact beq_self_eq_true _
  · rintro ⟨⟨t, ht, hmanages⟩, hfree⟩
    refine ⟨⟨t, ht, manages_iff.1 hmanages⟩, .inr ?_⟩
    rw [List.any_eq_false]
    intro u hu
    rw [Bool.not_eq_true, List.any_eq_false]
    intro n hn
    rw [beq_iff_eq]
    exact hfree u ((hg.mem_iff u).1 hu).1 n hn

/-- Which files are orphans depends on which sources there are, not on their order. -/
theorem removeOrphans_congr {names' : List Text} (h : ∀ n, n ∈ names' ↔ n ∈ names) :
    removeOrphans cwd o targets names' fs = removeOrphans cwd o targets names fs := by
  have horphan (ts : List Target) : isOrphan ts names' = isOrphan ts names := by
    funext file
    have hany (t : Target) : (names'.any fun n => t.artifactName n == file) =
        names.any fun n => t.artifactName n == file := by
      rw [Bool.eq_iff_iff, List.any_eq_true, List.any_eq_true]
      simp only [h]
    simp only [isOrphan, hany]
  simp only [removeOrphans, horphan]

/-- Whether the orphans of a directory can be found and reached. -/
structure Sweepable (cwd : Location) (names : List Text) (fs : FileSystem) (g : Path × List Target) :
    Prop where
  directory : fs.lookup cwd g.1 = .ok (g.1.location cwd, .directory)
  reach : ∀ file, isOrphan g.2 names file = true → fs.get? (g.1.location cwd ++ [file]) ≠ none →
    fs.resolve cwd (g.1.join ⟨file⟩) = .ok (g.1.location cwd ++ [file])

theorem Sweepable.congr {gone : Location → Prop} {g : Path × List Target}
    (h : Sweepable cwd names fs g) (hs : SweptAt gone fs fs') : Sweepable cwd names fs' g where
  directory := FileSystem.lookup_directory_congr hs.sameDirectories h.directory
  reach file hf hne := FileSystem.resolve_congr hs.sameDirectories (h.reach file hf (hs.ne_none hne))

theorem foldl_removeFiles_swept (gs : List (Path × List Target)) (n : Nat)
    (h : ∀ g ∈ gs, Sweepable cwd names fs g) :
    SweptAt (fun l => ∃ g ∈ gs, ∃ file, isOrphan g.2 names file = true ∧
        l = g.1.location cwd ++ [file]) fs
      (gs.foldl (fun (fs, n) (dir, ts) =>
        let (fs', m) := removeFiles cwd dir (isOrphan ts names) fs
        (fs', n + m)) (fs, n)).1 := by
  induction gs generalizing fs n with
  | nil => exact (SweptAt.refl fs).congr fun l => by simp
  | cons g gs ih =>
    obtain ⟨hdir, hreach⟩ := h g (List.mem_cons_self ..)
    have hone := removeFiles_swept hdir hreach
    have hrest := ih (n + (removeFiles cwd g.1 (isOrphan g.2 names) fs).2) fun g' hg' =>
      (h g' (List.mem_cons_of_mem _ hg')).congr hone
    refine (hone.trans hrest).congr fun l => ?_
    simp only [List.mem_cons, exists_eq_or_imp]

/-- The orphans of the groups are the orphans of their targets. -/
theorem orphaned_iff {l : Location} : Orphaned o cwd targets names l ↔
    ∃ g ∈ byDirectory o targets, ∃ file, isOrphan g.2 names file = true ∧
      l = g.1.location cwd ++ [file] := by
  obtain ⟨hgroup, hcover⟩ := byDirectory_groups o targets
  constructor
  · rintro ⟨t, ht, file, hmanages, rfl, hfree⟩
    obtain ⟨g, hg, hmem⟩ := hcover t ht
    refine ⟨g, hg, file, (isOrphan_iff (hgroup g hg)).2 ⟨⟨t, hmem, hmanages⟩, hfree⟩, ?_⟩
    rw [Path.location_of_same (((hgroup g hg).mem_iff t).1 hmem).2]
  · rintro ⟨g, hg, file, hf, rfl⟩
    obtain ⟨⟨t, ht, hmanages⟩, hfree⟩ := (isOrphan_iff (hgroup g hg)).1 hf
    obtain ⟨hmem, hsame⟩ := ((hgroup g hg).mem_iff t).1 ht
    exact ⟨t, hmem, file, hmanages, by rw [Path.location_of_same hsame], hfree⟩

/-- Exactly the orphans are deleted. -/
theorem removeOrphans_spec
    (hdir : ∀ t ∈ targets, fs.lookup cwd (o.artifactDir t) =
      .ok ((o.artifactDir t).location cwd, .directory))
    (hreach : ∀ t ∈ targets, ∀ file,
      Orphaned o cwd targets names ((o.artifactDir t).location cwd ++ [file]) →
      fs.get? ((o.artifactDir t).location cwd ++ [file]) ≠ none →
      fs.resolve cwd ((o.artifactDir t).join ⟨file⟩) =
        .ok ((o.artifactDir t).location cwd ++ [file])) :
    SweptAt (Orphaned o cwd targets names) fs (removeOrphans cwd o targets names fs).1 := by
  refine (foldl_removeFiles_swept (byDirectory o targets) 0 fun g hg => ?_).congr
    fun l => orphaned_iff.symm
  have hgroup := (byDirectory_groups o targets).1
  obtain ⟨t, ht, hdirectory⟩ := (hgroup g hg).directory
  have hmem := (((hgroup g hg).mem_iff t).1 ht).1
  refine ⟨hdirectory ▸ hdir t hmem, fun file hf hne => ?_⟩
  have hgone : Orphaned o cwd targets names (g.1.location cwd ++ [file]) :=
    orphaned_iff.2 ⟨g, hg, file, hf, rfl⟩
  rw [← hdirectory] at hgone hne ⊢
  exact hreach t hmem file hgone hne

end RuleSets.Pipeline
