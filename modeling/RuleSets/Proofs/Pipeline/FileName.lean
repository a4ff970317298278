import RuleSets.Pipeline.Orphan
import RuleSets.Manifest
import RuleSets.Proofs.FileSystem.Location

/-!
# File names of a run

A run touches three files for a target and a source: the compiled file, its temporary file and the
emitted source.  All of their names differ (`fileName_injective`), so no two of them share a location
(`place_injective`) or a path, and none is outside its directory (`files_stay_apart`), whatever the
directories are.
-/

namespace RuleSets.Pipeline

/-- What a file of a run is for. -/
inductive Role where
  | artifact
  | tmp
  | source
deriving DecidableEq

/-- What follows a source's name in a file name. -/
def tail (t : Target) : Role → Text
  | .artifact => t.nameTail ++ t.extension
  | .tmp => t.nameTail ++ t.extension ++ ".tmp".toList
  | .source => t.nameTail ++ t.sourceExtension

/-- The name of a file of a run. -/
def fileName (t : Target) (name : Text) (role : Role) : Text := name ++ tail t role

variable {t u : Target} {n m : Text} {r q : Role}

theorem eq_of_tail_suffix (h : tail t r <:+ tail u q) : t = u ∧ r = q := by
  revert h
  cases t <;> cases u <;> cases r <;> cases q <;> decide

theorem fileName_injective (h : fileName t n r = fileName u m q) : t = u ∧ n = m ∧ r = q := by
  have hr : tail t r <:+ fileName u m q := h ▸ List.suffix_append n (tail t r)
  have hq : tail u q <:+ fileName u m q := List.suffix_append m (tail u q)
  obtain ⟨rfl, rfl⟩ : t = u ∧ r = q := by
    rcases List.suffix_or_suffix_of_suffix hr hq with hs | hs
    · exact eq_of_tail_suffix hs
    · obtain ⟨rfl, rfl⟩ := eq_of_tail_suffix hs
      exact ⟨rfl, rfl⟩
  exact ⟨rfl, List.append_cancel_right h, rfl⟩

theorem fileName_artifact (t : Target) (n : Text) : fileName t n .artifact = t.artifactName n := by
  rw [fileName, Target.artifactName, List.append_assoc]
  rfl

theorem fileName_tmp (t : Target) (n : Text) :
    fileName t n .tmp = fileName t n .artifact ++ ".tmp".toList := by
  simp only [fileName, tail, List.append_assoc]

theorem fileName_source (t : Target) (n : Text) : fileName t n .source = t.sourceName n := by
  rw [fileName, Target.sourceName, List.append_assoc]
  rfl

theorem isName_fileName (hn : Manifest.isSafeName n = true) : Path.IsName (fileName t n r) := by
  simp only [Manifest.isSafeName, Bool.and_eq_true, bne_iff_ne, ne_eq, Bool.not_eq_true',
    List.any_eq_false, Bool.or_eq_true, beq_iff_eq, not_or] at hn
  obtain ⟨⟨hne, hdot⟩, hchars⟩ := hn
  obtain ⟨c, s, rfl⟩ := List.exists_cons_of_ne_nil (by simpa using hne)
  have hc : c ≠ '.' := fun h => hdot (by rw [h]; rfl)
  have htail : '/' ∉ tail t r := by cases t <;> cases r <;> decide
  refine ⟨by simp [fileName], ?_, ?_, fun hslash => ?_⟩
  · exact fun h => hc (List.cons.inj h).1
  · exact fun h => hc (List.cons.inj h).1
  · rcases List.mem_append.1 hslash with h | h
    · exact (hchars _ h).1.1 rfl
    · exact htail h

namespace Options

def dirOf (o : Options) (t : Target) : Role → Path
  | .source => o.workDir
  | _ => o.artifactDir t

def filePath (o : Options) (t : Target) (name : Text) : Role → Path
  | .artifact => o.artifactPath t name
  | .tmp => (o.artifactPath t name).tmp
  | .source => o.sourcePath t name

/-- The location of a file of a run. -/
def place (o : Options) (cwd : Location) (t : Target) (name : Text) (role : Role) : Location :=
  (o.filePath t name role).location cwd

variable {o : Options} {cwd : Location}

theorem filePath_eq (hn : Manifest.isSafeName n = true) :
    o.filePath t n r = (o.dirOf t r).join ⟨fileName t n r⟩ := by
  have hartifact : o.artifactPath t n = (o.artifactDir t).join ⟨fileName t n .artifact⟩ := by
    rw [artifactPath, fileName_artifact]
  cases r with
  | artifact => exact hartifact
  | tmp =>
    rw [filePath, hartifact, Path.tmp_join (isName_fileName hn)
      (fileName_tmp t n ▸ isName_fileName hn), ← fileName_tmp]
    rfl
  | source =>
    rw [filePath, sourcePath, ← fileName_source]
    rfl

theorem place_eq (hn : Manifest.isSafeName n = true) :
    o.place cwd t n r = (o.dirOf t r).location cwd ++ [fileName t n r] := by
  rw [place, filePath_eq hn, Path.location_join _ _ (isName_fileName hn)]

theorem place_injective (hn : Manifest.isSafeName n = true) (hm : Manifest.isSafeName m = true)
    (h : o.place cwd t n r = o.place cwd u m q) : t = u ∧ n = m ∧ r = q := by
  rw [place_eq hn, place_eq hm] at h
  exact fileName_injective (List.cons.inj (List.append_inj' h rfl).2).1

theorem place_ne (hn : Manifest.isSafeName n = true) (h : r ≠ q) :
    o.place cwd t n r ≠ o.place cwd t n q := fun he => h (place_injective hn hn he).2.2

/-- The files of a target and a source are put apart from each other. -/
theorem get?_put_place {fs : FileSystem} (hn : Manifest.isSafeName n = true) (e : Option Entry) :
    (fs.put (o.place cwd t n r) e).get? (o.place cwd t n q) =
      if r = q then e else fs.get? (o.place cwd t n q) := by
  by_cases h : r = q
  · rw [if_pos h, h, FileSystem.get?_put_self]
  · rw [if_neg h, FileSystem.get?_put_of_ne (place_ne hn (Ne.symm h))]

theorem isChild_filePath (hn : Manifest.isSafeName n = true) :
    (o.filePath t n r).IsChild (o.dirOf t r) (fileName t n r) := by
  rw [filePath_eq hn]
  exact Path.isChild_join _ (isName_fileName hn)

/-- The paths of different files differ, also where directories are the same. -/
theorem filePath_injective (hn : Manifest.isSafeName n = true) (hm : Manifest.isSafeName m = true)
    (h : (o.filePath t n r).same (o.filePath u m q) = true) : t = u ∧ n = m ∧ r = q := by
  have hcomponents := eq_of_beq h
  rw [(isChild_filePath hn).components, (isChild_filePath hm).components] at hcomponents
  have hname := (List.cons.inj (List.append_inj' hcomponents rfl).2).1
  exact fileName_injective (Path.Component.name.inj hname)

/-- Safe names neither collide nor lead out of the directories of a run.  Whatever these are, a
compiled file, its temporary file and an emitted source stand directly in theirs, under a name that tells
what the file is for, the target and the source. -/
theorem files_stay_apart (o : Options) (s t : Target) {m n : Text}
    (hm : Manifest.isSafeName m = true) (hn : Manifest.isSafeName n = true) :
    ((o.artifactPath t n).IsChild (o.artifactDir t) (t.artifactName n) ∧
      (o.artifactPath t n).tmp.IsChild (o.artifactDir t) (t.artifactName n ++ ".tmp".toList) ∧
      (o.sourcePath t n).IsChild o.workDir (t.sourceName n)) ∧
    (s.artifactName m = t.artifactName n → s = t ∧ m = n) ∧
    (s.sourceName m = t.sourceName n → s = t ∧ m = n) ∧
    s.artifactName m ≠ t.artifactName n ++ ".tmp".toList ∧
    s.artifactName m ≠ t.sourceName n ∧
    s.artifactName m ++ ".tmp".toList ≠ t.sourceName n ∧
    ∀ r q, (o.filePath s m r).same (o.filePath t n q) = true → s = t ∧ m = n ∧ r = q := by
  simp only [← fileName_artifact, ← fileName_tmp, ← fileName_source]
  refine ⟨⟨isChild_filePath (r := .artifact) hn, isChild_filePath (r := .tmp) hn,
    isChild_filePath (r := .source) hn⟩, ?_, ?_, ?_, ?_, ?_, ?_⟩
  · intro h
    obtain ⟨ht, hname, -⟩ := fileName_injective h
    exact ⟨ht, hname⟩
  · intro h
    obtain ⟨ht, hname, -⟩ := fileName_injective h
    exact ⟨ht, hname⟩
  · intro h
    cases (fileName_injective h).2.2
  · intro h
    cases (fileName_injective h).2.2
  · intro h
    cases (fileName_injective h).2.2
  · exact fun r q h => filePath_injective hm hn h

/-- Names that look like those of other files, with one directory for everything. -/
theorem lookalikes_stay_apart :
    let o : Options :=
      { singBoxDir := ⟨"./out/".toList⟩
        mihomoDir := ⟨"out".toList⟩
        workDir := ⟨"out/.".toList⟩ }
    Manifest.isSafeName "ads".toList = true ∧ Manifest.isSafeName "ads_domain.mrs.tmp".toList = true ∧
      (o.sourcePath .mihomoDomain "ads_domain.mrs.tmp".toList).IsChild o.workDir
        "ads_domain.mrs.tmp_domain.yaml".toList ∧
      Target.artifactName .mihomoDomain "ads".toList ++ ".tmp".toList ≠
        Target.sourceName .mihomoDomain "ads_domain.mrs.tmp".toList := by
  intro o
  have hm : Manifest.isSafeName "ads".toList = true := by decide
  have hn : Manifest.isSafeName "ads_domain.mrs.tmp".toList = true := by decide
  have h := files_stay_apart o .mihomoDomain .mihomoDomain hm hn
  exact ⟨hm, hn, h.1.2.2, h.2.2.2.2.2.1⟩

end Options
end RuleSets.Pipeline
