import Mathlib.Data.List.TakeWhile
import RuleSets.Proofs.FileSystem.Operation

/-!
# Making directories

What makes directories makes nothing else (`Extends`), and only on the way to the directory that is
asked for (`makeDirectories_frame`).  After it has succeeded the directory is there
(`isDirectory_of_makeDirectories`), and making it again changes nothing (`makeDirectories_of_isDirectory`).
-/

namespace RuleSets

namespace Utf8

theorem length_encode_append (s t : Text) :
    (encode (s ++ t)).length = (encode s).length + (encode t).length := by
  rw [encode, List.flatMap_append, List.length_append]
  rfl

end Utf8

namespace Path

/-- The path itself, its parent, the parent's parent and so on. -/
inductive Above (p : Path) : Path → Prop where
  | self : Above p p
  | parent {q r : Path} : Above p q → q.parent? = some r → Above p r

theorem Above.trans {p q r : Path} (h : p.Above q) (h' : q.Above r) : p.Above r := by
  induction h' with
  | self => exact h
  | parent _ hr ih => exact .parent ih hr

theorem filter_splitBy_slashes {s : Text} (h : ∀ c ∈ s, c = '/') :
    ((Text.splitBy (· == '/') s).filter fun w => !w.isEmpty) = [] := by
  induction s with
  | nil => rfl
  | cons c s ih =>
    obtain rfl := h c (List.mem_cons_self ..)
    exact ih fun d hd => h d (List.mem_cons_of_mem _ hd)

/-- Slashes at the end of a path add no name to it. -/
theorem names_append_slashes (s : Text) {t : Text} (h : ∀ c ∈ t, c = '/') :
    (Path.mk (s ++ t)).names = (Path.mk s).names := by
  cases t with
  | nil => rw [List.append_nil]
  | cons c t =>
    obtain rfl := h c (List.mem_cons_self ..)
    rw [names, pieces, Text.splitBy_append_cons _ _ _ rfl, List.filter_append,
      filter_splitBy_slashes fun d hd => h d (List.mem_cons_of_mem _ hd), List.append_nil]
    rfl

end Path

namespace FileSystem

variable {fs fs' fs'' : FileSystem} {cwd loc : Location} {p q : Path} {names : List Text}

/-! ### Slashes behind a path -/

theorem text_withoutSlashes (p : Path) :
    ∃ t, p.text = (withoutSlashes p).text ++ t ∧ ∀ c ∈ t, c = '/' := by
  have hends : p.text = (p.text.reverse.dropWhile (· == '/')).reverse ++
      (p.text.reverse.takeWhile (· == '/')).reverse := by
    rw [← List.reverse_append, List.takeWhile_append_dropWhile, List.reverse_reverse]
  have hslash : ∀ c ∈ (p.text.reverse.takeWhile (· == '/')).reverse, c = '/' := fun c hc => by
    have hc := List.mem_takeWhile_imp (List.mem_reverse.1 hc)
    exact eq_of_beq hc
  unfold withoutSlashes
  split
  · -- Nothing but slashes: the first of them stays.
    rename_i hall
    rw [hall, List.reverse_nil, List.nil_append] at hends
    exact ⟨p.text.drop 1, (List.take_append_drop 1 p.text).symm, fun c hc =>
      hslash c (hends ▸ List.mem_of_mem_drop hc)⟩
  · exact ⟨_, hends, hslash⟩

theorem withoutSlashes_ne_nil (h : p.text ≠ []) : (withoutSlashes p).text ≠ [] := by
  unfold withoutSlashes
  split
  · obtain ⟨c, s, hs⟩ := List.exists_cons_of_ne_nil h
    rw [hs]
    exact List.cons_ne_nil c []
  · rename_i hne
    exact fun hnil => hne (List.reverse_eq_nil_iff.1 hnil)

theorem names_withoutSlashes (p : Path) : (withoutSlashes p).names = p.names := by
  obtain ⟨t, ht, hslash⟩ := text_withoutSlashes p
  rw [← Path.names_append_slashes (withoutSlashes p).text hslash, ← ht]

theorem isAbsolute_withoutSlashes (p : Path) : (withoutSlashes p).isAbsolute = p.isAbsolute := by
  by_cases hp : p.text = []
  · rw [withoutSlashes, hp]
    simp [Path.isAbsolute, hp]
  · obtain ⟨t, ht, -⟩ := text_withoutSlashes p
    obtain ⟨c, s, hs⟩ := List.exists_cons_of_ne_nil (withoutSlashes_ne_nil hp)
    rw [Path.isAbsolute, Path.isAbsolute, ht, hs]
    rfl

theorem location_withoutSlashes (cwd : Location) (p : Path) :
    (withoutSlashes p).location cwd = p.location cwd := by
  rw [Path.location, Path.location, names_withoutSlashes, isAbsolute_withoutSlashes]

theorem namesOf_withoutSlashes (h : namesOf p = .ok names) :
    namesOf (withoutSlashes p) = .ok names := by
  obtain ⟨t, ht, -⟩ := text_withoutSlashes p
  have hnames := (namesOf_ok h).2
  have hne := withoutSlashes_ne_nil (namesOf_ok h).1
  unfold namesOf at h ⊢
  split at h
  · cases h
  rename_i hnul
  split at h
  · cases h
  split at h
  · cases h
  rename_i hshort
  rw [ht, Utf8.length_encode_append] at hshort
  rw [ht, List.contains_eq_mem] at hnul
  rw [if_neg, if_neg (by simpa using hne), if_neg (by omega)]
  · exact congrArg Except.ok ((names_withoutSlashes p).trans hnames)
  · rw [List.contains_eq_mem]
    intro hmem
    exact hnul (by simpa using Or.inl (by simpa using hmem))

theorem isSlashed_of_withoutSlashes (h : isSlashed (withoutSlashes p) = true) :
    isSlashed p = true := by
  obtain ⟨t, ht, hslash⟩ := text_withoutSlashes p
  unfold isSlashed at h ⊢
  rw [beq_iff_eq] at h ⊢
  rcases List.eq_nil_or_concat t with rfl | ⟨init, c, rfl⟩
  · rwa [ht, List.append_nil]
  · rw [ht, List.concat_eq_append, ← List.append_assoc, List.getLast?_concat,
      hslash c (by simp)]

/-- A slash behind a path asks for a directory. -/
theorem resolve_iff : fs.resolve cwd p = .ok loc ↔ ∃ names, namesOf p = .ok names ∧
    fs.follow cwd p names = .ok loc ∧ (isSlashed p = true → fs.at? loc = some .directory) := by
  have hdot (names : List Text) : fs.follow cwd p (names ++ [['.']]) = .ok loc ↔
      fs.follow cwd p names = .ok loc ∧ fs.at? loc = some .directory := by
    rw [follow, foldlM_step_append]
    constructor
    · rintro ⟨l, hl, hstep⟩
      obtain ⟨hdir, -, hnil⟩ := foldlM_step_cons.1 hstep
      obtain rfl : l = loc := Except.ok.inj hnil
      exact ⟨hl, hdir⟩
    · rintro ⟨hl, hdir⟩
      exact ⟨loc, hl, foldlM_step_cons.2 ⟨hdir, by decide, rfl⟩⟩
  rw [resolve_eq_ok]
  refine exists_congr fun names => and_congr_right fun _ => ?_
  split
  · rename_i hslash
    rw [hdot]
    simp [hslash]
  · rename_i hslash
    simp [hslash]

theorem follow_withoutSlashes (fs : FileSystem) (cwd : Location) (p : Path) (names : List Text) :
    fs.follow cwd (withoutSlashes p) names = fs.follow cwd p names := by
  rw [follow, follow, isAbsolute_withoutSlashes]

/-- A path leads where it leads without the slashes behind it, if it leads anywhere. -/
theorem resolve_withoutSlashes (h : fs.resolve cwd p = .ok loc) :
    fs.resolve cwd (withoutSlashes p) = .ok loc := by
  obtain ⟨names, hn, hf, hdir⟩ := resolve_iff.1 h
  refine resolve_iff.2 ⟨names, namesOf_withoutSlashes hn, ?_, fun hslash =>
    hdir (isSlashed_of_withoutSlashes hslash)⟩
  rwa [follow_withoutSlashes]

/-! ### Making one directory -/

/-- Whether one file system is another with some more directories. -/
def Extends (fs' fs : FileSystem) : Prop :=
  ∀ l, fs'.get? l = fs.get? l ∨ fs.get? l = none ∧ fs'.get? l = some .directory

theorem Extends.refl (fs : FileSystem) : Extends fs fs := fun _ => .inl rfl

theorem Extends.trans (h' : Extends fs'' fs') (h : Extends fs' fs) : Extends fs'' fs := by
  intro l
  rcases h' l with he' | ⟨hn', hd'⟩
  · rw [he']
    exact h l
  · rcases h l with he | ⟨-, hd⟩
    · exact .inr ⟨he.symm.trans hn', hd'⟩
    · rw [hn'] at hd
      cases hd

theorem Extends.at? (h : Extends fs' fs) (l : Location) :
    fs'.at? l = fs.at? l ∨ fs.at? l = none ∧ fs'.at? l = some .directory := by
  cases l with
  | nil => exact .inl rfl
  | cons name l => exact h (name :: l)

theorem Extends.keeps (h : Extends fs' fs) : KeepsDirectories fs fs' := by
  intro l hl
  rcases h.at? l with he | ⟨hn, -⟩
  · rw [he, hl]
  · rw [hn] at hl
    cases hl

theorem makeDirectory_eq_ok (h : fs.makeDirectory cwd p = .ok fs') :
    (∃ names, namesOf p = .ok names) ∧ fs.resolve cwd (withoutSlashes p) = .ok (p.location cwd) ∧
      fs.at? (p.location cwd) = none ∧ fs' = fs.put (p.location cwd) (some .directory) := by
  unfold makeDirectory place at h
  rcases hn : namesOf p with e | names
  · simp [hn, bind, Except.bind] at h
  rcases hr : fs.resolve cwd (withoutSlashes p) with e | loc
  · simp [hn, hr, bind, Except.bind] at h
  obtain rfl : p.location cwd = loc := by
    rw [← location_withoutSlashes]
    exact location_of_resolve hr
  rcases hat : fs.at? (p.location cwd) with _ | entry
  · simp only [hn, hr, hat, bind, Except.bind, pure, Except.pure, Except.ok.injEq] at h
    exact ⟨⟨names, rfl⟩, rfl, rfl, h.symm⟩
  · simp [hn, hr, hat, bind, Except.bind, pure, Except.pure] at h

theorem makeDirectory_extends (h : fs.makeDirectory cwd p = .ok fs') : Extends fs' fs := by
  obtain ⟨-, -, hnone, rfl⟩ := makeDirectory_eq_ok h
  have hne : p.location cwd ≠ [] := fun hnil => by rw [hnil] at hnone; cases hnone
  rw [at?_eq_get? fs hne] at hnone
  intro l
  rw [get?_put]
  split
  · rename_i hl
    rw [← hl]
    exact .inr ⟨hnone, rfl⟩
  · exact .inl rfl

theorem isDirectory_iff : fs.isDirectory cwd p = true ↔
    fs.lookup cwd p = .ok (p.location cwd, .directory) := by
  unfold isDirectory
  constructor
  · intro h
    split at h
    · rename_i loc hl
      rw [hl, location_of_resolve (resolve_of_lookup hl).1]
    · cases h
  · intro h
    rw [h]

theorem isDirectory_mono (hk : KeepsDirectories fs fs') (h : fs.isDirectory cwd p = true) :
    fs'.isDirectory cwd p = true :=
  isDirectory_iff.2 (lookup_directory_mono hk (isDirectory_iff.1 h))

/-- A directory that was made is there. -/
theorem isDirectory_of_makeDirectory (h : fs.makeDirectory cwd p = .ok fs') :
    fs'.isDirectory cwd p = true := by
  have hk := (makeDirectory_extends h).keeps
  obtain ⟨⟨names, hn⟩, hr, hnone, rfl⟩ := makeDirectory_eq_ok h
  have hne : p.location cwd ≠ [] := fun hnil => by rw [hnil] at hnone; cases hnone
  have hdir : (fs.put (p.location cwd) (some .directory)).at? (p.location cwd) = some .directory :=
    at?_put_self hne
  obtain ⟨names', hn', hf, -⟩ := resolve_iff.1 hr
  rw [namesOf_withoutSlashes hn] at hn'
  obtain rfl : names = names' := Except.ok.inj hn'
  rw [follow_withoutSlashes] at hf
  exact isDirectory_iff.2 (lookup_of_resolve
    (resolve_iff.2 ⟨names, hn, foldlM_step_mono hk hf, fun _ => hdir⟩) hdir)

theorem makeDirectory_of_isDirectory (h : fs.isDirectory cwd p = true) :
    fs.makeDirectory cwd p = .error .alreadyExists := by
  obtain ⟨hr, hdir⟩ := resolve_of_lookup (isDirectory_iff.1 h)
  obtain ⟨names, hn, -⟩ := resolve_iff.1 hr
  simp only [makeDirectory, place, hn, resolve_withoutSlashes hr, hdir, bind, Except.bind, pure,
    Except.pure]

/-! ### Making all directories on the way -/

theorem isDirectory_of_orPresent
    (h : (fs.orPresent cwd p (fs.makeDirectory cwd p)).2 = .ok ()) :
    (fs.orPresent cwd p (fs.makeDirectory cwd p)).1.isDirectory cwd p = true := by
  rcases hm : fs.makeDirectory cwd p with e | fs'
  · rw [hm, orPresent] at h
    dsimp only at h
    split at h
    · assumption
    · cases h
  · exact isDirectory_of_makeDirectory hm

theorem makeDirectoriesWithin_nil {depth : Nat} (h : p.text = []) :
    makeDirectoriesWithin cwd depth p fs = (fs, .ok ()) := by
  unfold makeDirectoriesWithin
  rw [if_pos (by simp [h])]

/-- Directories are made at once, or else after their parents. -/
theorem makeDirectoriesWithin_cases (fs : FileSystem) (cwd : Location) (depth : Nat)
    (h : p.text ≠ []) :
    makeDirectoriesWithin cwd depth p fs = fs.orPresent cwd p (fs.makeDirectory cwd p) ∨
    ∃ depth' parent made, depth = depth' + 1 ∧ p.parent? = some parent ∧
      fs.makeDirectory cwd p = .error .notFound ∧
      makeDirectoriesWithin cwd depth' parent fs = made ∧
      makeDirectoriesWithin cwd depth p fs =
        match made.2 with
        | .ok () => made.1.orPresent cwd p (made.1.makeDirectory cwd p)
        | .error _ => made := by
  have hempty : ¬ p.text.isEmpty = true := by simpa using h
  rcases depth with _ | depth
  · unfold makeDirectoriesWithin
    exact .inl (if_neg hempty)
  rcases hparent : p.parent? with _ | parent
  · unfold makeDirectoriesWithin
    rw [if_neg hempty, hparent]
    exact .inl rfl
  by_cases hnone : fs.makeDirectory cwd p = .error .notFound
  · obtain ⟨made, hmade⟩ : ∃ made, makeDirectoriesWithin cwd depth parent fs = made := ⟨_, rfl⟩
    refine .inr ⟨depth, parent, made, rfl, rfl, hnone, hmade, ?_⟩
    unfold makeDirectoriesWithin
    rw [if_neg hempty, hparent, hnone]
    dsimp only
    rw [hmade]
    obtain ⟨fs₁, e | _⟩ := made
    · rfl
    · rfl
  · left
    unfold makeDirectoriesWithin
    rw [if_neg hempty, hparent]
    split
    · rename_i hnone'
      exact absurd hnone' hnone
    · rfl

/-- What holds between file systems of which one comes of making a directory above a path holds of
making all of them. -/
theorem makeDirectoriesWithin_induction {R : FileSystem → FileSystem → Prop}
    (hrefl : ∀ fs, R fs fs) (htrans : ∀ fs fs' fs'', R fs fs' → R fs' fs'' → R fs fs'')
    {depth : Nat} {p : Path}
    (hstep : ∀ q fs fs', p.Above q → fs.makeDirectory cwd q = .ok fs' → R fs fs')
    (fs : FileSystem) : R fs (makeDirectoriesWithin cwd depth p fs).1 := by
  have hpresent (fs : FileSystem) : R fs (fs.orPresent cwd p (fs.makeDirectory cwd p)).1 := by
    rcases hm : fs.makeDirectory cwd p with e | fs'
    · exact hrefl fs
    · exact hstep p fs fs' .self hm
  induction depth generalizing p with
  | zero =>
    by_cases hp : p.text = []
    · rw [makeDirectoriesWithin_nil hp]
      exact hrefl fs
    · rcases makeDirectoriesWithin_cases fs cwd 0 hp with he | ⟨_, _, _, hd, -⟩
      · rw [he]
        exact hpresent fs
      · cases hd
  | succ depth ih =>
    by_cases hp : p.text = []
    · rw [makeDirectoriesWithin_nil hp]
      exact hrefl fs
    · rcases makeDirectoriesWithin_cases fs cwd (depth + 1) hp with
        he | ⟨depth', parent, made, hd, hparent, -, hmade, he⟩
      · rw [he]
        exact hpresent fs
      · obtain rfl : depth = depth' := by omega
        have hup (q : Path) (hq : parent.Above q) : p.Above q :=
          (Path.Above.parent .self hparent).trans hq
        have hmade₁ : R fs made.1 := by
          rw [← hmade]
          refine ih (fun q fs fs' hq => hstep q fs fs' (hup q hq)) fun fs => ?_
          rcases hm : fs.makeDirectory cwd parent with e | fs'
          · exact hrefl fs
          · exact hstep parent fs fs' (hup parent .self) hm
        rw [he]
        obtain ⟨fs₁, e | _⟩ := made
        · exact hmade₁
        · exact htrans _ _ _ hmade₁ (hpresent fs₁)

theorem makeDirectories_extends (fs : FileSystem) (cwd : Location) (p : Path) :
    Extends (fs.makeDirectories cwd p).1 fs :=
  makeDirectoriesWithin_induction (R := fun fs fs' => Extends fs' fs) .refl
    (fun _ _ _ h h' => h'.trans h) (fun _ _ _ _ h => makeDirectory_extends h) fs

/-- Directories are made on the way to a path and nowhere else. -/
theorem makeDirectories_frame {l : Location} (h : ∀ q, p.Above q → l ≠ q.location cwd)
    (fs : FileSystem) : (fs.makeDirectories cwd p).1.get? l = fs.get? l := by
  refine makeDirectoriesWithin_induction (R := fun fs fs' => fs'.get? l = fs.get? l)
    (fun _ => rfl) (fun _ _ _ h h' => h'.trans h) (fun q fs fs' hq hm => ?_) fs
  obtain ⟨-, -, -, rfl⟩ := makeDirectory_eq_ok hm
  exact get?_put_of_ne (h q hq)

theorem isDirectory_of_makeDirectories (hp : p.text ≠ [])
    (h : (fs.makeDirectories cwd p).2 = .ok ()) :
    (fs.makeDirectories cwd p).1.isDirectory cwd p = true := by
  unfold makeDirectories at h ⊢
  rcases makeDirectoriesWithin_cases fs cwd p.components.length hp with
    he | ⟨_, _, ⟨fs₁, e | _⟩, -, -, -, -, he⟩
  · rw [he] at h ⊢
    exact isDirectory_of_orPresent h
  · rw [he] at h
    cases h
  · rw [he] at h ⊢
    exact isDirectory_of_orPresent h

/-- Directories that are there are not made again. -/
theorem makeDirectories_of_isDirectory (h : p.text = [] ∨ fs.isDirectory cwd p = true) :
    fs.makeDirectories cwd p = (fs, .ok ()) := by
  unfold makeDirectories
  by_cases hp : p.text = []
  · exact makeDirectoriesWithin_nil hp
  · have hdir := h.resolve_left hp
    have hmade := makeDirectory_of_isDirectory hdir
    rcases makeDirectoriesWithin_cases fs cwd p.components.length hp with
      he | ⟨_, _, _, -, -, hnone, -⟩
    · rw [he, hmade, orPresent, if_pos hdir]
    · rw [hmade] at hnone
      cases hnone

end FileSystem
end RuleSets
