import Mathlib.Data.List.Induction
import RuleSets.Proofs.FileSystem.Directory

/-!
# Trees

In a file system that is a tree every entry stands in a directory and has a name (`IsTree`).  Every
operation keeps it a tree and changes nothing but what its paths lead to (`Modifies`), whether or not
there is a file at them, and none takes a directory away.
-/

namespace RuleSets

namespace Path

variable {p : Path} {s : Text}

theorem mem_names (h : s ∈ p.names) : s ≠ [] ∧ '/' ∉ s := by
  obtain ⟨hs, hne⟩ := List.mem_filter.1 h
  refine ⟨by simpa using hne, fun hslash => ?_⟩
  simpa using Text.not_of_mem_splitBy hs _ hslash

theorem isName_of_mem_names (h : s ∈ p.names) (hdot : s ≠ ['.']) (hdots : s ≠ ['.', '.']) :
    IsName s :=
  ⟨(mem_names h).1, hdot, hdots, (mem_names h).2⟩

instance (s : Text) : Decidable (IsName s) :=
  decidable_of_iff (s ≠ [] ∧ s ≠ ['.'] ∧ s ≠ ['.', '.'] ∧ '/' ∉ s)
    ⟨fun ⟨hne, hdot, hdots, hslash⟩ => ⟨hne, hdot, hdots, hslash⟩,
      fun h => ⟨h.ne_nil, h.ne_dot, h.ne_dots, h.slash⟩⟩

/-- Only the root has no name. -/
theorem names_ne_nil (h : p.text ≠ []) (habs : p.isAbsolute = false) : p.names ≠ [] := by
  obtain ⟨c, s, hs⟩ := List.exists_cons_of_ne_nil h
  have hc : (c == '/') = false := by simpa [isAbsolute, hs] using habs
  obtain ⟨w, ws, hw⟩ := List.exists_cons_of_ne_nil (Text.splitBy_ne_nil (· == '/') s)
  have hpieces : p.pieces = (c :: w) :: ws := by
    simp only [pieces, hs, Text.splitBy, hc, hw, Bool.false_eq_true, if_false]
  rw [names, hpieces]
  exact List.cons_ne_nil _ _

end Path

namespace FileSystem

variable {fs fs' fs'' : FileSystem} {cwd loc dir l : Location} {p q : Path} {name : Text}
  {e : Option Entry}

/-- Whether every entry stands in a directory, under a name. -/
structure IsTree (fs : FileSystem) : Prop where
  parent : ∀ dir name, fs.at? (dir ++ [name]) ≠ none → fs.at? dir = some .directory
  name : ∀ dir name, fs.at? (dir ++ [name]) ≠ none → Path.IsName name

theorem mem_list {files : List Text} (hlist : fs.list cwd p = .ok files) (hname : name ∈ files) :
    fs.get? (p.location cwd ++ [name]) ≠ none := by
  unfold list at hlist
  rcases hl : fs.lookup cwd p with err | ⟨loc, _ | ⟨contents, executable⟩⟩
  · simp [hl, bind, Except.bind] at hlist
  · simp only [hl, bind, Except.bind, Except.ok.injEq] at hlist
    rw [← hlist] at hname
    rw [location_of_resolve (resolve_of_lookup hl).1]
    exact mem_names.1 hname
  · simp [hl, bind, Except.bind] at hlist

namespace IsTree

theorem congr (h : fs.IsTree) (hat : ∀ l, fs'.at? l = fs.at? l) : fs'.IsTree where
  parent dir name hne := by
    rw [hat] at hne ⊢
    exact h.parent dir name hne
  name dir name hne := h.name dir name (hat _ ▸ hne)

/-- There is nothing below a location without a directory. -/
theorem below (h : fs.IsTree) (hloc : fs.at? loc ≠ some .directory) (rest : Location)
    (hrest : rest ≠ []) : fs.at? (loc ++ rest) = none := by
  induction rest using List.reverseRecOn with
  | nil => exact absurd rfl hrest
  | append_singleton rest name ih =>
    refine Classical.byContradiction fun hne => ?_
    rw [← List.append_assoc] at hne
    have hdir := h.parent _ _ hne
    by_cases hnil : rest = []
    · rw [hnil, List.append_nil] at hdir
      exact hloc hdir
    · rw [ih hnil] at hdir
      cases hdir

theorem put (h : fs.IsTree) (hold : fs.at? (dir ++ [name]) ≠ some .directory)
    (hdir : fs.at? dir = some .directory) (hname : Path.IsName name) (e : Option Entry) :
    (fs.put (dir ++ [name]) e).IsTree := by
  have hkept {d : Location} (hd : fs.at? d = some .directory) :
      (fs.put (dir ++ [name]) e).at? d = some .directory := by
    rw [at?_put_of_ne fun he : d = dir ++ [name] => hold (he ▸ hd), hd]
  constructor
  · intro d n hne
    by_cases hd : d ++ [n] = dir ++ [name]
    · rw [(List.append_inj' hd rfl).1]
      exact hkept hdir
    · rw [at?_put_of_ne hd] at hne
      exact hkept (h.parent d n hne)
  · intro d n hne
    by_cases hd : d ++ [n] = dir ++ [name]
    · rw [(List.cons.inj (List.append_inj' hd rfl).2).1]
      exact hname
    · rw [at?_put_of_ne hd] at hne
      exact h.name d n hne

/-- A file may be changed and deleted. -/
theorem put_of_file (h : fs.IsTree) (hold : fs.at? loc ≠ some .directory) (hne : fs.at? loc ≠ none)
    (e : Option Entry) : (fs.put loc e).IsTree := by
  rcases List.eq_nil_or_concat loc with rfl | ⟨dir, name, rfl⟩
  · exact absurd rfl hold
  · rw [List.concat_eq_append] at *
    exact h.put hold (h.parent dir name hne) (h.name dir name hne) e

theorem isName_of_list {files : List Text} (h : fs.IsTree) (hlist : fs.list cwd p = .ok files)
    (hname : name ∈ files) : Path.IsName name := by
  refine h.name (p.location cwd) name ?_
  rw [at?_eq_get? _ (by simp)]
  exact mem_list hlist hname

end IsTree

theorem isTree_iff : fs.IsTree ↔ ∀ k ∈ fs.keys, k = [] ∨
    fs.at? k.dropLast = some .directory ∧ Path.IsName (k.getLastD []) := by
  have hkeys (k : Location) (hk : k ≠ []) : k ∈ fs.keys ↔ fs.at? k ≠ none := by
    rw [at?_eq_get? _ hk, Option.ne_none_iff_exists']
    constructor
    · intro h
      obtain ⟨⟨k, e⟩, he, rfl⟩ := List.mem_map.1 h
      exact ⟨e, OrderedMap.mem_toList.1 he⟩
    · rintro ⟨e, he⟩
      exact List.mem_map.2 ⟨_, OrderedMap.mem_toList.2 he, rfl⟩
  constructor
  · intro h k hk
    rcases List.eq_nil_or_concat k with rfl | ⟨dir, name, rfl⟩
    · exact .inl rfl
    · rw [List.concat_eq_append] at *
      have hne := (hkeys _ (by simp)).1 hk
      rw [List.dropLast_concat, List.getLastD_concat]
      exact .inr ⟨h.parent dir name hne, h.name dir name hne⟩
  · intro h
    have hboth (dir : Location) (name : Text) (hne : fs.at? (dir ++ [name]) ≠ none) :
        fs.at? dir = some .directory ∧ Path.IsName name := by
      have hk := (h _ ((hkeys _ (by simp)).2 hne)).resolve_left (by simp)
      rwa [List.dropLast_concat, List.getLastD_concat] at hk
    exact ⟨fun dir name hne => (hboth dir name hne).1, fun dir name hne => (hboth dir name hne).2⟩

instance (fs : FileSystem) : Decidable fs.IsTree := decidable_of_iff _ isTree_iff.symm

/-! ### Where something new comes -/

theorem entryOf_parent (h : fs.entryOf cwd p = .ok loc) :
    ∃ dir name, loc = dir ++ [name] ∧ fs.at? dir = some .directory ∧ Path.IsName name := by
  obtain ⟨init, last, hn, hdot, hdots, hf⟩ := entryOf_eq_ok.1 h
  obtain ⟨dir, -, hlast⟩ := foldlM_step_append.1 hf
  obtain ⟨hdir, -, hnil⟩ := foldlM_step_cons.1 hlast
  have hname : Path.IsName last :=
    Path.isName_of_mem_names (by rw [(namesOf_ok hn).2]; simp) hdot hdots
  rw [Path.enter_of_isName hname] at hnil
  exact ⟨dir, last, (Except.ok.inj hnil).symm, hdir, hname⟩

/-- A path that leads to nothing leads to a new name in a directory. -/
theorem resolve_new (ht : fs.IsTree) (h : fs.resolve cwd p = .ok loc) (hnone : fs.at? loc = none) :
    ∃ dir name, loc = dir ++ [name] ∧ fs.at? dir = some .directory ∧ Path.IsName name := by
  obtain ⟨names, hn, hf, -⟩ := resolve_iff.1 h
  obtain ⟨hne, rfl⟩ := namesOf_ok hn
  rcases List.eq_nil_or_concat p.names with hnil | ⟨init, last, hnames⟩
  · -- Only the root is named by nothing, and that is a directory.
    have habs : p.isAbsolute = true := by
      refine Classical.byContradiction fun habs => ?_
      exact Path.names_ne_nil hne (by simpa using habs) hnil
    rw [hnil, follow, habs] at hf
    cases hf
    cases hnone
  rw [List.concat_eq_append] at hnames
  rw [hnames] at hf
  obtain ⟨dir, -, hlast⟩ := foldlM_step_append.1 hf
  obtain ⟨hdir, -, hend⟩ := foldlM_step_cons.1 hlast
  obtain rfl : Path.enter dir last = loc := Except.ok.inj hend
  unfold Path.enter at hnone ⊢
  split at hnone
  · rw [hdir] at hnone
    cases hnone
  · split at hnone
    · rcases List.eq_nil_or_concat dir with rfl | ⟨d, n, rfl⟩
      · cases hnone
      · rw [List.concat_eq_append] at *
        rw [List.dropLast_concat, ht.parent d n (by rw [hdir]; simp)] at hnone
        cases hnone
    · rename_i hdot hdots
      rw [if_neg hdot, if_neg hdots]
      exact ⟨dir, last, rfl, hdir, Path.isName_of_mem_names (by rw [hnames]; simp) hdot hdots⟩

/-! ### Operations -/

/-- Whether one file system comes of another by changes in a region: nothing changes elsewhere,
directories stay, and a tree stays a tree. -/
structure Modifies (region : Location → Prop) (fs fs' : FileSystem) : Prop where
  frame : ∀ l, ¬ region l → fs'.at? l = fs.at? l
  keeps : KeepsDirectories fs fs'
  tree : fs.IsTree → fs'.IsTree

namespace Modifies

variable {region region' : Location → Prop}

theorem refl (region : Location → Prop) (fs : FileSystem) : Modifies region fs fs :=
  ⟨fun _ _ => rfl, fun _ h => h, fun h => h⟩

theorem trans (h : Modifies region fs fs') (h' : Modifies region fs' fs'') :
    Modifies region fs fs'' where
  frame l hl := (h'.frame l hl).trans (h.frame l hl)
  keeps l hl := h'.keeps l (h.keeps l hl)
  tree ht := h'.tree (h.tree ht)

theorem mono (h : Modifies region fs fs') (hsub : ∀ l, region l → region' l) :
    Modifies region' fs fs' :=
  ⟨fun l hl => h.frame l fun hr => hl (hsub l hr), h.keeps, h.tree⟩

theorem congr (h : Modifies region fs fs') (hat : ∀ l, fs''.at? l = fs'.at? l) :
    Modifies region fs fs'' where
  frame l hl := (hat l).trans (h.frame l hl)
  keeps l hl := (hat l).trans (h.keeps l hl)
  tree ht := (h.tree ht).congr hat

theorem put (hold : fs.at? loc ≠ some .directory) (htree : fs.IsTree → (fs.put loc e).IsTree) :
    Modifies (· = loc) fs (fs.put loc e) where
  frame l hl := at?_put_of_ne hl
  keeps l hl := by rw [at?_put_of_ne fun he : l = loc => hold (he ▸ hl), hl]
  tree := htree

/-- What every step of a fold modifies the whole fold modifies, where steps are taken in trees. -/
theorem foldl {σ α : Type} (view : σ → FileSystem) (f : σ → α → σ) {xs : List α} (s : σ)
    (ht : (view s).IsTree)
    (hstep : ∀ x ∈ xs, ∀ s, (view s).IsTree → Modifies region (view s) (view (f s x))) :
    Modifies region (view s) (view (xs.foldl f s)) := by
  induction xs generalizing s with
  | nil => exact .refl _ _
  | cons x xs ih =>
    have hone := hstep x (List.mem_cons_self ..) s ht
    exact hone.trans (ih _ (hone.tree ht) fun y hy => hstep y (List.mem_cons_of_mem _ hy))

end Modifies

theorem remove_eq_ok (h : fs.remove cwd p = .ok fs') : fs.resolve cwd p = .ok (p.location cwd) ∧
    (∃ contents executable, fs.at? (p.location cwd) = some (.file contents executable)) ∧
    fs' = fs.put (p.location cwd) none := by
  unfold remove at h
  rcases hl : fs.lookup cwd p with err | ⟨loc, _ | ⟨contents, executable⟩⟩
  · simp [hl, bind, Except.bind] at h
  · simp [hl, bind, Except.bind] at h
  · simp only [hl, bind, Except.bind, Except.ok.injEq] at h
    obtain ⟨hr, hat⟩ := resolve_of_lookup hl
    obtain rfl := location_of_resolve hr
    exact ⟨hr, ⟨contents, executable, hat⟩, h.symm⟩

theorem remove_modifies (h : fs.remove cwd p = .ok fs') :
    Modifies (· = p.location cwd) fs fs' := by
  obtain ⟨-, ⟨contents, executable, hat⟩, rfl⟩ := remove_eq_ok h
  refine .put (by rw [hat]; simp) fun ht => ht.put_of_file (by rw [hat]; simp) (by rw [hat]; simp) _

theorem discard_modifies (fs : FileSystem) (cwd : Location) (p : Path) :
    Modifies (· = p.location cwd) fs (fs.discard cwd p) := by
  unfold discard
  split
  · rename_i hr
    exact remove_modifies hr
  · exact .refl _ fs

theorem at?_put_none (h : (fs.put loc none).at? l ≠ none) (hloc : loc ≠ []) :
    (fs.put loc none).at? l = fs.at? l := by
  by_cases hl : l = loc
  · rw [hl, at?_put_self hloc] at h
    exact absurd rfl h
  · exact at?_put_of_ne hl

/-- Whatever is there after a file was discarded was there before. -/
theorem discard_at? (h : (fs.discard cwd p).at? l ≠ none) : (fs.discard cwd p).at? l = fs.at? l := by
  rcases hr : fs.remove cwd p with err | fs'
  · simp only [discard, hr]
  · obtain ⟨-, ⟨contents, executable, hat⟩, rfl⟩ := remove_eq_ok hr
    simp only [discard, hr] at h ⊢
    exact at?_put_none h fun hnil => by rw [hnil] at hat; cases hat

theorem removeIfPresent_cases (h : fs.removeIfPresent cwd p = .ok fs') :
    fs.remove cwd p = .ok fs' ∨ fs.remove cwd p = .error .notFound ∧ fs' = fs := by
  unfold removeIfPresent at h
  split at h
  · rename_i hr
    exact .inr ⟨hr, (Except.ok.inj h).symm⟩
  · exact .inl h

theorem removeIfPresent_discard (h : fs.removeIfPresent cwd p = .ok fs') :
    fs' = fs.discard cwd p := by
  rcases removeIfPresent_cases h with hr | ⟨hr, rfl⟩ <;> rw [discard, hr]

theorem removeIfPresent_modifies (h : fs.removeIfPresent cwd p = .ok fs') :
    Modifies (· = p.location cwd) fs fs' := by
  rw [removeIfPresent_discard h]
  exact discard_modifies fs cwd p

/-- Where a path leads after its file was removed, if there was one, there is nothing. -/
theorem removeIfPresent_gone (h : fs.removeIfPresent cwd p = .ok fs')
    (hr : fs'.resolve cwd p = .ok loc) : fs'.at? loc = none := by
  rcases removeIfPresent_cases h with hremove | ⟨hremove, rfl⟩
  · obtain ⟨-, ⟨contents, executable, hat⟩, rfl⟩ := remove_eq_ok hremove
    rw [← location_of_resolve hr]
    exact at?_put_self fun hnil => by rw [hnil] at hat; cases hat
  · rcases hat : fs'.at? loc with _ | ⟨_ | ⟨contents, executable⟩⟩
    · rfl
    · rw [remove_of_directory hr hat] at hremove
      cases hremove
    · rw [remove_of_resolve hr hat] at hremove
      cases hremove

theorem discard_gone (hr : fs.resolve cwd p = .ok loc) (hfile : fs.at? loc ≠ some .directory) :
    (fs.discard cwd p).at? loc = none := by
  rcases hat : fs.at? loc with _ | ⟨_ | ⟨contents, executable⟩⟩
  · simp only [discard, remove_of_none hr hat, hat]
  · exact absurd hat hfile
  · simp only [discard, remove_of_resolve hr hat]
    exact at?_put_self fun hnil => hfile (by rw [hnil]; rfl)

theorem size_eq_ok {n : Nat} (h : fs.size cwd p = .ok n)
    (hfile : fs.at? (p.location cwd) ≠ some .directory) :
    ∃ contents executable, fs.at? (p.location cwd) = some (.file contents executable) ∧
      contents.length = n := by
  unfold size at h
  rcases hl : fs.lookup cwd p with err | ⟨loc, entry⟩
  · simp [hl, bind, Except.bind] at h
  obtain ⟨hr, hat⟩ := resolve_of_lookup hl
  obtain rfl := location_of_resolve hr
  rcases entry with _ | ⟨contents, executable⟩
  · exact absurd hat hfile
  · simp only [hl, bind, Except.bind, Except.ok.injEq] at h
    exact ⟨contents, executable, hat, h⟩

theorem write_eq_ok {contents : Bytes} (h : fs.write cwd p contents = .ok fs') :
    fs.resolve cwd p = .ok (p.location cwd) ∧ fs.at? (p.location cwd) ≠ some .directory ∧
      ∃ executable, fs' = fs.put (p.location cwd) (some (.file contents executable)) := by
  have hplace : ∃ loc old, fs.filePlace cwd p = .ok (loc, old) ∧ fs.resolve cwd p = .ok loc ∧
      fs.at? loc = old ∧ old ≠ some .directory := by
    unfold write at h
    rcases hp : fs.filePlace cwd p with err | ⟨loc, old⟩
    · simp [hp, bind, Except.bind] at h
    refine ⟨loc, old, rfl, ?_⟩
    unfold filePlace place at hp
    split at hp
    · split at hp <;> cases hp
    · rcases hr : fs.resolve cwd p with err | loc'
      · simp [hr, bind, Except.bind] at hp
      · simp only [hr, bind, Except.bind, pure, Except.pure] at hp
        split at hp
        · cases hp
        · rename_i hne
          cases hp
          exact ⟨rfl, rfl, fun hd => hne loc (by rw [hd])⟩
  obtain ⟨loc, old, hp, hr, hat, hne⟩ := hplace
  obtain rfl := location_of_resolve hr
  refine ⟨hr, hat ▸ hne, ?_⟩
  simp only [write, hp, bind, Except.bind] at h
  rcases old with _ | ⟨_ | ⟨c, x⟩⟩
  · exact ⟨false, (Except.ok.inj h).symm⟩
  · exact absurd rfl hne
  · exact ⟨x, (Except.ok.inj h).symm⟩

theorem write_modifies {contents : Bytes} (h : fs.write cwd p contents = .ok fs') :
    Modifies (· = p.location cwd) fs fs' := by
  obtain ⟨hr, hne, executable, rfl⟩ := write_eq_ok h
  refine .put hne fun ht => ?_
  by_cases hnone : fs.at? (p.location cwd) = none
  · obtain ⟨dir, name, hloc, hdir, hname⟩ := resolve_new ht hr hnone
    rw [hloc] at hne ⊢
    exact ht.put hne hdir hname _
  · exact ht.put_of_file hne hnone _

/-- Moving a tree without branches moves one entry. -/
theorem moveTree_of_leaf {a b : Location} {e : Entry} (ha : fs.get? a = some e)
    (hleaf : ∀ rest, rest ≠ [] → fs.at? (a ++ rest) = none) :
    fs.moveTree a b = (fs.put a none).put b (some e) := by
  have hother {k : Location} {x : Entry} (hk : fs.get? k = some x) (hne : ¬ a = k) :
      a.isPrefixOf k = false := by
    rw [← Bool.not_eq_true, List.isPrefixOf_iff_prefix]
    rintro ⟨rest, rfl⟩
    have hrest : rest ≠ [] := fun hnil => hne (by rw [hnil, List.append_nil])
    have hnone := hleaf rest hrest
    rw [at?_eq_get? _ (by simp [hrest]), hk] at hnone
    cases hnone
  have hmoved : fs.filter (fun k _ => a.isPrefixOf k) = FileSystem.put ∅ a (some e) := by
    refine OrderedMap.ext fun k => ?_
    rw [OrderedMap.get?_filter, get?_put]
    split
    · rename_i hk
      subst hk
      simp [ha]
    · rename_i hk
      rcases hget : fs.get? k with _ | x
      · rfl
      · show Option.filter _ (some x) = none
        simp [Option.filter, hother hget hk]
  have hrest : fs.filter (fun k _ => !a.isPrefixOf k) = fs.put a none := by
    refine OrderedMap.ext fun k => ?_
    rw [OrderedMap.get?_filter, get?_put]
    split
    · rename_i hk
      subst hk
      simp [ha]
    · rename_i hk
      rcases hget : fs.get? k with _ | x
      · rfl
      · simp [Option.filter, hother hget hk]
  have hdrop : b ++ a.drop a.length = b := by rw [List.drop_length, List.append_nil]
  rw [moveTree, hmoved, hrest]
  show (fs.put a none).insert (b ++ a.drop a.length) e = _
  rw [hdrop]
  rfl

theorem entryOf_of_rename (h : fs.rename cwd p q = .ok fs') :
    fs.entryOf cwd p = .ok (p.location cwd) := by
  unfold rename at h
  rcases ha : fs.entryOf cwd p with err | a
  · simp [ha, bind, Except.bind] at h
  · rw [location_of_entryOf ha]

/-- What a renaming does to an entry with nothing below it. -/
theorem rename_of_leaf (h : fs.rename cwd p q = .ok fs')
    (hleaf : ∀ rest, rest ≠ [] → fs.at? (p.location cwd ++ rest) = none) :
    ∃ e, fs.at? (p.location cwd) = some e ∧
      (p.location cwd = q.location cwd ∧ fs' = fs ∨
        p.location cwd ≠ q.location cwd ∧
          fs' = (fs.put (p.location cwd) none).put (q.location cwd) (some e) ∧
          (fs.at? (q.location cwd) = some .directory → e = .directory) ∧
          ∃ dir name, q.location cwd = dir ++ [name] ∧
            (fs.put (p.location cwd) none).at? dir = some .directory ∧ Path.IsName name) := by
  have ha := entryOf_of_rename h
  unfold rename at h
  rcases hb : fs.entryOf cwd q with err | b
  · simp [ha, hb, bind, Except.bind] at h
  obtain rfl := location_of_entryOf hb
  obtain ⟨dir, name, hq, hdir, hname⟩ := entryOf_parent hb
  simp only [ha, hb, bind, Except.bind] at h
  rcases hat : fs.at? (p.location cwd) with _ | e
  · simp [hat] at h
  refine ⟨e, rfl, ?_⟩
  have hne : p.location cwd ≠ [] := by
    obtain ⟨d, n, hp, -⟩ := entryOf_parent ha
    simp [hp]
  have hget : fs.get? (p.location cwd) = some e := by rw [← at?_eq_get? _ hne, hat]
  rcases e with _ | ⟨contents, executable⟩
  · simp only [hat] at h
    split at h
    · rename_i hpq
      exact .inl ⟨hpq, (Except.ok.inj h).symm⟩
    rename_i hpq
    split at h
    · cases h
    rename_i hpre
    have hmoved : fs' = (fs.put (p.location cwd) none).put (q.location cwd) (some .directory) := by
      rw [← moveTree_of_leaf hget hleaf]
      split at h
      · cases h
      · split at h
        · exact (Except.ok.inj h).symm
        · cases h
      · exact (Except.ok.inj h).symm
    -- The directory that is moved is not the one that it is moved to.
    have hout : dir ≠ p.location cwd := fun hd =>
      hpre (List.isPrefixOf_iff_prefix.2 ⟨[name], by rw [hq, hd]⟩)
    exact .inr ⟨hpq, hmoved, fun _ => rfl, dir, name, hq, by rw [at?_put_of_ne hout, hdir], hname⟩
  · simp only [hat] at h
    split at h
    · cases h
    split at h
    · cases h
    rename_i hfile
    have hout : dir ≠ p.location cwd := fun hd => by rw [hd, hat] at hdir; cases hdir
    by_cases hpq : p.location cwd = q.location cwd
    · refine .inl ⟨hpq, ?_⟩
      rw [← Except.ok.inj h, ← hpq]
      show (fs.put (p.location cwd) none).put (p.location cwd) (some (.file contents executable)) = fs
      rw [put_put, put_eq_self hget]
    · exact .inr ⟨hpq, (Except.ok.inj h).symm, fun hd => absurd hd hfile, dir, name, hq,
        by rw [at?_put_of_ne hout, hdir], hname⟩

theorem makeDirectory_tree (h : fs.makeDirectory cwd p = .ok fs') (ht : fs.IsTree) :
    fs'.IsTree := by
  obtain ⟨-, hr, hnone, rfl⟩ := makeDirectory_eq_ok h
  obtain ⟨dir, name, hloc, hdir, hname⟩ := resolve_new ht hr hnone
  rw [hloc] at hnone ⊢
  exact ht.put (by rw [hnone]; simp) hdir hname _

theorem makeDirectories_tree (ht : fs.IsTree) : (fs.makeDirectories cwd p).1.IsTree :=
  makeDirectoriesWithin_induction (R := fun fs fs' => fs.IsTree → fs'.IsTree) (fun _ h => h)
    (fun _ _ _ h h' ht => h' (h ht)) (fun _ _ _ _ h => makeDirectory_tree h) fs ht

end FileSystem
end RuleSets
