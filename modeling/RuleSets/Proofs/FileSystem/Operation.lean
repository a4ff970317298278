import RuleSets.Proofs.FileSystem.Location

/-!
# Operations on files

What every operation does at a path that admits a file, as a `put`.  The operations of a run only ever
meet such paths, so nothing outside this module opens their definitions.
-/

namespace RuleSets.FileSystem

variable {fs fs' : FileSystem} {cwd : Location} {p q : Path}

theorem lookup_of_resolve {loc : Location} {e : Entry} (h : fs.resolve cwd p = .ok loc)
    (he : fs.at? loc = some e) : fs.lookup cwd p = .ok (loc, e) := by
  simp [lookup, h, he, bind, Except.bind]

theorem resolve_of_lookup {loc : Location} {e : Entry} (h : fs.lookup cwd p = .ok (loc, e)) :
    fs.resolve cwd p = .ok loc ∧ fs.at? loc = some e := by
  unfold lookup at h
  cases hr : fs.resolve cwd p with
  | error e => simp [hr, bind, Except.bind] at h
  | ok l =>
    cases hl : fs.at? l with
    | none => simp [hr, hl, bind, Except.bind] at h
    | some e' =>
      simp only [hr, hl, bind, Except.bind, Except.ok.injEq, Prod.mk.injEq] at h
      obtain ⟨rfl, rfl⟩ := h
      exact ⟨rfl, hl⟩

/-- A path that leads to a directory does so while no directory is deleted. -/
theorem lookup_directory_mono {loc : Location} (hk : KeepsDirectories fs fs')
    (h : fs.lookup cwd p = .ok (loc, .directory)) : fs'.lookup cwd p = .ok (loc, .directory) := by
  obtain ⟨hr, hd⟩ := resolve_of_lookup h
  exact lookup_of_resolve (resolve_mono hk hr) (hk loc hd)

theorem lookup_directory_congr {loc : Location} (hs : SameDirectories fs fs')
    (h : fs.lookup cwd p = .ok (loc, .directory)) : fs'.lookup cwd p = .ok (loc, .directory) :=
  lookup_directory_mono hs.keeps h

theorem remove_of_resolve {loc : Location} {contents : Bytes} {executable : Bool}
    (h : fs.resolve cwd p = .ok loc) (he : fs.at? loc = some (.file contents executable)) :
    fs.remove cwd p = .ok (fs.put loc none) := by
  simp only [remove, lookup_of_resolve h he, bind, Except.bind]
  rfl

theorem remove_of_directory {loc : Location} (h : fs.resolve cwd p = .ok loc)
    (he : fs.at? loc = some .directory) : fs.remove cwd p = .error .isADirectory := by
  simp only [remove, lookup_of_resolve h he, bind, Except.bind]

theorem remove_of_none {loc : Location} (h : fs.resolve cwd p = .ok loc) (he : fs.at? loc = none) :
    fs.remove cwd p = .error .notFound := by
  simp only [remove, lookup, h, he, bind, Except.bind]

theorem read_of_resolve {loc : Location} {contents : Bytes} {executable : Bool}
    (h : fs.resolve cwd p = .ok loc) (he : fs.at? loc = some (.file contents executable)) :
    fs.read cwd p = .ok contents := by
  simp only [read, lookup_of_resolve h he, bind, Except.bind]

theorem list_of_lookup {loc : Location} (h : fs.lookup cwd p = .ok (loc, .directory)) :
    fs.list cwd p = .ok (fs.names loc) := by
  simp only [list, h, bind, Except.bind]

theorem mem_names {loc : Location} {name : Text} :
    name ∈ fs.names loc ↔ fs.get? (loc ++ [name]) ≠ none := by
  rw [names, List.mem_filterMap]
  constructor
  · rintro ⟨k, hk, hname⟩
    split at hname
    · rename_i hdir
      obtain ⟨init, rfl⟩ := List.getLast?_eq_some_iff.1 hname
      rw [List.dropLast_concat] at hdir
      obtain ⟨⟨k, e⟩, he, hkey⟩ := List.mem_map.1 hk
      rw [← hdir, ← show k = init ++ [name] from hkey, OrderedMap.mem_toList.1 he]
      simp
    · cases hname
  · intro h
    obtain ⟨e, he⟩ := Option.ne_none_iff_exists'.1 h
    refine ⟨loc ++ [name], List.mem_map.2 ⟨_, OrderedMap.mem_toList.2 he, rfl⟩, ?_⟩
    rw [List.dropLast_concat, if_pos rfl, List.getLast?_concat]

/-- Whether what is at a location is an executable file. -/
def isExecutable : Option Entry → Bool
  | some (.file _ executable) => executable
  | _ => false

namespace Admits

theorem at?_eq (h : fs.Admits cwd p) : fs.at? (p.location cwd) = fs.get? (p.location cwd) :=
  at?_eq_get? fs h.location_ne_nil

theorem get?_ne_directory (h : fs.Admits cwd p) : fs.get? (p.location cwd) ≠ some .directory := by
  rw [← h.at?_eq]
  exact h.file

theorem file_or_none (h : fs.Admits cwd p) : fs.get? (p.location cwd) = none ∨
    ∃ contents executable, fs.get? (p.location cwd) = some (.file contents executable) := by
  have hfile := h.get?_ne_directory
  rcases hg : fs.get? (p.location cwd) with _ | ⟨_ | ⟨contents, executable⟩⟩
  · exact .inl rfl
  · exact absurd hg hfile
  · exact .inr ⟨contents, executable, rfl⟩

theorem lookup_eq (h : fs.Admits cwd p) : fs.lookup cwd p =
    match fs.get? (p.location cwd) with
    | some e => .ok (p.location cwd, e)
    | none => .error .notFound := by
  rw [lookup, h.resolve, ← h.at?_eq]
  rfl

theorem remove_eq (h : fs.Admits cwd p) : fs.remove cwd p =
    match fs.get? (p.location cwd) with
    | some _ => .ok (fs.put (p.location cwd) none)
    | none => .error .notFound := by
  rcases h.file_or_none with hn | ⟨contents, executable, hf⟩
  · simp only [remove, h.lookup_eq, hn, bind, Except.bind]
  · simp only [remove, h.lookup_eq, hf, bind, Except.bind]
    rfl

theorem discard_eq (h : fs.Admits cwd p) : fs.discard cwd p = fs.put (p.location cwd) none := by
  rcases h.file_or_none with hn | ⟨contents, executable, hf⟩
  · simp only [discard, h.remove_eq, hn]
    exact (put_eq_self hn).symm
  · simp only [discard, h.remove_eq, hf]

theorem removeIfPresent_eq (h : fs.Admits cwd p) :
    fs.removeIfPresent cwd p = .ok (fs.put (p.location cwd) none) := by
  rcases h.file_or_none with hn | ⟨contents, executable, hf⟩
  · simp only [removeIfPresent, h.remove_eq, hn]
    rw [put_eq_self hn]
  · simp only [removeIfPresent, h.remove_eq, hf]

theorem write_eq (h : fs.Admits cwd p) (contents : Bytes) : fs.write cwd p contents =
    .ok (fs.put (p.location cwd)
      (some (.file contents (isExecutable (fs.get? (p.location cwd)))))) := by
  have hplace : fs.filePlace cwd p = .ok (p.location cwd, fs.get? (p.location cwd)) := by
    rw [filePlace, if_neg (by simp [h.unslashed]), place, h.resolve]
    simp only [bind, Except.bind, pure, Except.pure]
    rw [h.at?_eq]
    rcases h.file_or_none with hn | ⟨c, x, hf⟩
    · rw [hn]
    · rw [hf]
  simp only [write, hplace, bind, Except.bind]
  rcases h.file_or_none with hn | ⟨c, x, hf⟩
  · rw [hn]; rfl
  · rw [hf]; rfl

theorem read_eq_ok {contents : Bytes} (h : fs.Admits cwd p) : fs.read cwd p = .ok contents ↔
    ∃ executable, fs.get? (p.location cwd) = some (.file contents executable) := by
  rcases h.file_or_none with hn | ⟨c, x, hf⟩
  · simp [read, h.lookup_eq, hn, bind, Except.bind]
  · simp [read, h.lookup_eq, hf, bind, Except.bind]

theorem size_eq (h : fs.Admits cwd p) : fs.size cwd p =
    match fs.get? (p.location cwd) with
    | some (.file contents _) => .ok contents.length
    | _ => .error .notFound := by
  rcases h.file_or_none with hn | ⟨c, x, hf⟩
  · simp [size, h.lookup_eq, hn, bind, Except.bind]
  · simp [size, h.lookup_eq, hf, bind, Except.bind]

/-- A file that is renamed leaves its place and takes the other one, whatever file was there. -/
theorem rename_eq {contents : Bytes} {executable : Bool} (hp : fs.Admits cwd p)
    (hq : fs.Admits cwd q)
    (hf : fs.get? (p.location cwd) = some (.file contents executable)) :
    fs.rename cwd p q = .ok ((fs.put (p.location cwd) none).put (q.location cwd)
      (some (.file contents executable))) := by
  simp only [rename, hp.entry, hq.entry, bind, Except.bind, hp.at?_eq, hf]
  rw [if_neg (by simp [hp.unslashed, hq.unslashed]), if_neg hq.file]
  rfl

end Admits
end RuleSets.FileSystem
