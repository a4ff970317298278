import RuleSets.Proofs.FileSystem.Put
import RuleSets.Proofs.Path.Component

/-!
# Where paths lead

Without links, a path that leads anywhere leads to one location, whatever else is in the file system:
`Path.location` (`location_of_resolve`).  A file system only decides whether it leads there at all,
and that by its directories alone (`resolve_congr`).  `Admits` says of a path that a file can be
at it; `Admits.congr` carries it along while no directory is made or deleted, and
`location_join` and `Admits.location_eq` say where the files of a directory and their temporary files are.
-/

namespace RuleSets

namespace Path

/-- The names of a path, without the empty ones between neighbouring slashes. -/
def names (p : Path) : List Text := p.pieces.filter fun s => !s.isEmpty

/-- Where a name leads from a location. -/
def enter (loc : Location) (name : Text) : Location :=
  if name = ['.'] then loc else if name = ['.', '.'] then loc.dropLast else loc ++ [name]

/-- The location of a path, provided that it leads somewhere. -/
def location (cwd : Location) (p : Path) : Location :=
  p.names.foldl enter (if p.isAbsolute then [] else cwd)

theorem enter_of_isName {s : Text} (h : IsName s) (loc : Location) : enter loc s = loc ++ [s] := by
  rw [enter, if_neg h.ne_dot, if_neg h.ne_dots]

/-! ### Components -/

/-- Where a component leads from a location. -/
def Component.enter (loc : Location) : Component → Location
  | root => []
  | current => loc
  | parent => loc.dropLast
  | name s => loc ++ [s]

theorem foldl_enter_pieces (pieces : List Text) (loc : Location) :
    (pieces.filter fun s => !s.isEmpty).foldl Path.enter loc =
      (pieces.filterMap component?).foldl Component.enter loc := by
  induction pieces generalizing loc with
  | nil => rfl
  | cons s pieces ih =>
    unfold component?
    rw [List.filterMap_cons]
    split
    · rename_i hnone
      split at hnone
      · exact ih loc
      · exact ih loc
      · cases hnone
      · cases hnone
    · rename_i c hsome
      split at hsome
      · cases hsome
      · cases hsome
      · cases hsome
        exact ih loc.dropLast
      · rename_i hnil hdot hdots
        cases hsome
        rw [List.filter_cons_of_pos (by simpa using hnil), List.foldl_cons, List.foldl_cons, ih,
          Path.enter, if_neg hdot, if_neg hdots]
        rfl

theorem foldl_enter_start (cwd : Location) (p : Path) :
    p.start?.toList.foldl Component.enter cwd = if p.isAbsolute then [] else cwd := by
  obtain ⟨s⟩ := p
  by_cases habs : s.head? = some '/'
  · cases s with
    | nil => cases habs
    | cons c s => cases habs; rfl
  · rw [if_neg (by simpa [isAbsolute] using habs)]
    unfold start?
    split
    · rename_i h
      cases h
      exact absurd rfl habs
    · rfl
    · rfl
    · rfl

theorem location_eq_components (cwd : Location) (p : Path) :
    p.location cwd = p.components.foldl Component.enter cwd := by
  rw [components, List.foldl_append, foldl_enter_start, location, names, foldl_enter_pieces]

theorem location_of_same {cwd : Location} {p q : Path} (h : p.same q = true) :
    p.location cwd = q.location cwd := by
  rw [location_eq_components, location_eq_components, eq_of_beq h]

theorem location_join (cwd : Location) (dir : Path) {s : Text} (h : IsName s) :
    (dir.join ⟨s⟩).location cwd = dir.location cwd ++ [s] := by
  rw [location_eq_components, components_join dir h, List.foldl_append, ← location_eq_components]
  rfl

/-! ### Temporary files -/

theorem names_tmp {p : Path} {init : List Text} {last : Text} (hne : p.text ≠ [])
    (hslash : FileSystem.isSlashed p = false) (h : p.names = init ++ [last]) :
    p.tmp.names = init ++ [last ++ ".tmp".toList] := by
  -- The last character is no slash, so that it and the tail belong to one and the same piece.
  obtain ⟨s, c, hs⟩ := (List.eq_nil_or_concat p.text).resolve_left hne
  rw [List.concat_eq_append] at hs
  have hc : ∀ d ∈ [c], (d == '/') = false := by
    intro d hd
    rw [List.mem_singleton.1 hd]
    rw [FileSystem.isSlashed, hs, List.getLast?_concat] at hslash
    simpa using hslash
  have htail : ∀ d ∈ [c] ++ ".tmp".toList, (d == '/') = false := by
    intro d hd
    rcases List.mem_append.1 hd with hd | hd
    · exact hc d hd
    · exact no_slash (by decide : '/' ∉ ".tmp".toList) d hd
  obtain ⟨ws, w, hw, hp⟩ := Text.splitBy_append (· == '/') s hc
  obtain ⟨ws', w', hw', ht⟩ := Text.splitBy_append (· == '/') s htail
  obtain ⟨rfl, hww⟩ := List.append_inj' (hw.symm.trans hw') rfl
  obtain rfl := (List.cons.inj hww).1
  rw [names, pieces, hs, hp, List.filter_append] at h
  rw [names, pieces, tmp, withTail, hs, List.append_assoc, ht, List.filter_append]
  simp only [List.filter_cons, List.filter_nil] at h ⊢
  rw [if_pos (by simp)] at h ⊢
  obtain ⟨rfl, hl⟩ := List.append_inj' h rfl
  rw [← (List.cons.inj hl).1, List.append_assoc]

theorem isAbsolute_tmp {p : Path} (hne : p.text ≠ []) : p.tmp.isAbsolute = p.isAbsolute := by
  obtain ⟨c, s, hs⟩ := List.exists_cons_of_ne_nil hne
  rw [isAbsolute, isAbsolute, tmp, withTail, hs]
  rfl

end Path

namespace FileSystem

variable {fs fs' : FileSystem} {cwd loc : Location} {p : Path} {name : Text} {names : List Text}

/-! ### Following names -/

theorem step_eq_ok {loc' : Location} : fs.step loc name = .ok loc' ↔
    fs.at? loc = some .directory ∧ (Utf8.encode name).length ≤ maxName ∧
      Path.enter loc name = loc' := by
  have hdot : (Utf8.encode ['.']).length ≤ maxName := by decide
  have hdots : (Utf8.encode ['.', '.']).length ≤ maxName := by decide
  unfold step Path.enter
  split
  · simp [*]
  · simp [*]
  · rename_i hdir
    by_cases h : name = ['.']
    · subst h; simp [hdir, hdot]
    by_cases h' : name = ['.', '.']
    · subst h'; simp [hdir, hdots]
    by_cases hlong : maxName < (Utf8.encode name).length
    · simp [h, h', hlong, Nat.not_le.2 hlong]
    · simp [hdir, h, h', hlong, Nat.not_lt.1 hlong]

theorem foldlM_step_cons {loc' : Location} : (name :: names).foldlM fs.step loc = .ok loc' ↔
    fs.at? loc = some .directory ∧ (Utf8.encode name).length ≤ maxName ∧
      names.foldlM fs.step (Path.enter loc name) = .ok loc' := by
  rw [List.foldlM_cons]
  constructor
  · intro h
    cases hs : fs.step loc name with
    | error e => rw [hs] at h; cases h
    | ok l =>
      rw [hs] at h
      obtain ⟨hdir, hlen, rfl⟩ := step_eq_ok.1 hs
      exact ⟨hdir, hlen, h⟩
  · rintro ⟨hdir, hlen, h⟩
    rw [step_eq_ok.2 ⟨hdir, hlen, rfl⟩]
    exact h

theorem foldl_enter_of_foldlM_step {loc' : Location} (h : names.foldlM fs.step loc = .ok loc') :
    names.foldl Path.enter loc = loc' := by
  induction names generalizing loc with
  | nil => cases h; rfl
  | cons name names ih => exact ih (foldlM_step_cons.1 h).2.2

theorem foldlM_step_mono (hk : KeepsDirectories fs fs') {loc' : Location}
    (h : names.foldlM fs.step loc = .ok loc') : names.foldlM fs'.step loc = .ok loc' := by
  induction names generalizing loc with
  | nil => exact h
  | cons name names ih =>
    obtain ⟨hdir, hlen, h⟩ := foldlM_step_cons.1 h
    exact foldlM_step_cons.2 ⟨hk loc hdir, hlen, ih h⟩

theorem foldlM_step_append {names' : List Text} {loc' : Location} :
    (names ++ names').foldlM fs.step loc = .ok loc' ↔
      ∃ l, names.foldlM fs.step loc = .ok l ∧ names'.foldlM fs.step l = .ok loc' := by
  induction names generalizing loc with
  | nil => simp [pure, Except.pure]
  | cons name names ih =>
    rw [List.cons_append, foldlM_step_cons, ih]
    constructor
    · rintro ⟨hdir, hlen, l, h, h'⟩
      exact ⟨l, foldlM_step_cons.2 ⟨hdir, hlen, h⟩, h'⟩
    · rintro ⟨l, h, h'⟩
      obtain ⟨hdir, hlen, h⟩ := foldlM_step_cons.1 h
      exact ⟨hdir, hlen, l, h, h'⟩

theorem namesOf_ok (h : namesOf p = .ok names) : p.text ≠ [] ∧ p.names = names := by
  unfold namesOf at h
  split at h
  · cases h
  split at h
  · cases h
  rename_i hne
  split at h
  · cases h
  · cases h
    exact ⟨fun he => hne (by rw [he]; rfl), rfl⟩

theorem resolve_eq_ok : fs.resolve cwd p = .ok loc ↔ ∃ names, namesOf p = .ok names ∧
    fs.follow cwd p (if isSlashed p then names ++ [['.']] else names) = .ok loc := by
  unfold resolve
  cases namesOf p with
  | error e => simp [bind, Except.bind]
  | ok names => simp [bind, Except.bind]

/-- A path that leads somewhere leads to its location. -/
theorem location_of_resolve (h : fs.resolve cwd p = .ok loc) : p.location cwd = loc := by
  obtain ⟨names, hn, h⟩ := resolve_eq_ok.1 h
  obtain ⟨-, rfl⟩ := namesOf_ok hn
  split at h
  · obtain ⟨l, hl, hdot⟩ := foldlM_step_append.1 h
    rw [← foldl_enter_of_foldlM_step hdot, ← foldl_enter_of_foldlM_step hl]
    rfl
  · exact foldl_enter_of_foldlM_step h

theorem resolve_mono (hk : KeepsDirectories fs fs') (h : fs.resolve cwd p = .ok loc) :
    fs'.resolve cwd p = .ok loc := by
  obtain ⟨names, hn, h⟩ := resolve_eq_ok.1 h
  exact resolve_eq_ok.2 ⟨names, hn, foldlM_step_mono hk h⟩

theorem resolve_congr (hs : SameDirectories fs fs') (h : fs.resolve cwd p = .ok loc) :
    fs'.resolve cwd p = .ok loc := resolve_mono hs.keeps h

theorem entryOf_eq_ok : fs.entryOf cwd p = .ok loc ↔ ∃ init last, namesOf p = .ok (init ++ [last]) ∧
    last ≠ ['.'] ∧ last ≠ ['.', '.'] ∧ fs.follow cwd p (init ++ [last]) = .ok loc := by
  unfold entryOf
  cases hn : namesOf p with
  | error e => simp [bind, Except.bind]
  | ok names =>
    cases hf : fs.follow cwd p names with
    | error e =>
      constructor
      · intro h; simp [bind, Except.bind, hf] at h
      · rintro ⟨init, last, hnames, -, -, h⟩
        cases hnames
        rw [hf] at h; cases h
    | ok l =>
      simp only [bind, Except.bind, hf]
      constructor
      · intro h
        split at h
        · cases h
        · cases h
        · cases h
        · rename_i last hdot hdots hlast
          obtain ⟨init, rfl⟩ := List.getLast?_eq_some_iff.1 hlast
          exact ⟨init, last, rfl, hdot, hdots, hf.trans h⟩
      · rintro ⟨init, last, hnames, hdot, hdots, h⟩
        cases hnames
        rw [hf] at h; cases h
        rw [List.getLast?_concat]
        split
        · rename_i he; cases he
        · rename_i he; exact absurd (Option.some.inj he) hdot
        · rename_i he; exact absurd (Option.some.inj he) hdots
        · rfl

theorem follow_of_entryOf (h : fs.entryOf cwd p = .ok loc) : fs.follow cwd p p.names = .ok loc := by
  obtain ⟨init, last, hn, -, -, hf⟩ := entryOf_eq_ok.1 h
  rwa [(namesOf_ok hn).2]

theorem location_of_entryOf (h : fs.entryOf cwd p = .ok loc) : p.location cwd = loc :=
  foldl_enter_of_foldlM_step (follow_of_entryOf h)

/-- Without a slash behind it a path leads to the entry that it names. -/
theorem resolve_of_entryOf (hslash : isSlashed p = false) (h : fs.entryOf cwd p = .ok loc) :
    fs.resolve cwd p = .ok loc := by
  obtain ⟨init, last, hn, -, -, hf⟩ := entryOf_eq_ok.1 h
  refine resolve_eq_ok.2 ⟨_, hn, ?_⟩
  rwa [if_neg (by simp [hslash])]

/-! ### Paths of files -/

/-- Whether a file can be at a path: the path names an entry, with no slash behind it, and the entry
is a file or does not exist. -/
structure Admits (fs : FileSystem) (cwd : Location) (p : Path) : Prop where
  entry : fs.entryOf cwd p = .ok (p.location cwd)
  unslashed : isSlashed p = false
  file : fs.at? (p.location cwd) ≠ some .directory

namespace Admits

theorem location_ne_nil (h : fs.Admits cwd p) : p.location cwd ≠ [] := fun hnil =>
  h.file (by rw [hnil]; rfl)

theorem resolve (h : fs.Admits cwd p) : fs.resolve cwd p = .ok (p.location cwd) :=
  resolve_of_entryOf h.unslashed h.entry

theorem congr (hs : SameDirectories fs fs') (h : fs.Admits cwd p) : fs'.Admits cwd p := by
  refine ⟨?_, h.unslashed, fun hd => h.file ((hs _).2 hd)⟩
  obtain ⟨init, last, hn, hdot, hdots, hf⟩ := entryOf_eq_ok.1 h.entry
  exact entryOf_eq_ok.2 ⟨init, last, hn, hdot, hdots, foldlM_step_mono hs.keeps hf⟩

theorem put {e : Option Entry} (h : fs.Admits cwd p) (hloc : fs.at? loc ≠ some .directory)
    (he : e ≠ some .directory) : (fs.put loc e).Admits cwd p := h.congr (.put hloc he)

theorem location_eq (h : fs.Admits cwd p) : ∃ dir name, p.location cwd = dir ++ [name] ∧
    p.tmp.location cwd = dir ++ [name ++ ".tmp".toList] := by
  obtain ⟨init, last, hn, hdot, hdots, -⟩ := entryOf_eq_ok.1 h.entry
  obtain ⟨hne, hnames⟩ := namesOf_ok hn
  have hlast : last ++ ".tmp".toList ≠ ['.'] ∧ last ++ ".tmp".toList ≠ ['.', '.'] := by
    constructor <;> intro he <;> have := congrArg List.length he <;> simp at this
  refine ⟨init.foldl Path.enter (if p.isAbsolute then [] else cwd), last, ?_, ?_⟩
  · rw [Path.location, hnames, List.foldl_append, List.foldl_cons, List.foldl_nil, Path.enter,
      if_neg hdot, if_neg hdots]
  · rw [Path.location, Path.names_tmp hne h.unslashed hnames, Path.isAbsolute_tmp hne,
      List.foldl_append, List.foldl_cons, List.foldl_nil, Path.enter, if_neg hlast.1, if_neg hlast.2]

theorem location_tmp_ne (h : fs.Admits cwd p) : p.tmp.location cwd ≠ p.location cwd := by
  obtain ⟨dir, name, hp, ht⟩ := h.location_eq
  rw [hp, ht]
  intro he
  have hlen := congrArg List.length (List.cons.inj (List.append_cancel_left he)).1
  simp at hlen

end Admits
end FileSystem
end RuleSets
