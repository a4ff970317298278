import RuleSets.Path
import RuleSets.Proofs.Text.Split

/-!
# Components of a path

Components make a path with the same components again (`components_ofComponents`), so nothing is lost in
the parent of a path but its last component.  However a directory is spelled, a path that is joined to it
from a name has the directory as its parent and the name as its last component (`isChild_join`).
-/

namespace RuleSets.Path

variable {s t : Text} {c : Component}

/-! ### Names -/

/-- Whether a text can be the name of an entry. -/
structure IsName (s : Text) : Prop where
  ne_nil : s ≠ []
  ne_dot : s ≠ ['.']
  ne_dots : s ≠ ['.', '.']
  slash : '/' ∉ s

theorem IsName.not_absolute (h : IsName s) : (Path.mk s).isAbsolute = false := by
  cases s with
  | nil => rfl
  | cons c s =>
    have hc : c ≠ '/' := fun hc => h.slash (hc ▸ List.mem_cons_self ..)
    simp [isAbsolute, hc]

theorem no_slash (h : '/' ∉ s) : ∀ c ∈ s, (c == '/') = false := fun c hc => by
  simpa using fun he : c = '/' => h (he ▸ hc)

/-! ### Starts -/

theorem start?_cases (p : Path) :
    p.start? = none ∨ p.start? = some .root ∨ p.start? = some .current := by
  unfold start?
  split <;> simp

/-- What comes after a slash has no say in how a path starts. -/
theorem start?_append_slash (hs : s ≠ []) (t : Text) :
    (Path.mk (s ++ '/' :: t)).start? = (Path.mk s).start? := by
  obtain ⟨c, s, rfl⟩ := List.exists_cons_of_ne_nil hs
  by_cases hroot : c = '/'
  · subst hroot
    rfl
  by_cases hdot : c = '.'
  · subst hdot
    rcases s with _ | ⟨d, s⟩
    · rfl
    · by_cases hslash : d = '/'
      · subst hslash
        rfl
      · simp [start?, hslash]
  · simp [start?, hroot, hdot]

theorem start?_of_isName (h : IsName s) : (Path.mk s).start? = none := by
  unfold start?
  split <;> rename_i hs
  · cases hs
    exact absurd (List.mem_cons_self ..) h.slash
  · cases hs
    exact absurd rfl h.ne_dot
  · cases hs
    exact absurd (List.mem_cons_of_mem _ (List.mem_cons_self ..)) h.slash
  · rfl

/-! ### Names in a directory -/

theorem component?_of_isName (h : IsName s) : component? s = some (.name s) := by
  unfold component?
  split
  · exact absurd rfl h.ne_nil
  · exact absurd rfl h.ne_dot
  · exact absurd rfl h.ne_dots
  · rfl

theorem filterMap_splitBy_of_isName (h : IsName s) :
    (Text.splitBy (· == '/') s).filterMap component? = [.name s] := by
  rw [Text.splitBy_of_none _ (no_slash h.slash),
    List.filterMap_cons_some (component?_of_isName h), List.filterMap_nil]

theorem components_of_isName (h : IsName s) : (Path.mk s).components = [.name s] := by
  rw [components, start?_of_isName h, pieces, filterMap_splitBy_of_isName h]
  rfl

theorem components_append_slash (hs : s ≠ []) (t : Text) : (Path.mk (s ++ '/' :: t)).components =
    (Path.mk s).components ++ (Text.splitBy (· == '/') t).filterMap component? := by
  rw [components, components, start?_append_slash hs, pieces, pieces,
    Text.splitBy_append_cons _ s t rfl, List.filterMap_append, List.append_assoc]

theorem components_root_slash (t : Text) : (Path.mk ('/' :: t)).components =
    .root :: (Text.splitBy (· == '/') t).filterMap component? := rfl

theorem join_text {dir : Path} (h : IsName s) :
    (dir.join ⟨s⟩).text = dir.asDirectory ++ s := by
  rw [join, h.not_absolute]; rfl

theorem tmp_join {dir : Path} (h : IsName s) (h' : IsName (s ++ ".tmp".toList)) :
    (dir.join ⟨s⟩).tmp = dir.join ⟨s ++ ".tmp".toList⟩ := by
  rw [tmp, withTail, join_text h, List.append_assoc, ← join_text h']

theorem components_join (dir : Path) (h : IsName s) :
    (dir.join ⟨s⟩).components = dir.components ++ [.name s] := by
  obtain ⟨d⟩ := dir
  have htext : (Path.mk d).join ⟨s⟩ = ⟨(Path.mk d).asDirectory ++ s⟩ := congrArg mk (join_text h)
  rw [htext]
  rcases List.eq_nil_or_concat d with rfl | ⟨a, c, rfl⟩
  · exact components_of_isName h
  rw [List.concat_eq_append]
  by_cases hslash : c = '/'
  · -- The slash is there already, and there is an empty piece behind it without the name.
    have hdir : (Path.mk (a ++ [c])).asDirectory = a ++ ['/'] := by
      simp [asDirectory, hslash]
    rw [hdir, hslash, List.append_assoc, List.singleton_append]
    by_cases ha : a = []
    · rw [ha, List.nil_append, List.nil_append, components_root_slash, components_root_slash,
        filterMap_splitBy_of_isName h]
      rfl
    · rw [components_append_slash ha, components_append_slash ha, filterMap_splitBy_of_isName h]
      simp [Text.splitBy, component?]
  · have hdir : (Path.mk (a ++ [c])).asDirectory = a ++ [c] ++ ['/'] := by
      simp [asDirectory, hslash]
    rw [hdir, List.append_assoc _ ['/'], List.singleton_append,
      components_append_slash (by simp), filterMap_splitBy_of_isName h]

/-! ### Paths made of components -/

/-- Whether a component can stand behind another one. -/
def Component.IsInner : Component → Prop
  | parent => True
  | name s => IsName s
  | _ => False

theorem isInner_of_component? (h : component? s = some c) (hs : '/' ∉ s) : c.IsInner := by
  unfold component? at h
  split at h
  · cases h
  · cases h
  · cases h
    trivial
  · rename_i hnil hdot hdots
    cases h
    exact ⟨hnil, hdot, hdots, hs⟩

theorem Component.IsInner.component?_text (h : c.IsInner) : component? c.text = some c := by
  cases c with
  | parent => rfl
  | name s => exact component?_of_isName h
  | root | current => exact h.elim

theorem Component.IsInner.start?_text (h : c.IsInner) : (Path.mk c.text).start? = none := by
  cases c with
  | parent => rfl
  | name s => exact start?_of_isName h
  | root | current => exact h.elim

theorem Component.IsInner.text_ne_nil (h : c.IsInner) : c.text ≠ [] := by
  cases c with
  | parent => exact List.cons_ne_nil _ _
  | name s => exact h.ne_nil
  | root | current => exact h.elim

theorem Component.IsInner.slash (h : c.IsInner) : '/' ∉ c.text := by
  cases c with
  | parent => decide
  | name s => exact IsName.slash h
  | root | current => exact h.elim

theorem filterMap_component?_text {cs : List Component} (hcs : ∀ c ∈ cs, c.IsInner) :
    (cs.map Component.text).filterMap component? = cs := by
  induction cs with
  | nil => rfl
  | cons c cs ih =>
    obtain ⟨hc, hcs⟩ := List.forall_mem_cons.1 hcs
    rw [List.map_cons, List.filterMap_cons_some hc.component?_text, ih hcs]

/-- Components other than a start are found again where they are joined. -/
theorem filterMap_splitBy_joinWith {cs : List Component} (hcs : ∀ c ∈ cs, c.IsInner) :
    (Text.splitBy (· == '/') (Text.joinWith ['/'] (cs.map Component.text))).filterMap component? =
      cs := by
  by_cases hnil : cs = []
  · rw [hnil]
    rfl
  · rw [Text.splitBy_joinWith rfl (List.forall_mem_map.2 fun c hc => no_slash (hcs c hc).slash)
      (by simpa using hnil), filterMap_component?_text hcs]

theorem start?_joinWith {cs : List Component} (hcs : ∀ c ∈ cs, c.IsInner) :
    (Path.mk (Text.joinWith ['/'] (cs.map Component.text))).start? = none := by
  rcases cs with _ | ⟨c, _ | ⟨d, cs⟩⟩
  · rfl
  · exact (hcs c (List.mem_cons_self ..)).start?_text
  · have hc := hcs c (List.mem_cons_self ..)
    rw [List.map_cons, List.map_cons, Text.joinWith, List.append_assoc, List.singleton_append,
      start?_append_slash hc.text_ne_nil, hc.start?_text]

theorem components_ofComponents (p : Path) :
    (ofComponents p.components).components = p.components := by
  have hinner : ∀ c ∈ p.pieces.filterMap component?, c.IsInner := by
    intro c hc
    obtain ⟨w, hw, hwc⟩ := List.mem_filterMap.1 hc
    refine isInner_of_component? hwc fun hslash => ?_
    simpa using Text.not_of_mem_splitBy hw _ hslash
  change (ofComponents (p.start?.toList ++ p.pieces.filterMap component?)).components =
    p.start?.toList ++ p.pieces.filterMap component?
  generalize p.pieces.filterMap component? = cs at hinner
  rcases start?_cases p with hstart | hstart | hstart <;> rw [hstart]
  · have hpath : ofComponents cs = ⟨Text.joinWith ['/'] (cs.map Component.text)⟩ := by
      unfold ofComponents
      split
      · exact (hinner _ (List.mem_cons_self ..)).elim
      · rfl
    show (ofComponents cs).components = cs
    rw [hpath, components, start?_joinWith hinner, pieces, filterMap_splitBy_joinWith hinner]
    rfl
  · cases cs with
    | nil => rfl
    | cons c cs =>
      show (Path.mk ('/' :: Text.joinWith ['/'] ((c :: cs).map Component.text))).components = _
      rw [components_root_slash, filterMap_splitBy_joinWith hinner]
      rfl
  · cases cs with
    | nil => rfl
    | cons c cs =>
      show (Path.mk (['.'] ++ '/' :: Text.joinWith ['/'] ((c :: cs).map Component.text))).components = _
      rw [components_append_slash (List.cons_ne_nil _ _), filterMap_splitBy_joinWith hinner]
      rfl

/-! ### Children -/

/-- Whether a path is that of an entry of a directory: the directory is its parent, and the name of
the entry its one further component. -/
structure IsChild (p dir : Path) (name : Text) : Prop where
  components : p.components = dir.components ++ [.name name]
  parent : ∃ q, p.parent? = some q ∧ q.same dir = true
  fileName : p.fileName? = some name

theorem isChild_join (dir : Path) (h : IsName s) : (dir.join ⟨s⟩).IsChild dir s := by
  have hcomponents := components_join dir h
  refine ⟨hcomponents, ⟨ofComponents dir.components, ?_, ?_⟩, ?_⟩
  · rw [parent?, hcomponents, List.getLast?_concat, List.dropLast_concat]
  · rw [same, components_ofComponents, beq_self_eq_true]
  · rw [fileName?, hcomponents, List.getLast?_concat]

end RuleSets.Path
