import Mathlib.Data.List.Nodup
import RuleSets.Proofs.Manifest.Entry

/-!
# Sources of a manifest

A manifest names a source for every name that one of its valid entries has, and the first valid
entry of a name tells which.  Invalid entries leave no trace: they describe no source, and they keep
no name from a later entry (`manifest_names_first_entries`).
-/

namespace RuleSets

namespace Manifest

variable {items items' before after : List Value} {v : Value} {s t : Source} {ss ss' : List Source}
  {n : Text}

/-- Whether an entry is valid. -/
def IsValid (v : Value) : Prop := ∃ s, Describes v s

/-- Whether a valid entry has a name. -/
def HasName (items : List Value) (n : Text) : Prop := ∃ v ∈ items, ∃ s, Describes v s ∧ s.name = n

/-- Whether a source is described by an entry before which no valid entry has its name. -/
def IsFirst (items : List Value) (s : Source) : Prop := ∃ before v after,
  items = before ++ v :: after ∧ Describes v s ∧ ¬ HasName before s.name

/-- Whether a valid entry with the name of `s` comes before all with the name of `t`. -/
def Precedes (items : List Value) (s t : Source) : Prop := ∃ before after,
  items = before ++ after ∧ HasName before s.name ∧ ¬ HasName before t.name

/-- Whether sources are those of the first entries of all names, in the order of these entries. -/
structure AreFirsts (items : List Value) (ss : List Source) : Prop where
  mem_iff : ∀ s, s ∈ ss ↔ IsFirst items s
  order : ss.Pairwise (Precedes items)

/-! ### First entries -/

theorem hasName_nil : ¬ HasName [] n := by
  rintro ⟨_, hv, -⟩
  cases hv

theorem hasName_cons :
    HasName (v :: items) n ↔ (∃ s, Describes v s ∧ s.name = n) ∨ HasName items n := by
  simp only [HasName, List.mem_cons, exists_eq_or_imp]

theorem hasName_append :
    HasName (before ++ after) n ↔ HasName before n ∨ HasName after n := by
  simp only [HasName, List.mem_append, or_and_right, exists_or]

theorem HasName.mono (h : HasName before n) (hsub : before <+: items) : HasName items n := by
  obtain ⟨v, hv, hs⟩ := h
  exact ⟨v, hsub.mem hv, hs⟩

theorem describes_unique (hs : Describes v s) (ht : Describes v t) : s = t := by
  rw [← read_iff_describes] at hs ht
  exact Option.some.inj (hs.symm.trans ht)

theorem isFirst_cons : IsFirst (v :: items) s ↔
    Describes v s ∨ IsFirst items s ∧ ∀ t, Describes v t → t.name ≠ s.name := by
  constructor
  · rintro ⟨before, w, after, hitems, hw, hbefore⟩
    cases before with
    | nil =>
      obtain ⟨rfl, -⟩ := List.cons.inj hitems
      exact .inl hw
    | cons u before =>
      obtain ⟨rfl, hrest⟩ := List.cons.inj hitems
      rw [hasName_cons, not_or, not_exists] at hbefore
      exact .inr ⟨⟨before, w, after, hrest, hw, hbefore.2⟩,
        fun t ht hname => hbefore.1 t ⟨ht, hname⟩⟩
  · rintro (hv | ⟨⟨before, w, after, rfl, hw, hbefore⟩, hnot⟩)
    · exact ⟨[], v, items, rfl, hv, hasName_nil⟩
    · refine ⟨v :: before, w, after, rfl, hw, ?_⟩
      rw [hasName_cons]
      rintro (⟨t, ht, hname⟩ | hmem)
      · exact hnot t ht hname
      · exact hbefore hmem

theorem Precedes.cons (h : Precedes items s t) (hnot : ∀ u, Describes v u → u.name ≠ t.name) :
    Precedes (v :: items) s t := by
  obtain ⟨before, after, rfl, hs, ht⟩ := h
  refine ⟨v :: before, after, rfl, hasName_cons.2 (.inr hs), ?_⟩
  rw [hasName_cons]
  rintro (⟨u, hu, hname⟩ | hmem)
  · exact hnot u hu hname
  · exact ht hmem

theorem Precedes.head (hs : Describes v s) (hne : t.name ≠ s.name) : Precedes (v :: items) s t := by
  refine ⟨[v], items, rfl, ⟨v, List.mem_singleton_self v, s, hs, rfl⟩, ?_⟩
  rintro ⟨_, hw, u, hu, hname⟩
  rw [List.mem_singleton.1 hw] at hu
  exact hne (describes_unique hs hu ▸ hname.symm)

theorem Precedes.asymm (h : Precedes items s t) : ¬ Precedes items t s := by
  rintro ⟨before', after', hitems, ht', hs'⟩
  obtain ⟨before, after, rfl, hs, ht⟩ := h
  have hprefix : before' <+: before ++ after := ⟨after', hitems.symm⟩
  rcases List.prefix_or_prefix_of_prefix (List.prefix_append before after) hprefix with hsub | hsub
  · exact hs' (hs.mono hsub)
  · exact ht (ht'.mono hsub)

/-- The sources of the first entries come in one order only. -/
theorem AreFirsts.unique (h : AreFirsts items ss) (h' : AreFirsts items ss') : ss = ss' := by
  have hnodup {ss : List Source} (h : AreFirsts items ss) : ss.Nodup :=
    h.order.imp fun hst he => (he ▸ hst).asymm (he ▸ hst)
  have hmem : ∀ s, s ∈ ss ↔ s ∈ ss' := fun s => (h.mem_iff s).trans (h'.mem_iff s).symm
  have hperm := (List.perm_ext_iff_of_nodup (hnodup h) (hnodup h')).2 hmem
  exact hperm.eq_of_pairwise (fun s t _ _ hst hts => absurd hts hst.asymm) h.order h'.order

/-! ### Reading -/

/-- The sources that are read from entries. -/
def sources (items : List Value) : List Source := firstOfName (items.filterMap entry?)

theorem read_none_iff : entry? v = none ↔ ¬ IsValid v := by
  rw [IsValid, ← Option.not_isSome_iff_eq_none, Option.isSome_iff_exists]
  simp only [read_iff_describes]

theorem areFirsts_sources (items : List Value) : AreFirsts items (sources items) := by
  induction items with
  | nil =>
    refine ⟨fun s => iff_of_false List.not_mem_nil ?_, .nil⟩
    rintro ⟨before, v, after, hitems, -⟩
    cases before <;> cases hitems
  | cons v items ih =>
    cases hv : entry? v with
    | none =>
      have hnot : ∀ s, ¬ Describes v s := not_exists.1 (read_none_iff.1 hv)
      have hsources : sources (v :: items) = sources items := by
        rw [sources, List.filterMap_cons_none hv, sources]
      rw [hsources]
      refine ⟨fun s => ?_, ih.order.imp fun h => h.cons fun u hu => absurd hu (hnot u)⟩
      rw [ih.mem_iff, isFirst_cons]
      simp [hnot]
    | some u =>
      have hu := read_iff_describes.1 hv
      have honly : ∀ t, Describes v t ↔ t = u :=
        fun t => ⟨fun ht => describes_unique ht hu, fun ht => ht ▸ hu⟩
      have hsources : sources (v :: items) = u :: (sources items).filter (·.name != u.name) := by
        rw [sources, List.filterMap_cons_some hv, sources]
        rfl
      rw [hsources]
      refine ⟨fun s => ?_, List.pairwise_cons.2 ⟨fun t ht => ?_, List.pairwise_filter.2 ?_⟩⟩
      · rw [List.mem_cons, List.mem_filter, ih.mem_iff, isFirst_cons, honly, bne_iff_ne]
        simp only [honly, forall_eq, ne_comm]
      · have hne := (List.mem_filter.1 ht).2
        exact .head hu (bne_iff_ne.1 hne)
      · refine ih.order.imp fun h _ ht => h.cons fun w hw => ?_
        rw [(honly w).1 hw]
        exact (bne_iff_ne.1 ht).symm

theorem ofValue_list : ofValue (.list items) = .ok ss ↔ ss ≠ [] ∧ sources items = ss := by
  cases items with
  | nil =>
    constructor
    · intro h
      cases h
    · rintro ⟨hne, rfl⟩
      exact absurd rfl hne
  | cons v items =>
    cases hs : sources (v :: items) with
    | nil =>
      have hread : ofValue (.list (v :: items)) = .error .noValidEntry := by
        rw [sources] at hs
        simp only [ofValue, hs]
      rw [hread]
      constructor
      · intro h
        cases h
      · rintro ⟨hne, rfl⟩
        exact absurd rfl hne
    | cons s rest =>
      have hread : ofValue (.list (v :: items)) = .ok (s :: rest) := by
        rw [sources] at hs
        simp only [ofValue, hs]
      rw [hread]
      constructor
      · rintro ⟨⟩
        exact ⟨List.cons_ne_nil s rest, rfl⟩
      · rintro ⟨-, rfl⟩
        rfl

theorem exists_list_of_ofValue (h : ofValue v = .ok ss) : ∃ items, v = .list items := by
  cases v with
  | list items => exact ⟨items, rfl⟩
  | _ => cases h

theorem sources_ne_nil_iff : sources items ≠ [] ↔ ∃ v ∈ items, IsValid v := by
  have hnil : ∀ l, firstOfName l = [] ↔ l = [] := by
    intro l
    cases l <;> simp [firstOfName]
  rw [sources, ne_eq, hnil, List.filterMap_eq_nil_iff]
  simp only [read_none_iff, not_forall, not_not, exists_prop]

theorem ofValue_of_valid (h : ∃ v ∈ items, IsValid v) : ofValue (.list items) = .ok (sources items) :=
  ofValue_list.2 ⟨sources_ne_nil_iff.2 h, rfl⟩

theorem ofValue_congr (h : ∃ v ∈ items, IsValid v) (hs : sources items' = sources items) :
    ofValue (.list items') = ofValue (.list items) := by
  rw [ofValue_of_valid h, ← hs, ofValue_of_valid]
  rw [← sources_ne_nil_iff, hs]
  exact sources_ne_nil_iff.2 h

/-! ### Invalid and repeated entries -/

theorem sources_insert (hv : ¬ IsValid v) :
    sources (before ++ v :: after) = sources (before ++ after) := by
  rw [sources, sources, List.filterMap_append, List.filterMap_append,
    List.filterMap_cons_none (read_none_iff.2 hv)]

theorem isFirst_behind_invalid (hv : ¬ IsValid v) (hs : IsFirst after s)
    (hbefore : ¬ HasName before s.name) : IsFirst (before ++ v :: after) s := by
  obtain ⟨between, w, rest, rfl, hw, hbetween⟩ := hs
  refine ⟨before ++ v :: between, w, rest, by simp, hw, ?_⟩
  rw [hasName_append, hasName_cons]
  rintro (h | ⟨t, ht, -⟩ | h)
  · exact hbefore h
  · exact hv ⟨t, ht⟩
  · exact hbetween h

theorem isFirst_append (hv : ∀ s, Describes v s → HasName items s.name) :
    IsFirst (items ++ [v]) t ↔ IsFirst items t := by
  constructor
  · rintro ⟨before, w, after, hitems, hw, hbefore⟩
    rcases List.eq_nil_or_concat after with rfl | ⟨after, u, rfl⟩
    · obtain ⟨rfl, hlast⟩ := List.append_inj' hitems rfl
      obtain rfl := List.head_eq_of_cons_eq hlast
      exact absurd (hv t hw) hbefore
    · have hsplit : items ++ [v] = (before ++ w :: after) ++ [u] := by
        rw [hitems, List.concat_eq_append, List.append_assoc, List.cons_append]
      exact ⟨before, w, after, (List.append_inj' hsplit rfl).1, hw, hbefore⟩
  · rintro ⟨before, w, after, rfl, hw, hbefore⟩
    exact ⟨before, w, after ++ [v], by simp, hw, hbefore⟩

/-- An entry at the end changes nothing if a valid entry has its name. -/
theorem sources_append (hv : ∀ s, Describes v s → HasName items s.name) :
    sources (items ++ [v]) = sources items := by
  have hfirsts := areFirsts_sources items
  refine (areFirsts_sources (items ++ [v])).unique ⟨fun t => ?_, ?_⟩
  · rw [hfirsts.mem_iff, isFirst_append hv]
  · refine hfirsts.order.imp ?_
    rintro s t ⟨before, after, rfl, hs, ht⟩
    exact ⟨before, after ++ [v], List.append_assoc .., hs, ht⟩

/-! ### Names -/

theorem nodup_names (h : AreFirsts items ss) : (ss.map (·.name)).Nodup := by
  refine List.pairwise_map.2 (h.order.imp ?_)
  rintro s t ⟨before, after, -, hs, ht⟩ hname
  exact ht (hname ▸ hs)

theorem name_of_describes (h : Describes v s) :
    s.name ≠ [] ∧ IsSafe s.name ∧ Text.IsTrimmed s.name := by
  obtain ⟨fields, -, hname, -, hsafe, -⟩ := h
  exact ⟨hname.1, hsafe, Text.trim_eq_self_iff.1 hname.trim_eq⟩

/-- A manifest is read as the sources of its valid entries, the first of every name, in their order,
and it is an error just when it is no list or no entry is valid.  So the names of the sources are
different, safe and trimmed.  Neither an invalid entry at any place nor a last one with a name that
is taken makes a difference, and an invalid entry does not take a name from a valid one behind it.
-/
theorem manifest_names_first_entries :
    (∀ text yaml v, (if yaml then Yaml.parse? text else Json.parse? text) = some v →
      parse text yaml = ofValue v) ∧
    (∀ v, (∃ ss, ofValue v = .ok ss) ↔ ∃ items, v = .list items ∧ ∃ v ∈ items, IsValid v) ∧
    (∀ items ss, ofValue (.list items) = .ok ss ↔ ss ≠ [] ∧ AreFirsts items ss) ∧
    (∀ v ss, ofValue v = .ok ss → (ss.map (·.name)).Nodup ∧
      ∀ s ∈ ss, s.name ≠ [] ∧ IsSafe s.name ∧ Text.IsTrimmed s.name) ∧
    (∀ before v after, ¬ IsValid v → (∃ w ∈ before ++ after, IsValid w) →
      ofValue (.list (before ++ v :: after)) = ofValue (.list (before ++ after))) ∧
    (∀ items v s, Describes v s → HasName items s.name →
      ofValue (.list (items ++ [v])) = ofValue (.list items)) ∧
    (∀ before v after s, ¬ IsValid v → IsFirst after s → ¬ HasName before s.name →
      ∃ ss, ofValue (.list (before ++ v :: after)) = .ok ss ∧ s ∈ ss) := by
  have hok {items : List Value} {ss : List Source} (h : ofValue (.list items) = .ok ss) :
      AreFirsts items ss := (ofValue_list.1 h).2 ▸ areFirsts_sources items
  refine ⟨?_, fun v => ⟨?_, ?_⟩, fun items ss => ⟨fun h => ?_, ?_⟩, ?_, ?_, ?_, ?_⟩
  · intro text yaml v hv
    rw [parse, hv]
  · rintro ⟨ss, h⟩
    obtain ⟨items, rfl⟩ := exists_list_of_ofValue h
    obtain ⟨hne, rfl⟩ := ofValue_list.1 h
    exact ⟨items, rfl, sources_ne_nil_iff.1 hne⟩
  · rintro ⟨items, rfl, hvalid⟩
    exact ⟨sources items, ofValue_of_valid hvalid⟩
  · exact ⟨(ofValue_list.1 h).1, hok h⟩
  · rintro ⟨hne, hfirsts⟩
    exact ofValue_list.2 ⟨hne, (areFirsts_sources items).unique hfirsts⟩
  · intro v ss h
    obtain ⟨items, rfl⟩ := exists_list_of_ofValue h
    refine ⟨nodup_names (hok h), fun s hs => ?_⟩
    obtain ⟨_, v, _, -, hv, -⟩ := ((hok h).mem_iff s).1 hs
    exact name_of_describes hv
  · intro before v after hv hvalid
    exact ofValue_congr hvalid (sources_insert hv)
  · intro items v s hv hname
    have hvalid : ∃ w ∈ items, IsValid w := by
      obtain ⟨w, hw, t, ht, -⟩ := hname
      exact ⟨w, hw, t, ht⟩
    exact ofValue_congr hvalid (sources_append fun t ht => describes_unique hv ht ▸ hname)
  · intro before v after s hv hs hbefore
    have hfirst := isFirst_behind_invalid hv hs hbefore
    have hvalid : ∃ u ∈ before ++ v :: after, IsValid u := by
      obtain ⟨between, w, rest, heq, hw, -⟩ := hfirst
      exact ⟨w, by simp [heq], s, hw⟩
    exact ⟨_, ofValue_of_valid hvalid, ((areFirsts_sources _).mem_iff s).2 hfirst⟩

/-- The name of an entry with an unknown format is free for the next entry that has it. -/
theorem unknown_format_takes_no_name :
    ∃ ss, ofValue (.list [
      .object [("name".toList, .string "a".toList), ("url".toList, .string "u".toList),
        ("format".toList, .string "surge".toList)],
      .object [("name".toList, .string " a ".toList), ("url".toList, .string "v".toList),
        ("format".toList, .string "IP_Text".toList)]]) = .ok ss ∧
      ⟨"a".toList, "v".toList, .fixed .ipText⟩ ∈ ss := by
  obtain ⟨-, -, -, -, -, -, htakes⟩ := manifest_names_first_entries
  refine htakes [] _ _ _ (read_none_iff.1 ?_) ⟨[], _, [], rfl, read_iff_describes.1 ?_, hasName_nil⟩
    hasName_nil
  · decide
  · decide

end Manifest
end RuleSets
