import RuleSets.Proofs.Network.Rule
import RuleSets.Proofs.Text.Lowercase

/-!
# Canonical rules

A rule is canonical if its value is trimmed and, as the name of a domain, without mark, and if
reading the value again gives the rule itself.  Reading makes networks, keywords and the other
values canonical.  Of the name of a domain it takes one mark off and then the periods, but it looks
only once: what stands behind them may be white space or another mark, and then the rule is not
canonical and the value is read as another rule (`parse?_isCanonical_iff`).
-/

namespace RuleSets

/-- Whether values of the kind are names of domains. -/
def Kind.isDomainName : Kind → Bool
  | domain | domainSuffix => true
  | _ => false

namespace Rule

variable {k : Kind} {raw s t : Text} {r : Rule}

/-! ### Marks and periods -/

theorem stripDots_suffix (s : Text) : stripDots s <:+ s := by
  have hmark : (Text.afterPrefix? ['+', '.'] s).getD s <:+ s := by
    rw [Text.afterPrefix?]
    split
    · exact List.drop_suffix _ s
    · exact List.suffix_refl s
  exact (List.dropWhile_suffix _).trans hmark

theorem no_period_stripDots (s : Text) : ¬ ['.'] <+: stripDots s := by
  intro h
  have hhead := List.head?_dropWhile_not (· == '.') ((Text.afterPrefix? ['+', '.'] s).getD s)
  obtain ⟨t, ht⟩ := h
  rw [stripDots] at ht
  rw [← ht] at hhead
  cases hhead

theorem stripDots_eq_self_iff : stripDots s = s ↔ ¬ ['.'] <+: s ∧ ¬ ['+', '.'] <+: s := by
  constructor
  · intro h
    refine ⟨h ▸ no_period_stripDots s, fun hmark => ?_⟩
    obtain ⟨t, rfl⟩ := hmark
    have hstrip : stripDots (['+', '.'] ++ t) = t.dropWhile (· == '.') := by
      simp [stripDots, Text.afterPrefix?]
    have hlength : (stripDots (['+', '.'] ++ t)).length ≤ t.length := by
      rw [hstrip]
      exact (List.dropWhile_suffix _).length_le
    rw [h, List.length_append, List.length_cons, List.length_singleton] at hlength
    omega
  · rintro ⟨hperiod, hmark⟩
    have hafter : Text.afterPrefix? ['+', '.'] s = none := by
      rw [Text.afterPrefix?, if_neg fun h => hmark (List.isPrefixOf_iff_prefix.1 h)]
    rw [stripDots, hafter]
    refine Text.dropWhile_eq_self_iff.2 fun c hc => ?_
    simp only [beq_eq_false_iff_ne]
    rintro rfl
    cases s with
    | nil => cases hc
    | cons c s =>
      obtain rfl : c = '.' := Option.some.inj hc
      exact hperiod ⟨s, rfl⟩

/-! ### Reading -/

theorem parse?_name (hk : k.isDomainName = true) (raw : Text) :
    parse? k raw = if stripDots (Text.trim raw) = [] then none
      else some ⟨k, Text.lower (stripDots (Text.trim raw))⟩ := by
  have hempty : Text.trim raw = [] → stripDots (Text.trim raw) = [] := by
    intro h
    rw [h]
    rfl
  cases k with
  | domain | domainSuffix =>
    by_cases hraw : Text.trim raw = []
    · rw [if_pos (hempty hraw), parse?, hraw]
      rfl
    · simp [parse?, hraw, Text.lower_eq_nil]
  | _ => cases hk

/-- The name of a domain is read as what is left behind one mark and the periods, in lower case. -/
theorem eq_of_parse?_name (h : parse? k raw = some r) (hk : k.isDomainName = true) :
    stripDots (Text.trim raw) ≠ [] ∧ r = ⟨k, Text.lower (stripDots (Text.trim raw))⟩ := by
  rw [parse?_name hk, Option.ite_none_left_eq_some] at h
  exact ⟨h.1, (Option.some.inj h.2).symm⟩

/-- Everything that reading a value can give. -/
theorem parse?_cases (h : parse? k raw = some r) :
    (k.isCidr = true ∧ ∃ n, Network.parse? raw = some n ∧ r = ofNetwork n) ∨
    (k.isDomainName = true ∧ stripDots (Text.trim raw) ≠ [] ∧
      r = ⟨k, Text.lower (stripDots (Text.trim raw))⟩) ∨
    (k = .domainKeyword ∧ Text.trim raw ≠ [] ∧ r = ⟨k, Text.lower (Text.trim raw)⟩) ∨
    (k.isCidr = false ∧ k.isDomainName = false ∧ k ≠ .domainKeyword ∧ Text.trim raw ≠ [] ∧
      r = ⟨k, Text.trim raw⟩) := by
  cases hname : k.isDomainName with
  | true => exact .inr (.inl ⟨rfl, eq_of_parse?_name h hname⟩)
  | false =>
    cases hcidr : k.isCidr with
    | true =>
      rw [parse?_network hcidr] at h
      obtain ⟨n, hraw, hn⟩ := Option.map_eq_some_iff.1 h
      exact .inl ⟨rfl, n, hraw, hn.symm⟩
    | false =>
      cases k with
      | domain | domainSuffix => cases hname
      | ipCidr | ipCidr6 => cases hcidr
      | domainKeyword =>
        simp only [parse?, Option.ite_none_left_eq_some, List.isEmpty_iff, Option.some.injEq] at h
        exact .inr (.inr (.inl ⟨rfl, h.1, h.2.symm⟩))
      | _ =>
        simp only [parse?, Option.ite_none_left_eq_some, List.isEmpty_iff, Option.some.injEq] at h
        exact .inr (.inr (.inr ⟨rfl, rfl, by decide, h.1, h.2.symm⟩))

/-! ### Canonical rules -/

/-- Whether a rule is in the form that reading its value again leaves as it is. -/
structure IsCanonical (r : Rule) : Prop where
  ne_nil : r.value ≠ []
  trimmed : Text.IsTrimmed r.value
  unmarked : r.kind.isDomainName = true → ¬ ['.'] <+: r.value ∧ ¬ ['+', '.'] <+: r.value
  fixed : parse? r.kind r.value = some r

theorem isCanonical_ofNetwork (n : Network) : (ofNetwork n).IsCanonical where
  ne_nil := by simp [ofNetwork, Network.toText]
  trimmed := Text.trim_eq_self_iff.1 (Text.trim_eq_self (Network.isBlank_toText n.truncate))
  unmarked h := by
    have hname : (kindOf n.family).isDomainName = false := by cases n.family <;> rfl
    exact absurd h (by simp [ofNetwork, hname])
  fixed := by
    have hcidr : (kindOf n.family).isCidr = true := by cases n.family <;> rfl
    show parse? (kindOf n.family) n.truncate.toText = some (ofNetwork n)
    rw [parse?_network hcidr, Network.parse?_toText]
    exact congrArg some (ofNetwork_eq_iff.2 n.truncate_truncate)

theorem isCanonical_keyword (hs : s ≠ []) (htrim : Text.IsTrimmed s) :
    IsCanonical ⟨.domainKeyword, Text.lower s⟩ := by
  have htrim' := Text.isTrimmed_lower.2 htrim
  have hne : Text.lower s ≠ [] := fun h => hs (Text.lower_eq_nil.1 h)
  refine ⟨hne, htrim', nofun, ?_⟩
  simp [parse?, Text.trim_eq_self_iff.2 htrim', hne, Text.lower_lower]

theorem isCanonical_plain (hcidr : k.isCidr = false) (hname : k.isDomainName = false)
    (hkeyword : k ≠ .domainKeyword) (hs : s ≠ []) (htrim : Text.IsTrimmed s) :
    IsCanonical ⟨k, s⟩ := by
  refine ⟨hs, htrim, fun h => absurd h (by simp [hname]), ?_⟩
  have hread := Text.trim_eq_self_iff.2 htrim
  cases k with
  | domain | domainSuffix => cases hname
  | ipCidr | ipCidr6 => cases hcidr
  | domainKeyword => exact absurd rfl hkeyword
  | _ => simp [parse?, hread, hs]

/-! ### Names of domains -/

/-- Whether a text stands without a mark, a period or white space around it. -/
def IsBare (s : Text) : Prop := Text.IsTrimmed s ∧ ¬ ['.'] <+: s ∧ ¬ ['+', '.'] <+: s

theorem period_prefix_lower : ['.'] <+: Text.lower s ↔ ['.'] <+: s :=
  Text.isPrefix_lowerFrom (by simp [Text.IsSign])

theorem mark_prefix_lower : ['+', '.'] <+: Text.lower s ↔ ['+', '.'] <+: s :=
  Text.isPrefix_lowerFrom (by simp [Text.IsSign])

theorem isBare_lower : IsBare (Text.lower s) ↔ IsBare s := by
  rw [IsBare, IsBare, Text.isTrimmed_lower, period_prefix_lower, mark_prefix_lower]

/-- Reading the name of a domain leaves just the bare names as they are. -/
theorem parse?_lower_iff (hk : k.isDomainName = true) (hs : s ≠ []) :
    parse? k (Text.lower s) = some ⟨k, Text.lower s⟩ ↔ IsBare s := by
  rw [← isBare_lower, IsBare, ← Text.trim_eq_self_iff, ← stripDots_eq_self_iff, parse?_name hk]
  have hne : Text.lower s ≠ [] := fun h => hs (Text.lower_eq_nil.1 h)
  have hlower : ∀ c ∈ Text.lower s, Text.IsLowered c := fun _ => Text.isLowered_of_mem_lower
  generalize Text.lower s = v at *
  constructor
  · intro h
    obtain ⟨-, h⟩ := Option.ite_none_left_eq_some.1 h
    -- Nothing is lowered any more, so nothing can have been taken off either.
    have hmem : ∀ c ∈ stripDots (Text.trim v), Text.IsLowered c := fun c hc =>
      hlower c (Text.mem_of_mem_trim ((stripDots_suffix _).mem hc))
    have hself : stripDots (Text.trim v) = v := by
      have hvalue := (Rule.mk.inj (Option.some.inj h)).2
      rwa [Text.lower, Text.lowerFrom_of_isLowered hmem] at hvalue
    have htrim : Text.trim v = v := by
      refine (Text.trim_sublist v).eq_of_length_le ?_
      rw [← congrArg List.length hself]
      exact (stripDots_suffix _).length_le
    rw [htrim] at hself
    exact ⟨htrim, hself⟩
  · rintro ⟨htrim, hstrip⟩
    rw [htrim, hstrip, if_neg hne, Text.lower, Text.lowerFrom_of_isLowered hlower]

theorem isCanonical_name_iff (hk : k.isDomainName = true) (hs : s ≠ []) :
    IsCanonical ⟨k, Text.lower s⟩ ↔ IsBare s := by
  constructor
  · intro h
    exact (parse?_lower_iff hk hs).1 h.fixed
  · intro h
    obtain ⟨htrim, hmarks⟩ := isBare_lower.2 h
    have hne : Text.lower s ≠ [] := fun he => hs (Text.lower_eq_nil.1 he)
    exact ⟨hne, htrim, fun _ => hmarks, (parse?_lower_iff hk hs).2 h⟩

/-- Whether what stands behind the mark and the periods of a name begins with neither white space
nor another mark. -/
def LeavesName (k : Kind) (raw : Text) : Prop := k.isDomainName = true →
  (∀ c ∈ (stripDots (Text.trim raw)).head?, Text.isBlank c = false) ∧
    ¬ ['+', '.'] <+: stripDots (Text.trim raw)

theorem isTrimmed_end_stripDots (h : Text.IsTrimmed s) (hne : stripDots s ≠ []) :
    ∀ c ∈ (stripDots s).getLast?, Text.isBlank c = false := by
  intro c hc
  obtain ⟨p, hp⟩ := stripDots_suffix s
  refine h.2 c ?_
  rwa [← hp, List.getLast?_append_of_ne_nil _ hne]

theorem leavesName_iff (hk : k.isDomainName = true) (hne : stripDots (Text.trim raw) ≠ []) :
    LeavesName k raw ↔ IsBare (stripDots (Text.trim raw)) := by
  have hend := isTrimmed_end_stripDots (Text.isTrimmed_trim raw) hne
  have hperiod := no_period_stripDots (Text.trim raw)
  rw [LeavesName, IsBare, Text.IsTrimmed, forall_prop_of_true hk]
  tauto

/-- Of all kinds but names of domains, every rule that is read is canonical. -/
theorem isCanonical_of_not_name (h : parse? k raw = some r) (hk : k.isDomainName = false) :
    r.IsCanonical := by
  rcases parse?_cases h with
    ⟨-, n, -, rfl⟩ | ⟨hname, -⟩ | ⟨rfl, hne, rfl⟩ | ⟨hcidr, -, hkeyword, hne, rfl⟩
  · exact isCanonical_ofNetwork n
  · rw [hk] at hname
    cases hname
  · exact isCanonical_keyword hne (Text.isTrimmed_trim raw)
  · exact isCanonical_plain hcidr hk hkeyword hne (Text.isTrimmed_trim raw)

/-- The value of a rule is never empty, never ends with white space and, as the name of a domain,
never begins with a period.  A rule is canonical, and its value is read as the rule itself, just
when neither white space nor a mark is left behind what is taken off the name of a domain. -/
theorem parse?_isCanonical_iff (h : parse? k raw = some r) :
    r.value ≠ [] ∧ (∀ c ∈ r.value.getLast?, Text.isBlank c = false) ∧
    (r.kind.isDomainName = true → ¬ ['.'] <+: r.value) ∧
    (r.IsCanonical ↔ LeavesName k raw) ∧
    (parse? r.kind r.value = some r ↔ LeavesName k raw) := by
  cases hk : k.isDomainName with
  | false =>
    have hcanonical := isCanonical_of_not_name h hk
    have hleaves : LeavesName k raw := fun hname => absurd hname (by simp [hk])
    exact ⟨hcanonical.ne_nil, hcanonical.trimmed.2, fun hname => (hcanonical.unmarked hname).1,
      iff_of_true hcanonical hleaves, iff_of_true hcanonical.fixed hleaves⟩
  | true =>
    obtain ⟨hne, rfl⟩ := eq_of_parse?_name h hk
    have hleaves := leavesName_iff hk hne
    refine ⟨fun he => hne (Text.lower_eq_nil.1 he), ?_, fun _ => ?_, ?_, ?_⟩
    · exact Text.blank_end_lower.2 (isTrimmed_end_stripDots (Text.isTrimmed_trim raw) hne)
    · exact fun he => no_period_stripDots _ (period_prefix_lower.1 he)
    · rw [hleaves, isCanonical_name_iff hk hne]
    · rw [hleaves]
      exact parse?_lower_iff hk hne

/-- White space or a second mark behind the first one stays, and is taken off the next time. -/
theorem marked_name_is_not_canonical :
    let marked : Rule := ⟨.domain, "+.a.com".toList⟩
    let blank : Rule := ⟨.domainSuffix, " a.com".toList⟩
    parse? .domain "+.+.a.com".toList = some marked ∧ ¬ marked.IsCanonical ∧
      parse? .domain marked.value = some ⟨.domain, "a.com".toList⟩ ∧
    parse? .domainSuffix ". a.com".toList = some blank ∧ ¬ blank.IsCanonical ∧
      parse? .domainSuffix blank.value = some ⟨.domainSuffix, "a.com".toList⟩ := by
  refine ⟨by decide, fun h => ?_, by decide, by decide, fun h => ?_, by decide⟩
  · exact absurd h.fixed (by decide)
  · exact absurd h.fixed (by decide)

/-- White space before the mark, periods behind it and capitals leave a canonical name. -/
theorem dotted_name_is_canonical :
    parse? .domainSuffix "\t+...Σ.ΑΣ ".toList = some ⟨.domainSuffix, "σ.ας".toList⟩ ∧
      IsCanonical ⟨.domainSuffix, "σ.ας".toList⟩ := by
  have h : parse? .domainSuffix "\t+...Σ.ΑΣ ".toList = some ⟨.domainSuffix, "σ.ας".toList⟩ := by
    decide
  have hhead : (stripDots (Text.trim "\t+...Σ.ΑΣ ".toList)).head? = some 'Σ' := by decide
  refine ⟨h, (parse?_isCanonical_iff h).2.2.2.1.2 fun _ => ⟨fun c hc => ?_, ?_⟩⟩
  · rw [hhead] at hc
    cases hc
    decide
  · decide

end Rule
end RuleSets
