import RuleSets.Proofs.Json.RoundTrip
import RuleSets.Source.Extract
import RuleSets.Target

/-!
# Emitted documents as sources

A rule-set document that was emitted for a bucket is recognised as one, and the rules that are read
from it are those of the bucket's extracted kinds (`document_reads_back`).
-/

namespace RuleSets

/-- The kind under which the values of a kind are read back from a document. -/
def Kind.readAs : Kind → Kind
  | .ipCidr6 => .ipCidr
  | k => k

theorem Rule.parse?_readAs (k : Kind) (raw : Text) : parse? k.readAs raw = parse? k raw := by
  cases k <;> rfl

namespace Target

variable {b : Bucket} {name : Text} {ks : List Kind} {k : Kind} {v : Text}

/-! ### Fields -/

theorem mem_mergedValues : v ∈ mergedValues b ks ↔ ∃ k ∈ ks, (⟨k, v⟩ : Rule) ∈ b := by
  rw [mergedValues, ← OrderedSet.mem_def, OrderedSet.mem_ofList, List.mem_flatMap]
  constructor
  · rintro ⟨k, hk, hv⟩
    exact ⟨k, hk, Bucket.mem_values.1 hv⟩
  · rintro ⟨k, hk, hr⟩
    exact ⟨k, hk, Bucket.mem_values.2 hr⟩

theorem exists_fieldKinds (k : Kind) : ∃ f ∈ fieldKinds, k ∈ f.2 := by
  cases k <;> decide

theorem ofFieldName?_of_fieldKinds {f : Text × List Kind} (hf : f ∈ fieldKinds) (hk : k ∈ f.2) :
    Kind.ofFieldName? f.1 = if k ∈ Kind.extracted then some k.readAs else none := by
  have : ∀ f ∈ fieldKinds, ∀ k ∈ f.2,
      Kind.ofFieldName? f.1 = if k ∈ Kind.extracted then some k.readAs else none := by decide
  exact this f hf k hk

theorem mem_ruleFields {field : Text × Value} : field ∈ ruleFields b ↔
    ∃ f ∈ fieldKinds, mergedValues b f.2 ≠ [] ∧
      (f.1, .list ((mergedValues b f.2).map .string)) = field := by
  rw [ruleFields, List.mem_filterMap]
  constructor
  · rintro ⟨⟨name, ks⟩, hf, hfield⟩
    refine ⟨(name, ks), hf, ?_⟩
    dsimp only at hfield
    split at hfield
    · cases hfield
    · rename_i hne
      exact ⟨hne, Option.some.inj hfield⟩
  · rintro ⟨⟨name, ks⟩, hf, hne, rfl⟩
    refine ⟨(name, ks), hf, ?_⟩
    dsimp only
    split
    · rename_i h; exact absurd h hne
    · rfl

/-- The names of a rule's fields stand in the order of `fieldKinds`. -/
theorem ruleFields_names_sublist : ((ruleFields b).map (·.1)).Sublist (fieldKinds.map (·.1)) := by
  rw [ruleFields]
  induction fieldKinds with
  | nil => exact List.Sublist.refl _
  | cons f fs ih =>
    obtain ⟨name, ks⟩ := f
    rw [List.filterMap_cons, List.map_cons]
    dsimp only
    rcases mergedValues b ks with _ | ⟨v, vs⟩
    · exact ih.cons name
    · exact ih.cons_cons name

theorem ruleFields_eq_nil : ruleFields b = [] ↔ b.toList = [] := by
  constructor
  · intro h
    refine List.eq_nil_iff_forall_not_mem.2 fun r hr => ?_
    obtain ⟨f, hf, hk⟩ := exists_fieldKinds r.kind
    have hv : r.value ∈ mergedValues b f.2 := mem_mergedValues.2 ⟨r.kind, hk, hr⟩
    have hfield := mem_ruleFields.2 ⟨f, hf, List.ne_nil_of_mem hv, rfl⟩
    rw [h] at hfield
    cases hfield
  · intro h
    refine List.eq_nil_iff_forall_not_mem.2 fun field hfield => ?_
    obtain ⟨f, -, hne, -⟩ := mem_ruleFields.1 hfield
    obtain ⟨v, hv⟩ := List.exists_mem_of_ne_nil _ hne
    obtain ⟨k, -, hr⟩ := mem_mergedValues.1 hv
    rw [OrderedSet.mem_def, h] at hr
    cases hr

/-! ### Documents -/

theorem exact_ruleFields {depth : Nat} : ∀ field ∈ ruleFields b, Json.Exact (depth + 1) field.2 := by
  intro field hfield
  obtain ⟨f, -, -, rfl⟩ := mem_ruleFields.1 hfield
  refine .list fun v hv => ?_
  obtain ⟨s, -, rfl⟩ := List.mem_map.1 hv
  exact .string s

theorem exact_documentRules {depth : Nat} :
    ∀ rule ∈ documentRules b, Json.Exact (depth + 2) rule := by
  intro rule hrule
  unfold documentRules at hrule
  split at hrule
  · cases hrule
  · rw [List.mem_singleton.1 hrule]
    refine .object ?_ fun field hfield => ?_
    · have hnodup : ("type".toList :: fieldKinds.map (·.1)).Nodup := by decide
      exact (ruleFields_names_sublist.cons_cons _).nodup hnodup
    · rcases List.mem_cons.1 hfield with rfl | hfield
      · exact .string _
      · exact exact_ruleFields field hfield

theorem exact_document {version depth : Nat} (h : Value.fits64 version = true) :
    Json.Exact (depth + 4) (document b version) := by
  refine .object (show ["version".toList, "rules".toList].Nodup by decide) fun field hfield => ?_
  rcases List.mem_cons.1 hfield with rfl | hfield
  · exact .int h
  · rw [List.mem_singleton.1 hfield]
    exact .list exact_documentRules

/-- The structure of an emitted document is that of a rule set. -/
theorem parse_renderDocument {version : Nat} (h : Value.fitsSigned64 version = true) :
    Document.parse (renderDocument b version) = .ruleSet version (documentRules b) := by
  have hfits : Value.fits64 version = true := by
    simp only [Value.fitsSigned64, Value.fits64, Bool.and_eq_true, decide_eq_true_eq] at h ⊢
    have h63 : Nat.pow 2 63 = 9223372036854775808 := rfl
    have h64 : Nat.pow 2 64 = 18446744073709551616 := rfl
    omega
  have hread : Json.parse? (renderDocument b version) = some (document b version) :=
    Json.parse?_render (exact_document hfits) fun c hc => by rw [List.mem_singleton.1 hc]; rfl
  have hmark : Text.dropMark (renderDocument b version) = renderDocument b version := by
    obtain ⟨s, hs⟩ : ∃ s, renderDocument b version = '\x7b' :: s := by
      simp only [renderDocument, Json.render, document, Json.print, List.cons_append]
      exact ⟨_, rfl⟩
    rw [hs]
    rfl
  rw [Document.parse, hmark, Document.value?, hread]
  have hversion : Document.version? [("version".toList, .int version),
      ("rules".toList, .list (documentRules b))] = some (version : Int) := by
    rw [Document.version?]
    have hfield : Value.field? "version".toList [("version".toList, .int version),
      ("rules".toList, .list (documentRules b))] = some (.int version) := rfl
    rw [hfield]
    exact if_pos h
  show Document.ofFields [("version".toList, .int version),
    ("rules".toList, .list (documentRules b))] = _
  rw [Document.ofFields, hversion]
  rfl

theorem isFlat_ruleFields : Extract.isFlat
    (("type".toList, .string "default".toList) :: ruleFields b) = true := by
  have hinvert : Value.field? "invert".toList
      (("type".toList, .string "default".toList) :: ruleFields b) = none := by
    rw [Value.field?, Option.map_eq_none_iff, List.find?_eq_none]
    intro field hfield
    have hname : field.1 ∈ "type".toList :: fieldKinds.map (·.1) :=
      (ruleFields_names_sublist.cons_cons _).subset (List.mem_map_of_mem (f := (·.1)) hfield)
    have hnames : ∀ name ∈ "type".toList :: fieldKinds.map (·.1), name ≠ "invert".toList := by decide
    simpa using hnames _ hname
  rw [Extract.isFlat, hinvert]
  rfl

theorem mem_fieldRules {vs : List Text} {raw : RawRule} :
    raw ∈ Extract.fieldRules (name, .list (vs.map .string)) ↔
      ∃ kind, Kind.ofFieldName? name = some kind ∧ ∃ v ∈ vs, raw = (kind, v) := by
  have hstrings : Extract.fieldStrings (.list (vs.map .string)) = vs := by
    rw [Extract.fieldStrings, List.filterMap_map]
    exact List.filterMap_some
  unfold Extract.fieldRules
  rw [hstrings]
  cases Kind.ofFieldName? name with
  | none => simp
  | some kind => simp [eq_comm]

theorem mem_documentRules {raw : RawRule} :
    raw ∈ (documentRules b).flatMap Extract.ruleOfValue ↔
      ∃ r ∈ b, r.kind ∈ Kind.extracted ∧ raw = (r.kind.readAs, r.value) := by
  have hfields : raw ∈ (ruleFields b).flatMap Extract.fieldRules ↔
      ∃ r ∈ b, r.kind ∈ Kind.extracted ∧ raw = (r.kind.readAs, r.value) := by
    rw [List.mem_flatMap]
    constructor
    · rintro ⟨field, hfield, hraw⟩
      obtain ⟨f, hf, -, rfl⟩ := mem_ruleFields.1 hfield
      obtain ⟨kind, hkind, v, hv, rfl⟩ := mem_fieldRules.1 hraw
      obtain ⟨k, hk, hr⟩ := mem_mergedValues.1 hv
      rw [ofFieldName?_of_fieldKinds hf hk] at hkind
      split at hkind
      · rename_i hext
        exact ⟨⟨k, v⟩, hr, hext, by rw [Option.some.inj hkind]⟩
      · cases hkind
    · rintro ⟨r, hr, hext, rfl⟩
      obtain ⟨f, hf, hk⟩ := exists_fieldKinds r.kind
      have hv : r.value ∈ mergedValues b f.2 := mem_mergedValues.2 ⟨r.kind, hk, hr⟩
      refine ⟨_, mem_ruleFields.2 ⟨f, hf, List.ne_nil_of_mem hv, rfl⟩, mem_fieldRules.2 ?_⟩
      exact ⟨r.kind.readAs, by rw [ofFieldName?_of_fieldKinds hf hk, if_pos hext], r.value, hv, rfl⟩
  have hflat := isFlat_ruleFields (b := b)
  rw [← hfields]
  unfold documentRules
  split
  · rename_i h
    rw [h]
    exact Iff.rfl
  · have htype : Extract.fieldRules ("type".toList, .string "default".toList) = [] := rfl
    rw [List.flatMap_cons, List.flatMap_nil, List.append_nil, Extract.ruleOfValue, if_pos hflat,
      List.flatMap_cons, htype, List.nil_append]

/-- Reading the rules of an emitted document gives what storing the extracted ones again gives. -/
theorem ofRaw_documentRules :
    Bucket.ofRaw ((documentRules b).flatMap Extract.ruleOfValue) =
      (b.filter fun r => Kind.extracted.contains r.kind).toList.foldl
        (fun b' r => b'.insertRaw r.kind r.value) ∅ := by
  have hfold : (b.filter fun r => Kind.extracted.contains r.kind).toList.foldl
      (fun b' r => b'.insertRaw r.kind r.value) ∅ =
        Bucket.ofRaw ((b.filter fun r => Kind.extracted.contains r.kind).toList.map
          fun r => (r.kind, r.value)) := by
    rw [← Bucket.foldl_insertRaw, List.foldl_map]
  rw [hfold]
  refine OrderedSet.ext fun r => ?_
  rw [Bucket.mem_ofRaw, Bucket.mem_ofRaw]
  constructor
  · rintro ⟨raw, hraw, hr⟩
    obtain ⟨r', hr', hext, rfl⟩ := mem_documentRules.1 hraw
    refine ⟨(r'.kind, r'.value), List.mem_map.2 ⟨r', ?_, rfl⟩, ?_⟩
    · exact OrderedSet.mem_filter.2 ⟨hr', List.contains_iff_mem.2 hext⟩
    · rw [← hr, Rule.parse?_readAs]
  · rintro ⟨raw, hraw, hr⟩
    obtain ⟨r', hr', rfl⟩ := List.mem_map.1 hraw
    obtain ⟨hmem, hext⟩ := OrderedSet.mem_filter.1 (OrderedSet.mem_def.2 hr')
    refine ⟨_, mem_documentRules.2 ⟨r', hmem, List.contains_iff_mem.1 hext, rfl⟩, ?_⟩
    rw [← hr, Rule.parse?_readAs]

theorem fitsSigned64_version (version : UInt32) :
    Value.fitsSigned64 version.toNat = true := by
  have hlt := version.toNat_lt
  have h63 : Nat.pow 2 63 = 9223372036854775808 := rfl
  rw [Value.fitsSigned64, Bool.and_eq_true, decide_eq_true_eq, decide_eq_true_eq]
  omega

/-- An emitted document is a rule set with one rule, or none if there was nothing to emit; its format
is recognised, and the rules read from it are those that were stored under extracted kinds. -/
theorem document_reads_back (b : Bucket) (version : UInt32) :
    let t := Target.singBox.render b version.toNat
    (∃ rules, Document.parse t = .ruleSet version.toNat rules ∧
      (b.isEmpty = true → rules = []) ∧
      (b.isEmpty = false → ∃ fields, rules = [.object fields])) ∧
    Format.detect .auto t = .singboxJson ∧
    extract .singboxJson t = (b.filter fun r => Kind.extracted.contains r.kind).toList.foldl
      (fun b' r => b'.insertRaw r.kind r.value) ∅ := by
  have hparse : Document.parse (Target.singBox.render b version.toNat) =
      .ruleSet version.toNat (documentRules b) :=
    parse_renderDocument (fitsSigned64_version version)
  refine ⟨⟨documentRules b, hparse, fun hempty => ?_, fun hne => ?_⟩, ?_, ?_⟩
  · rw [documentRules, ruleFields_eq_nil.2 (List.isEmpty_iff.1 hempty)]
  · unfold documentRules
    split
    · rename_i h
      rw [Bucket.isEmpty, ruleFields_eq_nil.1 h] at hne
      cases hne
    · exact ⟨_, rfl⟩
  · rw [Format.detect, hparse]
    rfl
  · rw [extract, hparse]
    exact ofRaw_documentRules

end Target
end RuleSets
