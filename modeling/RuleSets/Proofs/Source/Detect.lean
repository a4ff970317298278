import RuleSets.Proofs.Network.Rule
import RuleSets.Proofs.Network.Spelling

/-!
# What is recognised is also read

A text is recognised as an address list by how many of its first lines look like networks, and every
line that looks like one is then read as that network (`recognised_networks_are_read`), among the lines that
were looked at and behind them.  A line that looks like a network has no comma, so it is never taken for
a rule line, and it is a network already where white space is trimmed and host addresses are allowed.
-/

namespace RuleSets

variable {s l : Text} {r : Rule} {doc : Document} {hits sampled : Nat}

/-! ### Recognition -/

/-- Whether a document tells the format of its source by its structure alone. -/
def Document.tellsFormat : Document → Bool
  | ruleSet _ _ | keyed _ _ => true
  | list _ | object | text => false

/-- Whether a document has no structure. -/
def Document.isText : Document → Bool
  | text => true
  | ruleSet _ _ | keyed _ _ | list _ | object => false

theorem Document.eq_text (h : doc.isText = true) : doc = .text := by
  cases doc with
  | text => rfl
  | _ => cases h

namespace Format

theorem isShare_iff : isShare hits sampled = true ↔ 3 ≤ hits ∧ 60 * sampled ≤ 100 * hits := by
  rw [isShare, Bool.and_eq_true, decide_eq_true_eq, decide_eq_true_eq, minHits, minPercent,
    Nat.mul_comm 60, Nat.mul_comm 100]

/-- The lines that are looked at. -/
def sample (s : Text) : List Text := (cleanLines s).take sampleSize

theorem ofDocument_eq_ofLines (h : doc.tellsFormat = false) :
    ofDocument .auto doc s = ofLines (cleanLines s) := by
  cases doc with
  | ruleSet version rules => cases h
  | keyed key items => cases h
  | list items => rfl
  | object => rfl
  | text => rfl

theorem ofLines_of_head {lines : List Text} (hl : lines.head? = some l)
    (h : (Kind.splitRule? l).isSome = true) : ofLines lines = clash := by
  rw [ofLines, hl, Option.any_some, if_pos h]

/-- A format of plain lists is told by the sample, after all else has failed to tell another. -/
theorem ofDocument_eq_iff {f : Format} (hclash : f ≠ clash) (hjson : f ≠ singboxJson) :
    ofDocument .auto doc s = f ↔ doc.tellsFormat = false ∧
      (∀ l ∈ (cleanLines s).head?, Kind.splitRule? l = none) ∧ ofSample (sample s) = f := by
  cases hdoc : doc.tellsFormat with
  | true =>
    have hne : ofDocument .auto doc s ≠ f := by
      cases doc with
      | ruleSet version rules => exact hjson.symm
      | keyed key items => exact hclash.symm
      | list items => cases hdoc
      | object => cases hdoc
      | text => cases hdoc
    simp [hne]
  | false =>
    rw [ofDocument_eq_ofLines hdoc, ofLines]
    rcases (cleanLines s).head? with _ | l
    · simp [sample]
    · cases hl : Kind.splitRule? l with
      | none => simp [hl, sample]
      | some rule => simp [hl, hclash.symm]

theorem ofSample_eq_ipText {lines : List Text} (h : ofSample lines = ipText) :
    isShare (lines.countP looksLikeNetwork) lines.length = true := by
  unfold ofSample at h
  dsimp only at h
  split at h
  · assumption
  split at h
  · cases h
  · cases h

theorem ofDocument_eq_ipText (h : ofDocument .auto doc s = ipText) :
    isShare ((sample s).countP looksLikeNetwork) (sample s).length = true :=
  ofSample_eq_ipText ((ofDocument_eq_iff (f := ipText) nofun nofun).1 h).2.2

theorem exists_line_of_mem_cleanLines (h : l ∈ cleanLines s) :
    ∃ w ∈ Text.contentLines s, Text.cleanItem w = l :=
  List.mem_map.1 (List.mem_filter.1 h).1

theorem exists_line_of_mem_sample (h : l ∈ sample s) :
    ∃ w ∈ Text.contentLines s, Text.cleanItem w = l :=
  exists_line_of_mem_cleanLines (List.mem_of_mem_take h)

end Format

/-! ### Reading -/

/-- The rule that a line makes, by what is read in it. -/
def Extract.ruleOfLine? (f : Text → Option RawRule) (l : Text) : Option Rule :=
  (f l).bind fun raw => Rule.parse? raw.1 raw.2

namespace Bucket

variable {f : Text → Option RawRule}

theorem mem_ofRaw_filterMap {lines : List Text} :
    r ∈ ofRaw (lines.filterMap f) ↔ ∃ l ∈ lines, Extract.ruleOfLine? f l = some r := by
  simp only [mem_ofRaw, List.mem_filterMap, Extract.ruleOfLine?, Option.bind_eq_some_iff]
  constructor
  · rintro ⟨raw, ⟨l, hl, hraw⟩, hr⟩
    exact ⟨l, hl, raw, hraw, hr⟩
  · rintro ⟨l, hl, raw, hraw, hr⟩
    exact ⟨raw, ⟨l, hl, hraw⟩, hr⟩

/-- The rules of a list are those that its content lines make. -/
theorem mem_ofRaw_lines : r ∈ ofRaw (((Text.contentLines s).map Text.cleanItem).filterMap f) ↔
    ∃ l ∈ Text.contentLines s, Extract.ruleOfLine? f (Text.cleanItem l) = some r := by
  rw [mem_ofRaw_filterMap]
  constructor
  · rintro ⟨_, hmem, hr⟩
    obtain ⟨l, hl, rfl⟩ := List.mem_map.1 hmem
    exact ⟨l, hl, hr⟩
  · rintro ⟨l, hl, hr⟩
    exact ⟨_, List.mem_map_of_mem hl, hr⟩

theorem isEmpty_eq_false {b : Bucket} (h : r ∈ b) : b.isEmpty = false :=
  List.isEmpty_eq_false_iff.2 (List.ne_nil_of_mem h)

end Bucket

namespace Extract

theorem networkRule?_of_looksLikeNetwork (h : Format.looksLikeNetwork l = true) :
    ∃ n, Network.parseSlash? l = some n ∧ networkRule? l = some (Rule.kindOf n.family, l) := by
  obtain ⟨n, hn⟩ := Option.isSome_iff_exists.1 (Bool.and_eq_true_iff.1 h).2
  have hcomma : l.contains ',' = false := by
    simpa using Network.no_comma_of_parseSlash? hn
  refine ⟨n, hn, ?_⟩
  rw [networkRule?, networkOfLine?, hcomma, if_neg (by decide)]
  dsimp only
  rw [Network.parse?_of_parseSlash? hn]
  rfl

theorem isCidr_kindOf (f : Family) : (Rule.kindOf f).isCidr = true := by cases f <;> rfl

/-- A content line that looks like a network gives the rule of that network. -/
theorem mem_extract_of_looksLikeNetwork (hl : l ∈ Text.contentLines s)
    (h : Format.looksLikeNetwork (Text.cleanItem l) = true) :
    ∃ n, Network.parseSlash? (Text.cleanItem l) = some n ∧ Rule.ofNetwork n ∈ extract .ipText s := by
  obtain ⟨n, hn, hrule⟩ := networkRule?_of_looksLikeNetwork h
  refine ⟨n, hn, Bucket.mem_ofRaw_lines.2 ⟨l, hl, ?_⟩⟩
  simp only [ruleOfLine?, hrule, Option.bind_some]
  rw [Rule.parse?_network (isCidr_kindOf n.family), Network.parse?_of_parseSlash? hn]
  rfl

/-- An address list gives rules of networks only. -/
theorem exists_network_of_mem_extract (h : r ∈ extract .ipText s) : ∃ n, r = Rule.ofNetwork n := by
  obtain ⟨l, -, hl⟩ := Bucket.mem_ofRaw_lines.1 h
  obtain ⟨raw, hl, hr⟩ := Option.bind_eq_some_iff.1 hl
  unfold networkRule? at hl
  split at hl
  · obtain ⟨n, -, rfl⟩ := Option.map_eq_some_iff.1 hl
    rw [Rule.parse?_network (isCidr_kindOf n.family)] at hr
    obtain ⟨n', -, rfl⟩ := Option.map_eq_some_iff.1 hr
    exact ⟨n', rfl⟩
  · cases hl

end Extract

/-- A text that is recognised as an address list has its networks read.  At least three of its first
fifty lines look like networks and at least sixty in a hundred, every line that looks like one gives its
truncated network, as it is written, under the kind of its family, and nothing but networks is
read. -/
theorem recognised_networks_are_read {s : Text} (h : Format.detect .auto s = .ipText) :
    (let sample := (Format.cleanLines s).take 50
      let hits := sample.countP Format.looksLikeNetwork
      3 ≤ hits ∧ 60 * sample.length ≤ 100 * hits) ∧
    (∀ l ∈ Text.contentLines s, Format.looksLikeNetwork (Text.cleanItem l) = true →
      ∃ n, Network.parseSlash? (Text.cleanItem l) = some n ∧
        n.truncate.toText ∈ (extract .ipText s).values (Rule.kindOf n.family)) ∧
    (extract .ipText s).isEmpty = false ∧
    ∀ r ∈ extract .ipText s, r.kind = .ipCidr ∨ r.kind = .ipCidr6 := by
  have hshare := Format.isShare_iff.1 (Format.ofDocument_eq_ipText h)
  refine ⟨hshare, fun l hl hnetwork => ?_, ?_, fun r hr => ?_⟩
  · obtain ⟨n, hn, hmem⟩ := Extract.mem_extract_of_looksLikeNetwork hl hnetwork
    exact ⟨n, hn, Bucket.mem_values.2 hmem⟩
  · -- Three lines look like networks, so one does.
    have hpos : 0 < (Format.sample s).countP Format.looksLikeNetwork :=
      Nat.lt_of_lt_of_le (by decide) hshare.1
    obtain ⟨_, hsample, hnetwork⟩ := List.countP_pos_iff.1 hpos
    obtain ⟨l, hl, rfl⟩ := Format.exists_line_of_mem_sample hsample
    obtain ⟨n, -, hmem⟩ := Extract.mem_extract_of_looksLikeNetwork hl hnetwork
    exact List.isEmpty_eq_false_iff.2 (List.ne_nil_of_mem hmem)
  · obtain ⟨n, rfl⟩ := Extract.exists_network_of_mem_extract hr
    show Rule.kindOf n.family = .ipCidr ∨ Rule.kindOf n.family = .ipCidr6
    cases n.family with
    | v4 => exact .inl rfl
    | v6 => exact .inr rfl

/-- A rule line of no known type, a marker and quotes, with host bits to be cleared. -/
theorem quoted_networks_are_read :
    let s := "GEOIP,CN\n- 10.1.2.3/8\n'2001:db8::1/32'\n8.8.8.0/24".toList
    let l := "'2001:db8::1/32'".toList
    Format.detect .auto s = .ipText ∧ l ∈ Text.contentLines s ∧
      Format.looksLikeNetwork (Text.cleanItem l) = true ∧
      ∃ n, Network.parseSlash? (Text.cleanItem l) = some n ∧
        n.truncate.toText ∈ (extract .ipText s).values (Rule.kindOf n.family) := by
  intro s l
  have hdetect : Format.detect .auto s = .ipText := by decide +kernel
  have hl : l ∈ Text.contentLines s := by decide
  have hnetwork : Format.looksLikeNetwork (Text.cleanItem l) = true := by decide
  exact ⟨hdetect, hl, hnetwork, (recognised_networks_are_read hdetect).2.1 l hl hnetwork⟩

end RuleSets
