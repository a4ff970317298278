import RuleSets.Proofs.Source.Clash
import RuleSets.Proofs.Source.Detect

/-!
# A rule line at the start

A text that begins with a rule line is recognised as clash, whatever stands behind it, but its rules
are then read as its structure has them (`first_rule_line_is_read`).  A text without structure is read
line by line, so the first rule is read.  A list is read item by item, and a line that is no item by
itself is lost; of an object that lists nothing all lines are.
-/

namespace RuleSets

variable {s l v : Text} {k : Kind} {r : Rule} {items : List Value}

namespace Format

theorem detect_of_first_rule_line (hdoc : (Document.parse s).tellsFormat = false)
    (hfirst : (cleanLines s).head? = some l) (hl : Kind.splitRule? l = some (k, v)) :
    detect .auto s = .clash := by
  rw [detect, ofDocument_eq_ofLines hdoc]
  exact ofLines_of_head hfirst (by rw [hl]; rfl)

end Format

namespace Extract

theorem mem_extract_clash_of_text (hdoc : Document.parse s = .text) : r ∈ extract .clash s ↔
    ∃ l ∈ Text.contentLines s, ruleOfLine? Kind.splitRule? (Text.cleanItem l) = some r := by
  rw [extract, hdoc]
  exact Bucket.mem_ofRaw_lines

theorem mem_ofRaw_itemLines : r ∈ Bucket.ofRaw ((itemLines items).filterMap Kind.splitRule?) ↔
    ∃ v ∈ items, ∃ w, itemText? v = some w ∧
      ruleOfLine? Kind.splitRule? (Text.cleanItem w) = some r := by
  rw [itemLines, filterMap_splitRule?_filter, Bucket.mem_ofRaw_filterMap]
  constructor
  · rintro ⟨_, hl, hr⟩
    obtain ⟨w, hw, rfl⟩ := List.mem_map.1 hl
    obtain ⟨v, hv, hvw⟩ := List.mem_filterMap.1 hw
    exact ⟨v, hv, w, hvw, hr⟩
  · rintro ⟨v, hv, w, hvw, hr⟩
    exact ⟨_, List.mem_map_of_mem (List.mem_filterMap.2 ⟨v, hv, hvw⟩), hr⟩

theorem mem_extract_clash_of_list (hdoc : Document.parse s = .list items) : r ∈ extract .clash s ↔
    ∃ v ∈ items, ∃ w, itemText? v = some w ∧
      ruleOfLine? Kind.splitRule? (Text.cleanItem w) = some r := by
  rw [extract, hdoc]
  exact mem_ofRaw_itemLines

theorem extract_clash_of_object (hdoc : Document.parse s = .object) : extract .clash s = ∅ := by
  rw [extract, hdoc]
  rfl

end Extract

/-- A text that begins with the line of a rule, with no structure that tells another format, is
recognised as clash.  If it has no structure at all, that rule is read, so that something is.  If it
is a list, the rules of its items are read, so that the rule of the first line is read if that line is an
item, whatever markers and quotes it has.  Of an object nothing is read. -/
theorem first_rule_line_is_read {s l v : Text} {k : Kind} {r : Rule}
    (hdoc : (Document.parse s).tellsFormat = false)
    (hfirst : (Format.cleanLines s).head? = some l) (hl : Kind.splitRule? l = some (k, v))
    (hr : Rule.parse? k v = some r) :
    Format.detect .auto s = .clash ∧
    (Document.parse s = .text → r ∈ extract .clash s ∧ (extract .clash s).isEmpty = false) ∧
    (∀ items, Document.parse s = .list items →
      (∀ r', r' ∈ extract .clash s ↔ ∃ v ∈ items, ∃ w, Extract.itemText? v = some w ∧
        Extract.ruleOfLine? Kind.splitRule? (Text.cleanItem w) = some r') ∧
      ((∃ v ∈ items, ∃ w, Extract.itemText? v = some w ∧ Text.cleanItem w = l) →
        r ∈ extract .clash s)) ∧
    (Document.parse s = .object → extract .clash s = ∅) := by
  have hrule : Extract.ruleOfLine? Kind.splitRule? l = some r := by
    rw [Extract.ruleOfLine?, hl]
    exact hr
  refine ⟨Format.detect_of_first_rule_line hdoc hfirst hl, fun htext => ?_, fun items hitems => ?_,
    Extract.extract_clash_of_object⟩
  · obtain ⟨w, hw, rfl⟩ := Format.exists_line_of_mem_cleanLines (List.mem_of_mem_head? hfirst)
    have hmem := (Extract.mem_extract_clash_of_text htext).2 ⟨w, hw, hrule⟩
    exact ⟨hmem, Bucket.isEmpty_eq_false hmem⟩
  · refine ⟨fun r' => Extract.mem_extract_clash_of_list hitems, ?_⟩
    rintro ⟨v, hv, w, hvw, rfl⟩
    exact (Extract.mem_extract_clash_of_list hitems).2 ⟨v, hv, w, hvw, hrule⟩

/-- A colon at the end of the line makes it the key of an object. -/
theorem line_read_as_key_is_lost :
    let s := "DOMAIN,a.com:\n".toList
    (Document.parse s).tellsFormat = false ∧
    (Format.cleanLines s).head? = some "DOMAIN,a.com:".toList ∧
    Kind.splitRule? "DOMAIN,a.com:".toList = some (.domain, "a.com:".toList) ∧
    Rule.parse? .domain "a.com:".toList = some ⟨.domain, "a.com:".toList⟩ ∧
    (extract .clash s).isEmpty = true :=
  ⟨by decide +kernel, by decide, by decide, by decide, by decide +kernel⟩

/-- In a list, an item goes on with the line behind it, and then it is no network. -/
example : (extract .clash "- IP-CIDR,1.1.1.0/24\n  x".toList).isEmpty = true := by decide +kernel

/-- A comment, a marker and a policy, before a line that is no YAML. -/
theorem first_rule_line_before_garbage_is_read :
    let s := "# rules\n-DOMAIN,A.com,PROXY\nb: c: [".toList
    (Document.parse s).tellsFormat = false ∧
    (Format.cleanLines s).head? = some "DOMAIN,A.com,PROXY".toList ∧
    Kind.splitRule? "DOMAIN,A.com,PROXY".toList = some (.domain, "A.com".toList) ∧
    Rule.parse? .domain "A.com".toList = some ⟨.domain, "a.com".toList⟩ ∧
    Format.detect .auto s = .clash ∧ ⟨.domain, "a.com".toList⟩ ∈ extract .clash s := by
  intro s
  have hdoc : (Document.parse s).tellsFormat = false := by decide +kernel
  have hfirst : (Format.cleanLines s).head? = some "DOMAIN,A.com,PROXY".toList := by decide
  have hl : Kind.splitRule? "DOMAIN,A.com,PROXY".toList = some (.domain, "A.com".toList) := by decide
  have hr : Rule.parse? .domain "A.com".toList = some ⟨.domain, "a.com".toList⟩ := by decide
  have htext : (match Document.parse s with | .text => true | _ => false) = true := by decide +kernel
  obtain ⟨hdetect, hread, -⟩ := first_rule_line_is_read hdoc hfirst hl hr
  refine ⟨hdoc, hfirst, hl, hr, hdetect, (hread ?_).1⟩
  split at htext
  · assumption
  · cases htext

end RuleSets
