import RuleSets.Proofs.Json.RoundTrip
import RuleSets.Source.Extract

/-!
# Objects with rules

Of an object that lists rules, a rule-set source reads these and nothing else.  But an object
without version is read by the first of the list keys that it has, and a payload comes before the
rules, so that they are not read at all.  Therefore what is read does not depend on the other keys,
except that it depends on whether the rules are hidden in this way (`rule_sets_agree_iff`).
-/

namespace RuleSets

variable {s : Text} {fields : List (Text × Value)} {rules : List Value}

/-! ### Structure -/

namespace Document

/-- Whether the rules of an object are hidden: it has no version, but a payload. -/
def hidesRules (fields : List (Text × Value)) : Bool :=
  (version? fields).isNone && (listAt? .payload fields).isSome

theorem parse_eq_ofFields (h : value? (Text.dropMark s) = some (.object fields)) :
    parse s = ofFields fields := by
  rw [parse, h]
  rfl

theorem listedRules_ofFields (h : listAt? .rules fields = some rules) :
    Extract.listedRules (ofFields fields) = if hidesRules fields then [] else rules := by
  rw [ofFields, hidesRules, h]
  cases version? fields with
  | some version => rfl
  | none =>
    cases listAt? .payload fields with
    | some items => rfl
    | none => rfl

/-- The written form of an object is a text of it. -/
theorem value?_render (h : Json.Exact Json.maxDepth (.object fields)) :
    value? (Text.dropMark (Json.render (.object fields))) = some (.object fields) := by
  have hmark : Text.dropMark (Json.render (.object fields)) = Json.render (.object fields) := by
    cases fields <;> rfl
  have hread := Json.parse?_render h (s := []) nofun
  rw [List.append_nil] at hread
  rw [hmark, value?, hread, Option.some_or]

end Document

/-! ### Rules -/

namespace Extract

/-- The rules of an object are read as those of a bare list, unless they are hidden. -/
theorem extract_of_object (hs : Document.value? (Text.dropMark s) = some (.object fields))
    (h : Document.listAt? .rules fields = some rules) : extract .singboxJson s =
      if Document.hidesRules fields then ∅ else extractDocument .singboxJson (.list rules) [] := by
  have hrules : singbox (Document.parse s) =
      (if Document.hidesRules fields then [] else rules).flatMap ruleOfValue := by
    rw [singbox, Document.parse_eq_ofFields hs, Document.listedRules_ofFields h]
  rw [extract, extractDocument, rawRules, hrules]
  split
  · rfl
  · rfl

end Extract

/-- From the text of an object that lists rules, a rule-set source reads what it reads from the bare
list of these rules, whatever the other keys are, unless the object has no version but a payload,
when it reads nothing.  So two objects with the same rules give the same bucket just when the rules
of both are hidden, or those of neither, or there is nothing to read. -/
theorem rule_sets_agree_iff {s t : Text} {fields others : List (Text × Value)} {rules : List Value}
    (hs : Document.value? (Text.dropMark s) = some (.object fields))
    (ht : Document.value? (Text.dropMark t) = some (.object others))
    (hrules : Document.listAt? .rules fields = some rules)
    (hsame : Document.listAt? .rules others = some rules) :
    let b := extractDocument .singboxJson (.list rules) []
    extract .singboxJson s = (if Document.hidesRules fields then ∅ else b) ∧
    (extract .singboxJson s = extract .singboxJson t ↔
      Document.hidesRules fields = Document.hidesRules others ∨ b = ∅) := by
  intro b
  have hread := Extract.extract_of_object hs hrules
  rw [hread, Extract.extract_of_object ht hsame]
  refine ⟨rfl, ?_⟩
  cases Document.hidesRules fields with
  | true =>
    cases Document.hidesRules others with
    | true => simp
    | false => simp [b, eq_comm]
  | false =>
    cases Document.hidesRules others with
    | true => simp [b]
    | false => simp

/-- The rules of an object with a payload are read only if it has a version. -/
theorem payload_hides_rules :
    let rules := [Value.object [("domain".toList, .string "a.com".toList)]]
    let fields := [("payload".toList, .list []), ("rules".toList, .list rules)]
    let others := ("version".toList, .int 3) :: fields
    let s := Json.render (.object fields)
    let t := Json.render (.object others)
    Document.value? (Text.dropMark s) = some (.object fields) ∧
    Document.value? (Text.dropMark t) = some (.object others) ∧
    Document.listAt? .rules fields = some rules ∧ Document.listAt? .rules others = some rules ∧
    extract .singboxJson s = ∅ ∧ ⟨.domain, "a.com".toList⟩ ∈ extract .singboxJson t := by
  intro rules fields others s t
  have hrule : ∀ v ∈ rules, Json.Exact 125 v :=
    List.forall_mem_singleton.2 (.object (by decide) (List.forall_mem_singleton.2 (.string _)))
  have hfields : ∀ f ∈ fields, Json.Exact 126 f.2 :=
    List.forall_mem_cons.2 ⟨.list nofun, List.forall_mem_singleton.2 (.list hrule)⟩
  have hothers : ∀ f ∈ others, Json.Exact 126 f.2 :=
    List.forall_mem_cons.2 ⟨.int (by decide), hfields⟩
  -- Written forms are read back, so the reader does not have to be run on the texts.
  have hs := Document.value?_render (.object (by decide) hfields)
  have ht := Document.value?_render (.object (by decide) hothers)
  refine ⟨hs, ht, rfl, rfl, ?_, ?_⟩
  · rw [Extract.extract_of_object hs rfl]
    rfl
  · rw [Extract.extract_of_object ht rfl]
    decide +kernel

/-- Neither a version that is no number nor a payload beside a version hides anything. -/
theorem other_keys_do_not_matter :
    let rules := [Value.object [("domain".toList, .string "a.com".toList)]]
    let fields := [("version".toList, .string "3".toList), ("rules".toList, .list rules)]
    let others := [("version".toList, .int 3), ("payload".toList, .list rules),
      ("rules".toList, .list rules)]
    let s := Json.render (.object fields)
    let t := Json.render (.object others)
    Document.value? (Text.dropMark s) = some (.object fields) ∧
    Document.value? (Text.dropMark t) = some (.object others) ∧
    Document.listAt? .rules fields = some rules ∧ Document.listAt? .rules others = some rules ∧
    ⟨.domain, "a.com".toList⟩ ∈ extract .singboxJson s ∧
    extract .singboxJson s = extract .singboxJson t := by
  intro rules fields others s t
  have hrules : Json.Exact 126 (.list rules) := .list (List.forall_mem_singleton.2
    (.object (by decide) (List.forall_mem_singleton.2 (.string _))))
  have hfields : ∀ f ∈ fields, Json.Exact 126 f.2 :=
    List.forall_mem_cons.2 ⟨.string _, List.forall_mem_singleton.2 hrules⟩
  have hothers : ∀ f ∈ others, Json.Exact 126 f.2 := List.forall_mem_cons.2
    ⟨.int (by decide), List.forall_mem_cons.2 ⟨hrules, List.forall_mem_singleton.2 hrules⟩⟩
  have hs := Document.value?_render (.object (by decide) hfields)
  have ht := Document.value?_render (.object (by decide) hothers)
  obtain ⟨hread, hagree⟩ := rule_sets_agree_iff hs ht rfl rfl
  refine ⟨hs, ht, rfl, rfl, ?_, hagree.2 (.inl rfl)⟩
  rw [hread]
  decide +kernel

end RuleSets
