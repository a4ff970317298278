import RuleSets.Data.Yaml.Reader
import RuleSets.Proofs.Yaml.Scan

/-!
# Written lists read back

The tokens of a list under its key make a mapping of one entry, whose value is a sequence that is not
indented (`readNode?_listTokens`).  Its items have no tags, and a string that is written plain means a
string, so the value is the list of the strings that were written (`parse?_renderList`).
-/

namespace RuleSets.Yaml

variable {s : Text} {items : List Text} {table : TagTable} {anchors : List (Text × Nat)}
  {ts : List Token}

/-! ### Nodes -/

/-- The node of an item. -/
def itemNode (s : Text) : Node := .scalar none none (styleOf s == .plain) s

/-- The node of a list under its key. -/
def listNode (items : List Text) : Node :=
  .mapping none none
    [(.scalar none none true "payload".toList, .list none none (items.map itemNode))]

theorem readIndentless?_item (fuel : Nat) :
    readIndentless? table (fuel + 2) ⟨itemTokens s ++ ts, anchors⟩ =
      (readIndentless? table (fuel + 1) ⟨ts, anchors⟩).map
        fun (ns, st) => (itemNode s :: ns, st) :=
  rfl

theorem readNode?_indentless (fuel : Nat) :
    readNode? table (fuel + 1) true true ⟨.blockEntry :: ts, anchors⟩ =
      (readIndentless? table fuel ⟨.blockEntry :: ts, anchors⟩).map
        fun (ns, st) => (.list none none ns, st) :=
  rfl

theorem readNode?_mapping (fuel : Nat) :
    readNode? table (fuel + 1) true false ⟨.blockMappingStart :: ts, anchors⟩ =
      (readEntries? table fuel ⟨ts, anchors⟩).map fun (es, st) => (.mapping none none es, st) :=
  rfl

theorem readEntries?_entry (fuel : Nat) :
    readEntries? table (fuel + 3) ⟨.key :: .scalar true s :: .value :: .blockEntry :: ts, anchors⟩ =
      match readNode? table (fuel + 1) true true ⟨.blockEntry :: ts, anchors⟩ with
      | none => none
      | some (v, st) => (readEntries? table (fuel + 2) st).map
          fun (es, st) => ((.scalar none none true s, v) :: es, st) :=
  rfl

theorem readIndentless?_items (items : List Text) (fuel : Nat) :
    readIndentless? table (items.length + fuel + 1)
      ⟨items.flatMap itemTokens ++ .blockEnd :: ts, anchors⟩ =
        some (items.map itemNode, ⟨.blockEnd :: ts, anchors⟩) := by
  induction items with
  | nil =>
    rw [List.length_nil, Nat.zero_add]
    rfl
  | cons s items ih =>
    rw [List.flatMap_cons, List.append_assoc, List.length_cons, Nat.add_right_comm items.length 1,
      readIndentless?_item, ih]
    rfl

theorem readNode?_listTokens (hne : items ≠ []) (fuel : Nat) :
    readNode? table (items.length + fuel + 5) true false ⟨listTokens items, []⟩ =
      some (listNode items, ⟨[], []⟩) := by
  obtain ⟨ts, hts⟩ : ∃ ts, items.flatMap itemTokens ++ [.blockEnd] = .blockEntry :: ts := by
    obtain ⟨s, items, rfl⟩ := List.exists_cons_of_ne_nil hne
    exact ⟨_, rfl⟩
  have hitems : readIndentless? table (items.length + fuel + 1) ⟨.blockEntry :: ts, []⟩ =
      some (items.map itemNode, ⟨[.blockEnd], []⟩) := by
    rw [← hts, readIndentless?_items]
  rw [listTokens, List.append_assoc, hts]
  show readNode? table _ true false
    ⟨.blockMappingStart :: .key :: .scalar true _ :: .value :: .blockEntry :: ts, []⟩ = _
  rw [readNode?_mapping, readEntries?_entry, readNode?_indentless, hitems]
  rfl

/-- The tokens of a list are one document. -/
theorem ofTokens?_listTokens (hne : items ≠ []) :
    Document.ofTokens? (listTokens items) = some (some (listNode items)) := by
  obtain ⟨fuel, hfuel⟩ : ∃ fuel, 4 * (listTokens items).length + 8 = items.length + fuel + 5 := by
    have : (listTokens items).length = 2 * items.length + 5 := by
      simp [listTokens, itemTokens, List.length_flatMap, List.map_const', Nat.mul_comm]
    exact ⟨4 * (listTokens items).length + 3 - items.length, by omega⟩
  -- there are no directives and no marker before the node
  have h : Document.ofTokens? (listTokens items) =
      match (if (listTokens items).length = (listTokens items).length then
        readNode? defaultTags (4 * (listTokens items).length + 8) true false ⟨listTokens items, []⟩
        else none) with
      | none => none
      | some (n, st) =>
        if (st.tokens.dropWhile fun t => t == Token.documentEnd).isEmpty then some (some n)
        else none :=
    rfl
  rw [h, if_pos rfl, hfuel, readNode?_listTokens hne]
  rfl

/-! ### Values -/

theorem scalarValue?_item (s : Text) :
    scalarValue? none (styleOf s == .plain) s = some (.string s) := by
  cases hstyle : styleOf s with
  | plain =>
    rw [scalarValue?, (plain_of_styleOf hstyle).2]
    rfl
  | _ => rfl

theorem readValue_item (anchors : List (Nat × Node)) (depth : Nat) (s : Text) :
    readValue anchors depth (itemNode s) = pure (.string s) := by
  have h (part? : Option (Node → Reading Value)) :
      readContent anchors part? (itemNode s) = pure (.string s) := by
    rw [itemNode, readContent, scalarValue?_item]
    rfl
  cases depth with
  | zero => exact h none
  | succ depth => exact h (some (readValue anchors depth))

theorem readValue_items (anchors : List (Nat × Node)) (depth : Nat) (items : List Text) :
    readValue anchors (depth + 1) (.list none none (items.map itemNode)) =
      pure (.list (items.map .string)) := by
  have h : (items.map itemNode).mapM (readValue anchors depth) = pure (items.map .string) := by
    induction items with
    | nil => rfl
    | cons s items ih =>
      rw [List.map_cons, List.mapM_cons, readValue_item, ih]
      rfl
  show (do return Value.list (← (items.map itemNode).mapM (readValue anchors depth))) = _
  rw [h]
  rfl

theorem readValue_listNode (anchors : List (Nat × Node)) (items : List Text) :
    readValue anchors maxDepth (listNode items) =
      pure (.object [("payload".toList, .list (items.map .string))]) := by
  have hitems : readValue anchors 127 (.list none none (items.map itemNode)) =
      pure (.list (items.map .string)) := readValue_items anchors 126 items
  rw [maxDepth, listNode, readValue, dereference, pure_bind, readContent, List.mapM_cons]
  · dsimp only
    rw [hitems]
    rfl
  · exact fun _ h => by cases h

theorem parse?_renderList_nil : parse? (renderList "payload".toList []) =
    some (.object [("payload".toList, .list [])]) := by
  have hscan : Token.scan? (renderList "payload".toList []) =
      some [.blockMappingStart, .key, .scalar true "payload".toList, .value, .flowSequenceStart,
        .flowSequenceEnd, .blockEnd] := by
    decide
  rw [parse?, hscan]
  rfl

/-- Any list of strings is read back from the text that it is written as. -/
theorem parse?_renderList (items : List Text) : parse? (renderList "payload".toList items) =
    some (.object [("payload".toList, .list (items.map .string))]) := by
  by_cases hne : items = []
  · rw [hne]
    exact parse?_renderList_nil
  · rw [parse?, scan?_renderList hne, Option.bind_some, ofTokens?_listTokens hne]
    show ((readValue _ maxDepth (listNode items)).run _).map _ = _
    rw [readValue_listNode]
    rfl

end RuleSets.Yaml
