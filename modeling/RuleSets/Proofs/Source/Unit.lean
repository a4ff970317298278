import Mathlib.Data.List.Basic
import RuleSets.Proofs.Text.Line
import RuleSets.Source.Extract

/-!
# Units of a source

A source is read unit by unit: the values that its document lists, or the content lines of its text.
The bucket of a source is the union of the buckets of its units, each read by itself, so that neither
the order of the units nor how often one is there leaves a trace (`extraction_is_union`).
-/

namespace RuleSets

/-! ### Merged buckets -/

namespace Bucket

variable {α : Type} {r : Rule} {raws raws' : List RawRule} {l l' : List α}

/-- Every rule of any of the buckets. -/
def mergeAll (bs : List Bucket) : Bucket := bs.foldl merge ∅

theorem mem_foldl_merge {bs : List Bucket} {a : Bucket} :
    r ∈ bs.foldl merge a ↔ r ∈ a ∨ ∃ b ∈ bs, r ∈ b := by
  induction bs generalizing a with
  | nil => simp
  | cons b bs ih =>
    simp only [List.foldl_cons, ih, mem_merge, or_assoc, List.mem_cons, exists_eq_or_imp]

theorem mem_mergeAll {bs : List Bucket} : r ∈ mergeAll bs ↔ ∃ b ∈ bs, r ∈ b := by
  rw [mergeAll, mem_foldl_merge]
  exact or_iff_right (OrderedSet.not_mem_empty r)

theorem ofRaw_append : ofRaw (raws ++ raws') = (ofRaw raws).merge (ofRaw raws') := by
  refine OrderedSet.ext fun r => ?_
  simp only [mem_merge, mem_ofRaw, List.mem_append, or_and_right, exists_or]

theorem mem_ofRaw_flatMap {f : α → List RawRule} :
    r ∈ ofRaw (l.flatMap f) ↔ ∃ a ∈ l, r ∈ ofRaw (f a) := by
  simp only [mem_ofRaw, List.mem_flatMap]
  constructor
  · rintro ⟨raw, ⟨a, ha, hraw⟩, hr⟩
    exact ⟨a, ha, raw, hraw, hr⟩
  · rintro ⟨a, ha, raw, hraw, hr⟩
    exact ⟨raw, ⟨a, ha, hraw⟩, hr⟩

theorem ofRaw_flatMap (f : α → List RawRule) (l : List α) :
    ofRaw (l.flatMap f) = mergeAll (l.map fun a => ofRaw (f a)) := by
  refine OrderedSet.ext fun r => ?_
  simp only [mem_ofRaw_flatMap, mem_mergeAll, List.mem_map, exists_exists_and_eq_and]

theorem ofRaw_flatMap_congr (f : α → List RawRule) (h : ∀ a, a ∈ l ↔ a ∈ l') :
    ofRaw (l.flatMap f) = ofRaw (l'.flatMap f) := by
  refine OrderedSet.ext fun r => ?_
  simp only [mem_ofRaw_flatMap, h]

end Bucket

open Bucket

/-! ### Values -/

/-- The ways in which a document lists values. -/
inductive Listing where
  | keyed (key : ListKey)
  | list
  | ruleSet (version : Int)

def Listing.document : Listing → List Value → Document
  | keyed key, items => .keyed key items
  | list, items => .list items
  | ruleSet version, items => .ruleSet version items

/-- The raw values of one of the values that a rule-set source lists; a payload has none. -/
def Listing.ruleOfValue : Listing → Value → List RawRule
  | keyed .payload, _ => []
  | _, v => Extract.ruleOfValue v

/-- Whether what is read from values is the union of what is read from each by itself. -/
structure IsUnionOfItems (g : List Value → Bucket) : Prop where
  alone : ∀ items, g items = mergeAll (items.map fun v => g [v])
  congr : ∀ items items', (∀ v, v ∈ items ↔ v ∈ items') → g items = g items'

theorem IsUnionOfItems.of_flatMap {g : List Value → Bucket} (f : Value → List RawRule)
    (h : ∀ items, g items = ofRaw (items.flatMap f)) : IsUnionOfItems g where
  alone items := by
    simp only [h, ofRaw_flatMap f items, List.flatMap_singleton]
  congr items items' hmem := by
    rw [h, h, ofRaw_flatMap_congr f hmem]

namespace Extract

theorem itemLines_append (items items' : List Value) :
    itemLines (items ++ items') = itemLines items ++ itemLines items' := by
  simp only [itemLines, List.filterMap_append, List.map_append, List.filter_append]

theorem itemLines_eq_flatMap (items : List Value) :
    itemLines items = items.flatMap fun v => itemLines [v] := by
  induction items with
  | nil => rfl
  | cons v items ih => rw [← List.singleton_append, itemLines_append, ih, List.flatMap_append,
      List.flatMap_singleton]

theorem clash_listing (l : Listing) (items : List Value) (s : Text) :
    clash (l.document items) s =
      items.flatMap fun v => (itemLines [v]).filterMap Kind.splitRule? := by
  have hlines : clashLines (l.document items) s = itemLines items := by cases l <;> rfl
  rw [clash, hlines, itemLines_eq_flatMap, List.filterMap_flatMap]

theorem singbox_listing (l : Listing) (items : List Value) :
    singbox (l.document items) = items.flatMap l.ruleOfValue := by
  cases l with
  | keyed key =>
    cases key with
    | payload => exact (List.flatMap_eq_nil_iff.2 fun _ _ => rfl).symm
    | rules => rfl
  | list | ruleSet _ => rfl

end Extract

/-! ### Lines -/

/-- Whether what is read from a text is the union of what is read from each of its content lines by
itself. -/
structure IsUnionOfLines (g : Text → Bucket) : Prop where
  alone : ∀ s, '\ufeff' ∉ s → g s = mergeAll ((Text.contentLines s).map g)
  congr : ∀ s t, (∀ l, l ∈ Text.contentLines s ↔ l ∈ Text.contentLines t) → g s = g t
  append : ∀ s t, t.head? ≠ some '\ufeff' → g (s ++ '\n' :: t) = (g s).merge (g t)

theorem IsUnionOfLines.of_filterMap {g : Text → Bucket} (f : Text → Option RawRule)
    (h : ∀ s, g s = ofRaw (((Text.contentLines s).map Text.cleanItem).filterMap f)) :
    IsUnionOfLines g := by
  have hlines (s : Text) :
      g s = ofRaw ((Text.contentLines s).flatMap fun l => (f (Text.cleanItem l)).toList) := by
    rw [h, List.filterMap_map, List.filterMap_eq_flatMap_toList]
    rfl
  refine ⟨fun s hmark => ?_, fun s t hmem => ?_, fun s t hmark => ?_⟩
  · rw [hlines, ofRaw_flatMap]
    congr 1
    refine List.map_congr_left fun l hl => ?_
    -- By itself the line is read from its start, where a mark would be dropped.
    have hl' : l.head? ≠ some '\ufeff' := fun he =>
      hmark (Text.mem_of_mem_contentLines hl (List.mem_of_mem_head? he))
    rw [hlines, Text.contentLines_of_mem hl hl', List.flatMap_singleton]
  · rw [hlines, hlines, ofRaw_flatMap_congr _ hmem]
  · rw [hlines, hlines s, hlines t, Text.contentLines_append s hmark, List.flatMap_append,
      ofRaw_append]

/-! ### All formats -/

/-- What a source gives is the union of what its units give by themselves.  The units of a clash or a
rule-set source are the values that its document lists, whichever way it does, and there are none in
a document without a list; those of a clash source without structure, of a domain list and of
an address list are its content lines. -/
theorem extraction_is_union :
    (∀ (l : Listing) (s : Text),
      IsUnionOfItems (fun items => extractDocument .clash (l.document items) s) ∧
      IsUnionOfItems fun items => extractDocument .singboxJson (l.document items) s) ∧
    (∀ s, extractDocument .clash .object s = ∅ ∧ extractDocument .singboxJson .object s = ∅ ∧
      extractDocument .singboxJson .text s = ∅) ∧
    IsUnionOfLines (extractDocument .clash .text) ∧
    IsUnionOfLines (extract .domainText) ∧
    IsUnionOfLines (extract .ipText) := by
  refine ⟨fun l s => ⟨?_, ?_⟩, fun s => ⟨rfl, rfl, rfl⟩, ?_, ?_, ?_⟩
  · exact .of_flatMap _ fun items => congrArg ofRaw (Extract.clash_listing l items s)
  · exact .of_flatMap _ fun items => congrArg ofRaw (Extract.singbox_listing l items)
  · exact .of_filterMap Kind.splitRule? fun s => rfl
  · exact .of_filterMap Extract.domainRule? fun s => rfl
  · exact .of_filterMap Extract.networkRule? fun s => rfl

/-- A mark before the first of two lists is dropped, and line ends of two characters do no harm. -/
theorem joined_lists_merge :
    extract .domainText ("\ufeffa.com\r\n# none".toList ++ '\n' :: "b.com\r".toList) =
      (extract .domainText "\ufeffa.com\r\n# none".toList).merge (extract .domainText "b.com\r".toList) :=
  extraction_is_union.2.2.2.1.append _ _ (by decide)

end RuleSets
