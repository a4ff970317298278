import RuleSets.Proofs.Source.RuleLine
import RuleSets.Source.Extract

/-!
# Clash rules as items and as lines

A clash source lists its rules as the items of a list or as the lines of a text, and both ways give the same
bucket (`clash_items_agree_with_lines`).  From items, what is blank or a comment is taken out after the
markers are off, from lines before; it makes no difference, since no markers are taken off a
comment and none is a rule line.
-/

namespace RuleSets

/-! ### Blank lines and comments -/

theorem Kind.splitRule?_of_not_isContent {l : Text} (h : Text.isContent l = false) :
    Kind.splitRule? l = none := by
  rw [splitRule?, Text.splitRule?_of_not_isContent h]

namespace Extract

/-- Cleaned lines without content may stay, since none of them is a rule line. -/
theorem filterMap_splitRule?_filter (ls : List Text) :
    (ls.filter Text.isContent).filterMap Kind.splitRule? = ls.filterMap Kind.splitRule? := by
  rw [List.filterMap_filter]
  congr 1
  funext l
  cases h : Text.isContent l with
  | true => rfl
  | false => exact (Kind.splitRule?_of_not_isContent h).symm

/-- So may lines that are without content before they are cleaned. -/
theorem filterMap_splitRule?_lines (ls : List Text) :
    (((ls.map Text.trim).filter Text.isContent).map Text.cleanItem).filterMap Kind.splitRule? =
      (ls.map Text.cleanItem).filterMap Kind.splitRule? := by
  simp only [List.filterMap_map, List.filterMap_filter]
  congr 1
  funext l
  simp only [Function.comp_apply, Text.cleanItem_trim]
  cases h : Text.isContent (Text.trim l) with
  | true => rfl
  | false =>
    -- A comment keeps its sign, so it is no rule line when it is cleaned either.
    rw [Text.cleanItem_of_not_isContent h, Kind.splitRule?_of_not_isContent h]
    rfl

/-! ### Items -/

/-- Whether items carry some lines, in this order: a line is an item, or the one item of a list, and
anything else may stand between. -/
inductive Carries : List Text → List Value → Prop where
  | nil : Carries [] []
  | plain {ls : List Text} {items : List Value} (l : Text) (h : Carries ls items) :
      Carries (l :: ls) (.string l :: items)
  | wrapped {ls : List Text} {items : List Value} (l : Text) (h : Carries ls items) :
      Carries (l :: ls) (.list [.string l] :: items)
  | other {ls : List Text} {items : List Value} {v : Value}
      (hv : ∀ l, v ≠ .string l ∧ v ≠ .list [.string l]) (h : Carries ls items) :
      Carries ls (v :: items)

variable {ls : List Text} {items : List Value} {v : Value}

theorem Carries.map_string (ls : List Text) : Carries ls (ls.map .string) := by
  induction ls with
  | nil => exact .nil
  | cons l ls ih => exact .plain l ih

theorem itemText?_eq_none (h : ∀ l, v ≠ .string l ∧ v ≠ .list [.string l]) : itemText? v = none := by
  unfold itemText?
  split
  · exact absurd rfl (h _).1
  · exact absurd rfl (h _).2
  · rfl

theorem Carries.filterMap_itemText? (h : Carries ls items) : items.filterMap itemText? = ls := by
  induction h with
  | nil => rfl
  | plain l _ ih => exact congrArg (l :: ·) ih
  | wrapped l _ ih => exact congrArg (l :: ·) ih
  | other hv _ ih => rw [List.filterMap_cons_none (itemText?_eq_none hv), ih]

/-- The rules of items are those of the lines that they carry. -/
theorem Carries.rules (h : Carries ls items) :
    (itemLines items).filterMap Kind.splitRule? = (ls.map Text.cleanItem).filterMap Kind.splitRule? := by
  rw [itemLines, h.filterMap_itemText?, filterMap_splitRule?_filter]

end Extract

/-- Items give the bucket of the lines that they carry, however the document lists them and whatever
its text is. -/
theorem clash_items_agree_with_lines {ls : List Text} (hls : ∀ l ∈ ls, '\n' ∉ l)
    (hmark : ∀ l ∈ ls.head?, l.head? ≠ some '\ufeff') (s : Text) (key : ListKey) (version : Int) :
    let b := extractDocument .clash .text (Text.joinWith ['\n'] ls)
    Extract.Carries ls (ls.map .string) ∧ ∀ items, Extract.Carries ls items →
      extractDocument .clash (.keyed key items) s = b ∧
      extractDocument .clash (.list items) s = b ∧
      extractDocument .clash (.ruleSet version items) s = b := by
  intro b
  refine ⟨.map_string ls, fun items h => ?_⟩
  have hraw : (Extract.itemLines items).filterMap Kind.splitRule? =
      Extract.rawRules .clash .text (Text.joinWith ['\n'] ls) := by
    show _ = ((Text.contentLines _).map Text.cleanItem).filterMap Kind.splitRule?
    rw [h.rules, Text.contentLines_joinWith hls hmark, Extract.filterMap_splitRule?_lines]
  have hbucket : Bucket.ofRaw ((Extract.itemLines items).filterMap Kind.splitRule?) = b :=
    congrArg Bucket.ofRaw hraw
  exact ⟨hbucket, hbucket, hbucket⟩

/-- Markers, quotes, wrapped items and comments, among items that carry nothing. -/
theorem marked_items_agree_with_lines :
    let ls := ["- 'DOMAIN,a.com'".toList, "-# DOMAIN,b.com".toList, " ['IP-CIDR,10.1.2.3/8']\r".toList]
    let items := [.null, .string "- 'DOMAIN,a.com'".toList, .list [.string "-# DOMAIN,b.com".toList],
      .list [.string "DOMAIN,c.com".toList, .string "DOMAIN,d.com".toList],
      .string " ['IP-CIDR,10.1.2.3/8']\r".toList]
    (∀ l ∈ ls, '\n' ∉ l) ∧ (∀ l ∈ ls.head?, l.head? ≠ some '\ufeff') ∧ Extract.Carries ls items ∧
      extractDocument .clash (.keyed .payload items) [] =
        extractDocument .clash .text (Text.joinWith ['\n'] ls) := by
  intro ls items
  have hls : ∀ l ∈ ls, '\n' ∉ l := by decide
  have hmark : ∀ l ∈ ls.head?, l.head? ≠ some '\ufeff' := by decide
  have hitems : Extract.Carries ls items := by
    refine .other (fun l => ⟨nofun, nofun⟩) (.plain _ (.wrapped _ (.other ?_ (.plain _ .nil))))
    exact fun l => ⟨nofun, nofun⟩
  exact ⟨hls, hmark, hitems, ((clash_items_agree_with_lines hls hmark [] .payload 0).2 items hitems).1⟩

end RuleSets
