import RuleSets.Proofs.Text.Split
import RuleSets.Proofs.Text.Trim
import RuleSets.Text.Line

/-!
# Content lines of joined texts

The content lines of two texts with a line break between them are those of one and then those of the
other (`contentLines_append`), and a content line has itself as its one content line
(`contentLines_of_mem`).  A byte order mark is dropped only where a text begins, so the text behind
the line break, or the line by itself, must not begin with one.
-/

namespace RuleSets.Text

variable {s t l : Text}

/-! ### The byte order mark -/

theorem dropMark_eq_self (h : s.head? ≠ some '\ufeff') : dropMark s = s := by
  unfold dropMark
  split
  · exact absurd rfl h
  · rfl

theorem dropMark_append_newline (s t : Text) :
    dropMark (s ++ '\n' :: t) = dropMark s ++ '\n' :: t := by
  by_cases hs : s.head? = some '\ufeff'
  · obtain ⟨s, rfl⟩ := List.head?_eq_some_iff.1 hs
    rfl
  · rw [dropMark_eq_self hs, dropMark_eq_self]
    cases s with
    | nil => simp
    | cons c s => simpa using hs

theorem head?_append_ne {c : Char} (hs : s.head? ≠ some c) (ht : t.head? ≠ some c) :
    (s ++ t).head? ≠ some c := by
  cases s with
  | nil => exact ht
  | cons d s => exact hs

theorem mem_of_mem_dropMark {c : Char} (h : c ∈ dropMark s) : c ∈ s := by
  unfold dropMark at h
  split at h
  · exact List.mem_cons_of_mem _ h
  · exact h

/-! ### Content lines -/

theorem contentLines_mark (h : s.head? ≠ some '\ufeff') :
    contentLines ('\ufeff' :: s) = contentLines s := by
  rw [contentLines, contentLines, dropMark_eq_self h]
  rfl

theorem contentLines_append (s : Text) (ht : t.head? ≠ some '\ufeff') :
    contentLines (s ++ '\n' :: t) = contentLines s ++ contentLines t := by
  rw [contentLines, dropMark_append_newline, splitBy_append_cons _ _ _ rfl, List.map_append,
    List.filter_append, contentLines, contentLines, dropMark_eq_self ht]

theorem head?_joinWith_ne {ls : List Text} (hmark : ∀ l ∈ ls.head?, l.head? ≠ some '\ufeff') :
    (joinWith ['\n'] ls).head? ≠ some '\ufeff' := by
  cases ls with
  | nil => nofun
  | cons l ls =>
    rw [joinWith_cons]
    refine head?_append_ne (hmark l rfl) ?_
    cases ls <;> simp

/-- Lines that are joined to a text are its lines. -/
theorem contentLines_joinWith {ls : List Text} (hls : ∀ l ∈ ls, '\n' ∉ l)
    (hmark : ∀ l ∈ ls.head?, l.head? ≠ some '\ufeff') :
    contentLines (joinWith ['\n'] ls) = (ls.map trim).filter isContent := by
  cases ls with
  | nil => rfl
  | cons l ls =>
    have hsplit : splitBy (· == '\n') (joinWith ['\n'] (l :: ls)) = l :: ls := by
      refine splitBy_joinWith rfl (fun w hw c hc => ?_) (List.cons_ne_nil l ls)
      exact beq_eq_false_iff_ne.2 fun he => hls w hw (he ▸ hc)
    rw [contentLines, dropMark_eq_self (head?_joinWith_ne hmark), hsplit]

theorem mem_contentLines : l ∈ contentLines s ↔
    ∃ w ∈ splitBy (· == '\n') (dropMark s), trim w = l ∧ isContent l = true := by
  simp only [contentLines, List.mem_filter, List.mem_map]
  constructor
  · rintro ⟨⟨w, hw, rfl⟩, hl⟩
    exact ⟨w, hw, rfl, hl⟩
  · rintro ⟨w, hw, rfl, hl⟩
    exact ⟨⟨w, hw, rfl⟩, hl⟩

theorem mem_of_mem_contentLines {c : Char} (hl : l ∈ contentLines s) (hc : c ∈ l) : c ∈ s := by
  obtain ⟨w, hw, rfl, -⟩ := mem_contentLines.1 hl
  exact mem_of_mem_dropMark (mem_of_mem_splitBy hw c (mem_of_mem_trim hc))

theorem contentLines_of_mem (hl : l ∈ contentLines s) (hmark : l.head? ≠ some '\ufeff') :
    contentLines l = [l] := by
  obtain ⟨w, hw, rfl, hcontent⟩ := mem_contentLines.1 hl
  have hline : ∀ c ∈ trim w, (c == '\n') = false := fun c hc =>
    not_of_mem_splitBy hw c (mem_of_mem_trim hc)
  rw [contentLines, dropMark_eq_self hmark, splitBy_of_none _ hline, List.map_singleton, trim_trim,
    List.filter_cons_of_pos hcontent, List.filter_nil]

/-! ### Cleaned lines -/

theorem cleanItem_trim (s : Text) : cleanItem (trim s) = cleanItem s := by
  rw [cleanItem, trim_trim, cleanItem]

/-- Nothing is cleaned off a line without content but the white space around it. -/
theorem cleanItem_of_not_isContent (h : isContent (trim s) = false) : cleanItem s = trim s := by
  rw [← cleanItem_trim]
  have htrim := trim_trim s
  generalize trim s = w at *
  cases w with
  | nil => rfl
  | cons c w =>
    obtain rfl : c = '#' := by simpa [isContent] using h
    have hmarkers : (trim ('#' :: w)).dropWhile (· == '-') = '#' :: w := by
      rw [htrim]
      rfl
    rw [cleanItem, hmarkers, htrim]
    simp [unwrapItem, afterPrefix?, unquoteItem]

theorem trim_unwrapItem (h : trim s = s) : trim (unwrapItem s) = unwrapItem s := by
  unfold unwrapItem
  split
  · exact trim_trim _
  · exact h

theorem trim_unquoteItem (q : Char) (h : trim s = s) : trim (unquoteItem q s) = unquoteItem q s := by
  unfold unquoteItem
  split
  · split
    · exact trim_trim _
    · exact h
  · rfl

theorem trim_cleanItem (s : Text) : trim (cleanItem s) = cleanItem s :=
  trim_unquoteItem _ (trim_unquoteItem _ (trim_unwrapItem (trim_trim _)))

end RuleSets.Text
