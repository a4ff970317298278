import RuleSets.Text.Basic

/-!
# Pieces of a text

Splitting at separators and joining with one undo each other (`splitBy_joinWith`).  Around a
separator a text is split on each side by itself, and no piece holds a separator or anything that is not
in the text.
-/

namespace RuleSets.Text

/-! ### Splitting -/

theorem splitBy_ne_nil (p : Char → Bool) (s : Text) : splitBy p s ≠ [] := by
  cases s with
  | nil => simp [splitBy]
  | cons c s =>
    unfold splitBy
    split
    · simp
    · split <;> simp

theorem splitBy_append_cons (p : Char → Bool) (s t : Text) {c : Char} (hc : p c = true) :
    splitBy p (s ++ c :: t) = splitBy p s ++ splitBy p t := by
  induction s with
  | nil => simp [splitBy, hc]
  | cons d s ih =>
    simp only [List.cons_append, splitBy, ih]
    split
    · rfl
    · rcases hs : splitBy p s with _ | ⟨w, ws⟩
      · exact absurd hs (splitBy_ne_nil p s)
      · rfl

theorem splitBy_of_none (p : Char → Bool) {t : Text} (ht : ∀ c ∈ t, p c = false) :
    splitBy p t = [t] := by
  induction t with
  | nil => rfl
  | cons c t ih =>
    have htail := ih fun d hd => ht d (List.mem_cons_of_mem _ hd)
    simp [splitBy, ht c (List.mem_cons_self ..), htail]

theorem splitBy_append (p : Char → Bool) (s : Text) {t : Text} (ht : ∀ c ∈ t, p c = false) :
    ∃ ws w, splitBy p s = ws ++ [w] ∧ splitBy p (s ++ t) = ws ++ [w ++ t] := by
  induction s with
  | nil => exact ⟨[], [], rfl, splitBy_of_none p ht⟩
  | cons c s ih =>
    obtain ⟨ws, w, hs, hst⟩ := ih
    by_cases hc : p c = true
    · exact ⟨[] :: ws, w, by simp [splitBy, hc, hs], by simp [splitBy, hc, hst]⟩
    · cases ws with
      | nil => exact ⟨[], c :: w, by simp [splitBy, hc, hs], by simp [splitBy, hc, hst]⟩
      | cons v vs => exact ⟨(c :: v) :: vs, w, by simp [splitBy, hc, hs], by simp [splitBy, hc, hst]⟩

theorem not_of_mem_splitBy {p : Char → Bool} {s w : Text} (h : w ∈ splitBy p s) :
    ∀ c ∈ w, p c = false := by
  induction s generalizing w with
  | nil =>
    obtain rfl := List.mem_singleton.1 h
    exact fun c hc => absurd hc List.not_mem_nil
  | cons d s ih =>
    unfold splitBy at h
    split at h
    · rcases List.mem_cons.1 h with rfl | h
      · exact fun c hc => absurd hc List.not_mem_nil
      · exact ih h
    · rename_i hd
      have hd : p d = false := by simpa using hd
      split at h
      · obtain rfl := List.mem_singleton.1 h
        exact fun c hc => List.mem_singleton.1 hc ▸ hd
      · rename_i v vs hs
        rcases List.mem_cons.1 h with rfl | h
        · intro c hc
          rcases List.mem_cons.1 hc with rfl | hc
          · exact hd
          · exact ih (hs ▸ List.mem_cons_self ..) c hc
        · exact ih (hs ▸ List.mem_cons_of_mem _ h)

theorem mem_of_mem_splitBy {p : Char → Bool} {s w : Text} (h : w ∈ splitBy p s) :
    ∀ c ∈ w, c ∈ s := by
  induction s generalizing w with
  | nil =>
    obtain rfl := List.mem_singleton.1 h
    exact fun c hc => hc
  | cons d s ih =>
    obtain ⟨v, vs, hv⟩ := List.exists_cons_of_ne_nil (splitBy_ne_nil p s)
    rw [hv] at ih
    simp only [splitBy, hv] at h
    split at h
    · rcases List.mem_cons.1 h with rfl | h
      · exact fun c hc => absurd hc List.not_mem_nil
      · exact fun c hc => List.mem_cons_of_mem d (ih h c hc)
    · rcases List.mem_cons.1 h with rfl | h
      · exact List.cons_subset_cons d (ih (List.mem_cons_self ..))
      · exact fun c hc => List.mem_cons_of_mem d (ih (List.mem_cons_of_mem v h) c hc)

/-! ### Joining -/

theorem joinWith_cons (sep s : Text) (l : List Text) :
    joinWith sep (s :: l) = s ++ l.flatMap (sep ++ ·) := by
  induction l generalizing s with
  | nil => simp [joinWith]
  | cons t l ih => rw [joinWith, ih, List.flatMap_cons, List.append_assoc, List.append_assoc]

/-- Joined pieces are split where they were joined. -/
theorem splitBy_joinWith {p : Char → Bool} {c : Char} {ws : List Text} (hc : p c = true)
    (hws : ∀ w ∈ ws, ∀ d ∈ w, p d = false) (hne : ws ≠ []) :
    splitBy p (joinWith [c] ws) = ws := by
  induction ws with
  | nil => exact absurd rfl hne
  | cons w ws ih =>
    obtain ⟨hw, hws⟩ := List.forall_mem_cons.1 hws
    cases ws with
    | nil => exact splitBy_of_none p hw
    | cons v vs =>
      rw [joinWith, List.append_assoc, List.singleton_append, splitBy_append_cons p w _ hc,
        splitBy_of_none p hw, ih hws (List.cons_ne_nil v vs)]
      rfl

end RuleSets.Text
