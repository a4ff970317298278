import RuleSets.Proofs.Yaml.Quoted

/-!
# Plain strings read back

A string that is written without quotes ends where its line ends, because the next line is not
indented (`readPlain?_text`).  The only gaps inside it are spaces, which are kept.
-/

namespace RuleSets.Yaml

variable {c : Char} {s r p : Text} {pos : Position} {gap : Option Gap} {indent : Nat}

/-! ### Steps of the reader -/

theorem readPlain?_space :
    readPlain? false indent gap pos (' ' :: s) =
      readPlain? false indent (some ((gap.getD .empty).addBlank ' ')) (pos.right 1) s := by
  rw [readPlain?.eq_def]
  simp [isBreak, isSpace]

theorem readPlain?_char (hb : isBreak c = false) (hs : isSpace c = false)
    (hcol : indent ≤ pos.column) (hpos : 0 < pos.column)
    (hhash : gap.isSome = true → c ≠ '#') (hcolon : c = ':' → atGap s = false) :
    readPlain? false indent gap pos (c :: s) =
      (readPlain? false indent none (pos.right 1) s).map
        (ScalarRead.cons ((gap.getD .empty).text ++ [c])) := by
  have hcol' : decide (pos.column < indent) = false := decide_eq_false (by omega)
  have hpos' : (pos.column == 0) = false := beq_eq_false_iff_ne.2 (by omega)
  have hstop : (gap.isSome && (c == '#')) = false := by
    cases hg : gap.isSome with
    | false => rfl
    | true => simpa using hhash hg
  have hend : (c == ':' && atGap s) = false := by
    by_cases hc : c = ':'
    · rw [hcolon hc, Bool.and_false]
    · simp [hc]
  rw [readPlain?.eq_def]
  split
  · rename_i h; cases h
  · rename_i h; cases h; exact absurd hb (by decide)
  · rename_i h; cases h
    simp only [hb, hs, hcol', hpos', hend, Bool.not_false, Bool.and_false, Bool.false_and,
      Bool.or_self, Bool.false_or, hstop, Bool.false_eq_true, if_false]

/-- What may follow a line: nothing, or an item that is not indented. -/
def StartsItem (r : Text) : Prop := r = [] ∨ ∃ q, r = '-' :: q

theorem readPlain?_end (hr : StartsItem r) (hindent : 0 < indent) :
    readPlain? false indent none pos ('\n' :: r) = some ⟨[], true, pos.newline 1, r⟩ := by
  rw [readPlain?.eq_def]
  rcases hr with rfl | ⟨q, rfl⟩
  · rfl
  · have hcol : (pos.newline 1).column < indent := hindent
    show readPlain? false indent (some (.lines (some '\n') [])) (pos.newline 1) ('-' :: q) = _
    rw [readPlain?.eq_def]
    simp [isBreak, isSpace, hcol, Gap.isLines]

/-! ### Whole strings -/

theorem hasInnerIndicator_cons {before : Char} (h : hasInnerIndicator before (c :: s) = false) :
    (c = ':' → atGap s = false) ∧ (isGap before = true → c ≠ '#') ∧
      hasInnerIndicator c s = false := by
  simp only [hasInnerIndicator, Bool.or_eq_false_iff, Bool.and_eq_false_iff, beq_eq_false_iff_ne,
    ne_eq] at h
  refine ⟨fun hc => h.1.1.resolve_left (not_not.2 hc), fun hg hc => ?_, h.2⟩
  exact (h.1.2.resolve_left (not_not.2 hc)).symm.trans hg |> Bool.noConfusion

theorem atGap_append_feed (h : atGap s = false) : atGap (s ++ '\n' :: r) = false := by
  cases s with
  | nil => cases h
  | cons c s => exact h

/-- The rest of a plain string is read back behind the spaces that are pending. -/
theorem readPlain?_rest {before : Char} (hprint : ∀ c ∈ s, isPrintable c = true ∧ isBreak c = false)
    (hinner : hasInnerIndicator before s = false) (hlast : (before :: s).getLast? ≠ some ' ')
    (hp : Pending false gap p) (hbefore : gap.isSome = true → before = ' ')
    (hr : StartsItem r) (hindent : 0 < indent) (hcol : indent ≤ pos.column) :
    ∃ pos', pos'.column = 0 ∧ readPlain? false indent gap pos (s ++ '\n' :: r) =
      some ⟨p ++ s, true, pos', r⟩ := by
  induction s generalizing before gap p pos with
  | nil =>
    cases hp with
    | nothing => exact ⟨pos.newline 1, rfl, readPlain?_end hr hindent⟩
    | spaces p =>
      rw [hbefore rfl] at hlast
      exact absurd rfl hlast
  | cons c s ih =>
    obtain ⟨hc, hb⟩ := hprint c (by simp)
    obtain ⟨hcolon, hhash, hinner'⟩ := hasInnerIndicator_cons hinner
    have hprint' : ∀ d ∈ s, isPrintable d = true ∧ isBreak d = false :=
      fun d hd => hprint d (List.mem_cons_of_mem _ hd)
    have hlast' : (c :: s).getLast? ≠ some ' ' := by
      rwa [List.getLast?_cons_cons] at hlast
    have hcol' : indent ≤ (pos.right 1).column := by
      simp only [Position.right]
      omega
    by_cases hspace : c = ' '
    · subst hspace
      have hp' : Pending false (some ((gap.getD .empty).addBlank ' ')) (p ++ [' ']) := by
        cases hp with
        | nothing => exact .spaces [' ']
        | spaces p => exact .spaces (p ++ [' '])
      obtain ⟨pos', h0, h⟩ := ih hprint' hinner' hlast' hp' (fun _ => rfl) hcol'
      exact ⟨pos', h0, by rw [List.cons_append, readPlain?_space, h, List.append_assoc]; rfl⟩
    · obtain ⟨pos', h0, h⟩ := ih hprint' hinner' hlast' .nothing (by simp) hcol'
      refine ⟨pos', h0, ?_⟩
      rw [List.cons_append, readPlain?_char hb (isSpace_of_isPrintable hc hspace) hcol
        (by omega) (fun hg => hhash (by rw [hbefore hg]; rfl))
        (fun hc => atGap_append_feed (hcolon hc)), h, hp.text]
      simp [ScalarRead.cons]

/-- How a string begins that may be written without quotes. -/
structure PlainStart (c : Char) (s : Text) : Prop where
  printable : ∀ d ∈ c :: s, isPrintable d = true ∧ isBreak d = false
  no_space : c ≠ ' '
  last : (c :: s).getLast? ≠ some ' '
  indicator : isIndicator c = false
  hyphen : c = '?' ∨ c = ':' ∨ c = '-' → atGap s = false
  inner : hasInnerIndicator c s = false

theorem plainStart_of_allowsPlain (h : allowsPlain (c :: s) = true) : PlainStart c s := by
  simp only [allowsPlain, hasIndicator, Bool.and_eq_true, Bool.not_eq_true', Bool.or_eq_false_iff,
    List.all_eq_true, bne_iff_ne, List.head?_cons] at h
  obtain ⟨⟨⟨hprint, hhead⟩, hlast⟩, ⟨⟨⟨-, hind⟩, hhyphen⟩, hinner⟩⟩ := h
  refine ⟨hprint, fun hc => hhead (by rw [hc]), hlast, hind, fun hc => ?_, hinner⟩
  rcases Bool.and_eq_false_iff.1 hhyphen with h | h
  · rcases hc with rfl | rfl | rfl <;> exact absurd h (by decide)
  · exact h

/-- A string that may be written without quotes is read back from the line that it ends. -/
theorem readPlain?_text (hs : allowsPlain s = true) (hne : s ≠ []) (hr : StartsItem r)
    (hindent : 0 < indent) (hcol : indent ≤ pos.column) :
    ∃ pos', pos'.column = 0 ∧ readPlain? false indent none pos (s ++ '\n' :: r) =
      some ⟨s, true, pos', r⟩ := by
  obtain ⟨c, s, rfl⟩ := List.exists_cons_of_ne_nil hne
  have hstart := plainStart_of_allowsPlain hs
  obtain ⟨hc, hb⟩ := hstart.printable c (by simp)
  have hcol' : indent ≤ (pos.right 1).column := by
    simp only [Position.right]
    omega
  obtain ⟨pos', h0, h⟩ := readPlain?_rest
    (fun d hd => hstart.printable d (List.mem_cons_of_mem _ hd)) hstart.inner hstart.last
    .nothing (by simp) hr hindent hcol'
  refine ⟨pos', h0, ?_⟩
  rw [List.cons_append, readPlain?_char hb (isSpace_of_isPrintable hc hstart.no_space) hcol
    (by omega) (by simp) (fun hc => atGap_append_feed (hstart.hyphen (.inr (.inl hc)))), h]
  rfl

end RuleSets.Yaml
