import Mathlib.Tactic.Ring
import RuleSets.Data.Yaml.Printer
import RuleSets.Data.Yaml.Scalar

/-!
# Quoted strings read back

What is written between quotes is read back as it was, up to the closing quote.  Between double
quotes any string may stand (`readQuoted?_double`); between single quotes a string without line
feeds whose breaks have no space next to them (`readQuoted?_single`).  While a string is read, what
was read last may still be pending: spaces, or breaks with the indentation after them (`Pending`).
-/

namespace RuleSets.Yaml

variable {c : Char} {s r p : Text} {pos : Position} {gap : Option Gap} {single broken : Bool}

/-! ### Characters -/

theorem isReadable_of_isPrintable (h : isPrintable c = true) : isReadable c = true := by
  simp only [isPrintable, isReadable, Bool.or_eq_true, Bool.and_eq_true, decide_eq_true_eq,
    beq_iff_eq, bne_iff_ne, ne_eq] at h ⊢
  omega

theorem ne_tab_of_isPrintable (h : isPrintable c = true) : c ≠ '\t' := by
  rintro rfl
  exact absurd h (by decide)

theorem ne_return_of_isPrintable (h : isPrintable c = true) : c ≠ '\r' := by
  rintro rfl
  exact absurd h (by decide)

/-- A break that is written as it is keeps its identity. -/
theorem foldBreak_of_isPrintable (h : isPrintable c = true) (hb : isBreak c = true) :
    foldBreak c = c := by
  simp only [isBreak, Bool.or_eq_true, beq_iff_eq] at hb
  rcases hb with (((rfl | rfl) | rfl) | rfl) | rfl
  · exact absurd h (by decide)
  · decide
  · exact absurd h (by decide)
  · decide
  · decide

theorem isSpace_of_isPrintable (h : isPrintable c = true) (hc : c ≠ ' ') : isSpace c = false := by
  simp [isSpace, hc, ne_tab_of_isPrintable h]

theorem atMarker_of_ne {m : Char} (h : c ≠ m) : atMarker m (c :: s) = false := by
  unfold atMarker
  split
  · rename_i heq; cases heq; simp [h]
  · rfl

theorem atMarker_of_second {m d : Char} (h : d ≠ m) : atMarker m (c :: d :: s) = false := by
  unfold atMarker
  split
  · rename_i heq; cases heq; simp [h]
  · rfl

/-- Only hyphens and periods begin a document marker. -/
theorem atDocumentMarker_cons (hd : c ≠ '-') (hp : c ≠ '.') :
    atDocumentMarker (c :: s) = false := by
  rw [atDocumentMarker, atMarker_of_ne hd, atMarker_of_ne hp, Bool.or_self]

/-! ### Steps of the reader -/

theorem readQuoted?_break (hb : isBreak c = true) (hr : c ≠ '\r') :
    readQuoted? single gap pos (c :: s) =
      readQuoted? single (some ((gap.getD .empty).addBreak c)) (pos.newline 1) s := by
  rw [readQuoted?.eq_def]
  split
  · rename_i h; cases h
  · rename_i h; cases h; exact absurd rfl hr
  · rename_i h; cases h; rw [if_pos hb]

theorem readQuoted?_space :
    readQuoted? single gap pos (' ' :: s) =
      readQuoted? single (some ((gap.getD .empty).addBlank ' ')) (pos.right 1) s := by
  rw [readQuoted?.eq_def]
  rfl

/-- What stands before a character that is none of a gap becomes part of the text. -/
theorem readQuoted?_char (hb : isBreak c = false) (hs : isSpace c = false) (hcol : 0 < pos.column)
    (hquote : (if single then c == '\'' else c == '"' || c == '\\') = false) :
    readQuoted? single gap pos (c :: s) =
      (readQuoted? single none (pos.right 1) s).map
        (ScalarRead.cons ((gap.getD .empty).text ++ [c])) := by
  have hcol' : (pos.column == 0) = false := beq_eq_false_iff_ne.2 (by omega)
  rw [readQuoted?.eq_def]
  split
  · rename_i h; cases h
  · rename_i h; cases h; exact absurd hb (by decide)
  · rename_i h; cases h
    cases single <;> simp_all

theorem readQuoted?_apostrophe :
    readQuoted? true gap pos ('\'' :: '\'' :: s) =
      (readQuoted? true none (pos.right 2) s).map
        (ScalarRead.cons ((gap.getD .empty).text ++ ['\''])) := by
  rw [readQuoted?.eq_def]
  have hm : atDocumentMarker ('\'' :: '\'' :: s) = false :=
    atDocumentMarker_cons (by decide) (by decide)
  simp [hm, isBreak, isSpace]

theorem readQuoted?_close_single (hr : r.head? ≠ some '\'') :
    readQuoted? true gap pos ('\'' :: r) =
      some ⟨(gap.getD .empty).text, false, pos.right 1, r⟩ := by
  rw [readQuoted?.eq_def]
  have hm : atDocumentMarker ('\'' :: r) = false := atDocumentMarker_cons (by decide) (by decide)
  simp [hm, isBreak, isSpace, hr]

theorem readQuoted?_close_double :
    readQuoted? false gap pos ('"' :: r) =
      some ⟨(gap.getD .empty).text, false, pos.right 1, r⟩ := by
  rw [readQuoted?.eq_def]
  have hm : atDocumentMarker ('"' :: r) = false := atDocumentMarker_cons (by decide) (by decide)
  simp [hm, isBreak, isSpace]

theorem readQuoted?_escape {pos' : Position} (h : readEscape? pos s = some (some c, pos', r)) :
    readQuoted? false gap pos ('\\' :: s) =
      (readQuoted? false none pos' r).map (ScalarRead.cons ((gap.getD .empty).text ++ [c])) := by
  have hm : atDocumentMarker ('\\' :: s) = false := atDocumentMarker_cons (by decide) (by decide)
  rw [readQuoted?.eq_def]
  split
  · rename_i h'; cases h'
  · rename_i h'; cases h'
  · rename_i h'; cases h'
    rw [if_neg (by decide), if_neg (by decide), hm, Bool.and_false, if_neg (by decide)]
    rw [if_neg (by decide), if_neg (by decide), if_pos (by decide)]
    split
    · rename_i h'; rw [h] at h'; cases h'
    · rename_i h'; rw [h] at h'; cases h'
    · rename_i h'; rw [h] at h'; cases h'; rfl

/-! ### Single quotes -/

/-- What stands in a gap that is being read, and whether a line was broken in it. -/
inductive Pending : Bool → Option Gap → Text → Prop where
  | nothing : Pending false none []
  | spaces (p : Text) : Pending false (some (.blanks p)) p
  | breaks (c : Char) (more : Text) (hc : c ≠ '\n') :
    Pending true (some (.lines (some c) more)) (c :: more)

namespace Pending

theorem text (h : Pending broken gap p) : (gap.getD .empty).text = p := by
  cases h with
  | nothing => rfl
  | spaces p => rfl
  | breaks c more hc =>
    show Gap.text (.lines (some c) more) = c :: more
    unfold Gap.text
    split <;> simp_all

theorem readQuoted?_indent (h : Pending true gap p) :
    readQuoted? single gap pos (' ' :: ' ' :: s) =
      readQuoted? single gap ((pos.right 1).right 1) s := by
  cases h
  rw [readQuoted?_space, readQuoted?_space]
  rfl

theorem addBlank (h : Pending false gap p) :
    Pending false (some ((gap.getD .empty).addBlank ' ')) (p ++ [' ']) := by
  cases h with
  | nothing => exact .spaces [' ']
  | spaces p => exact .spaces (p ++ [' '])

theorem addBreak (h : Pending broken gap p) (hc : isPrintable c = true) (hb : isBreak c = true)
    (hfeed : c ≠ '\n') (hgap : gap.isSome = true → broken = true) :
    Pending true (some ((gap.getD .empty).addBreak c)) (p ++ [c]) := by
  have hfold := foldBreak_of_isPrintable hc hb
  cases h with
  | nothing => simpa [Gap.empty, Gap.addBreak, hfold] using Pending.breaks c [] hfeed
  | spaces p => cases hgap rfl
  | breaks d more hd =>
    simpa [Gap.addBreak, hfold] using Pending.breaks d (more ++ [c]) hd

/-- The indentation that the emitter puts before a character behind a break is passed over. -/
theorem exists_indented (h : Pending broken gap p) (hcol : broken = false → 0 < pos.column)
    (single : Bool) :
    ∃ q : Position, 0 < q.column ∧ ∀ t,
      readQuoted? single gap pos ((if broken then [' ', ' '] else []) ++ t) =
        readQuoted? single gap q t := by
  cases broken with
  | false => exact ⟨pos, hcol rfl, fun t => rfl⟩
  | true =>
    refine ⟨(pos.right 1).right 1, ?_, fun t => h.readQuoted?_indent⟩
    simp only [Position.right]
    omega

end Pending

theorem hasPair_tail {p q : Char → Bool} (h : hasPair p q (c :: s) = false) :
    hasPair p q s = false := by
  cases s with
  | nil => rfl
  | cons d s => rw [hasPair, Bool.or_eq_false_iff] at h; exact h.2

theorem hasPair_head {p q : Char → Bool} {d : Char} (h : hasPair p q (c :: d :: s) = false)
    (hc : p c = true) : q d = false := by
  rw [hasPair, Bool.or_eq_false_iff, Bool.and_eq_false_iff] at h
  rcases h.1 with h | h
  · rw [hc] at h; cases h
  · exact h

/-- Whether a text may be a part of a string between single quotes: it has no line feed, and no
space next to a break. -/
structure Spaced (s : Text) : Prop where
  printable : ∀ c ∈ s, isPrintable c = true
  feedless : '\n' ∉ s
  space_break : hasSpaceBreak s = false
  break_space : hasBreakSpace s = false

theorem Spaced.tail (h : Spaced (c :: s)) : Spaced s where
  printable d hd := h.printable d (List.mem_cons_of_mem _ hd)
  feedless hd := h.feedless (List.mem_cons_of_mem _ hd)
  space_break := hasPair_tail h.space_break
  break_space := hasPair_tail h.break_space

theorem singleBody_break (hc : c ≠ ' ') (hb : isBreak c = true) (hfeed : c ≠ '\n') :
    singleBody broken (c :: s) = c :: singleBody true s := by
  rw [singleBody, if_neg (by simpa using hc), if_pos hb, if_neg (by simp [hfeed])]
  rfl

theorem singleBody_char (hc : c ≠ ' ') (hb : isBreak c = false) :
    singleBody broken (c :: s) = (if broken then [' ', ' '] else []) ++
      ((if c == '\'' then ['\''] else []) ++ c :: singleBody false s) := by
  rw [singleBody, if_neg (by simpa using hc), if_neg (by simp [hb]), List.append_assoc]

/-- The inside of single quotes is read back behind what is pending, which must be no space before
a break and no break before a space. -/
theorem readQuoted?_singleBody (hs : Spaced s) (hp : Pending broken gap p)
    (hcol : broken = false → 0 < pos.column)
    (hbreak : broken = true → s.head? ≠ some ' ')
    (hspace : gap.isSome = true → broken = false → ∀ c ∈ s.head?, isBreak c = false)
    (hr : r.head? ≠ some '\'') :
    ∃ pos', readQuoted? true gap pos (singleBody broken s ++ '\'' :: r) =
      some ⟨p ++ s, false, pos', r⟩ := by
  induction s generalizing broken gap p pos with
  | nil =>
    obtain ⟨q, -, hindent⟩ := hp.exists_indented hcol true
    refine ⟨q.right 1, ?_⟩
    rw [singleBody, hindent, readQuoted?_close_single hr, hp.text, List.append_nil]
  | cons c s ih =>
    have hprint := hs.printable c (by simp)
    have hfeed : c ≠ '\n' := fun h => hs.feedless (h ▸ List.mem_cons_self ..)
    by_cases hc : c = ' '
    · -- a space waits for what follows
      subst hc
      have hnext : ∀ d ∈ s.head?, isBreak d = false := by
        intro d hd
        cases s with
        | nil => cases hd
        | cons e s => cases hd; exact hasPair_head hs.space_break rfl
      have hbroken : broken = false := by
        cases broken with
        | false => rfl
        | true => exact absurd rfl (hbreak rfl)
      subst hbroken
      have hcol : 0 < (pos.right 1).column := by simp [Position.right]
      obtain ⟨pos', h⟩ := ih hs.tail hp.addBlank (fun _ => hcol) (by simp) (fun _ _ => hnext)
      refine ⟨pos', ?_⟩
      show readQuoted? true gap pos (' ' :: (singleBody false s ++ '\'' :: r)) = _
      rw [readQuoted?_space, h, List.append_assoc]
      rfl
    · by_cases hb : isBreak c = true
      · -- so does a break, behind which no space may stand
        have hgap : gap.isSome = true → broken = true := by
          intro hgap
          cases hbroken : broken with
          | true => rfl
          | false => rw [hspace hgap hbroken c rfl] at hb; cases hb
        have hnext : s.head? ≠ some ' ' := by
          cases s with
          | nil => simp
          | cons d s =>
            have := hasPair_head hs.break_space hb
            simpa using this
        have hcol : true = false → 0 < (pos.newline 1).column := by simp
        obtain ⟨pos', h⟩ :=
          ih hs.tail (hp.addBreak hprint hb hfeed hgap) hcol (fun _ => hnext) (by simp)
        refine ⟨pos', ?_⟩
        rw [singleBody_break hc hb hfeed, List.cons_append,
          readQuoted?_break hb (ne_return_of_isPrintable hprint), h, List.append_assoc]
        rfl
      · -- any other character ends what was pending
        rw [Bool.not_eq_true] at hb
        have hblank := isSpace_of_isPrintable hprint hc
        obtain ⟨q, hq, hindent⟩ := hp.exists_indented hcol true
        rw [singleBody_char hc hb, List.append_assoc, List.append_assoc, hindent]
        have hnext (n : Nat) : ∃ pos', readQuoted? true none (q.right n)
            (singleBody false s ++ '\'' :: r) = some ⟨s, false, pos', r⟩ := by
          refine ih hs.tail .nothing (fun _ => ?_) (by simp) (by simp)
          simp only [Position.right]
          omega
        by_cases hquote : c = '\''
        · subst hquote
          obtain ⟨pos', h⟩ := hnext 2
          refine ⟨pos', ?_⟩
          show readQuoted? true gap q ('\'' :: '\'' :: (singleBody false s ++ '\'' :: r)) = _
          rw [readQuoted?_apostrophe, h, hp.text]
          simp [ScalarRead.cons]
        · obtain ⟨pos', h⟩ := hnext 1
          refine ⟨pos', ?_⟩
          rw [if_neg (by simpa using hquote), List.nil_append, List.cons_append,
            readQuoted?_char hb hblank hq (by simpa using hquote), h, hp.text]
          simp [ScalarRead.cons]

theorem readQuoted?_single (hs : allowsSingle s = true) (hn : '\n' ∉ s) (hcol : 0 < pos.column)
    (hr : r.head? ≠ some '\'') :
    ∃ pos', readQuoted? true none pos (singleBody false s ++ '\'' :: r) =
      some ⟨s, false, pos', r⟩ := by
  simp only [allowsSingle, Bool.and_eq_true, List.all_eq_true, Bool.not_eq_true'] at hs
  exact readQuoted?_singleBody ⟨hs.1.1, hn, hs.1.2, hs.2⟩ .nothing (fun _ => hcol) (by simp)
    (by simp) hr

/-! ### Double quotes -/

theorem digitValue_toUpper {n : Nat} (h : n < 16) :
    Text.digitValue n.digitChar.toUpper = n := by
  have : ∀ m : Fin 16, Text.digitValue m.val.digitChar.toUpper = m.val := by decide
  exact this ⟨n, h⟩

theorem foldl_hexDigits (width n m : Nat) :
    (hexDigits width n).foldl (fun n c => n * 16 + Text.digitValue c) m =
      m * 16 ^ width + n % 16 ^ width := by
  induction width generalizing m with
  | zero => simp [hexDigits, Nat.mod_one]
  | succ width ih =>
    have hpow : Nat.pow 16 width = 16 ^ width := rfl
    rw [hexDigits, List.foldl_cons, ih, digitValue_toUpper (Nat.mod_lt _ (by omega)), hpow,
      Nat.pow_succ, Nat.mod_mul]
    ring

theorem valueOf_hexDigits (width n : Nat) :
    Text.valueOf 16 (hexDigits width n) = n % 16 ^ width := by
  rw [Text.valueOf, foldl_hexDigits, Nat.zero_mul, Nat.zero_add]

theorem all_hexDigits (width n : Nat) : (hexDigits width n).all (Text.isDigitOf 16) = true := by
  induction width with
  | zero => rfl
  | succ width ih =>
    have hlt : n / Nat.pow 16 width % 16 < 16 := Nat.mod_lt _ (by omega)
    rw [hexDigits, List.all_cons, ih, Text.isDigitOf, digitValue_toUpper hlt, Bool.and_true]
    exact decide_eq_true hlt

theorem escapedCode?_hexDigits {width : Nat} (h : c.toNat < 16 ^ width) :
    escapedCode? (hexDigits width c.toNat) = some c := by
  have hvalid : c.toNat < 0xD800 ∨ 0xDFFF < c.toNat ∧ c.toNat ≤ 0x10FFFF := by
    have := c.valid
    simp only [UInt32.isValidChar, Nat.isValidChar] at this
    change c.toNat < _ ∨ _ < c.toNat ∧ c.toNat < _ at this
    omega
  rw [escapedCode?, valueOf_hexDigits, Nat.mod_eq_of_lt h, all_hexDigits, Char.ofNat_toNat]
  exact if_pos (by simpa using hvalid)

theorem escapeLetter?_spec {e : Char} (h : escapeLetter? c = some e) :
    escaped? e = some c ∧ isBreak e = false ∧ e ≠ 'x' ∧ e ≠ 'u' ∧ e ≠ 'U' := by
  have hc : c = Char.ofNat c.toNat := (Char.ofNat_toNat c).symm
  unfold escapeLetter? at h
  split at h
  case h_16 => cases h
  all_goals
    rename_i hn
    rw [hn] at hc
    cases h
    subst hc
    decide

theorem readEscape?_letter {e : Char} (h : escapeLetter? c = some e) :
    readEscape? pos (e :: s) = some (some c, pos.right 2, s) := by
  obtain ⟨he, hb, hx, hu, hU⟩ := escapeLetter?_spec h
  have hr : e ≠ '\r' := by
    rintro rfl
    exact absurd hb (by decide)
  rw [readEscape?.eq_def]
  split
  · rename_i h'; cases h'
  · rename_i h'; cases h'; exact absurd rfl hr
  · rename_i h'; cases h'; exact absurd rfl hx
  · rename_i h'; cases h'; exact absurd rfl hu
  · rename_i h'; cases h'; exact absurd rfl hU
  · rename_i h'; cases h'; rw [hb, he]; rfl

theorem readQuoted?_hex {mark : Char} {width : Nat}
    (hmark : (mark, width) ∈ [('x', 2), ('u', 4), ('U', 8)]) (hc : c.toNat < 16 ^ width) :
    readQuoted? false gap pos ('\\' :: mark :: hexDigits width c.toNat ++ s) =
      (readQuoted? false none (pos.right (2 + width)) s).map
        (ScalarRead.cons ((gap.getD .empty).text ++ [c])) := by
  have hread : readEscape? pos (mark :: hexDigits width c.toNat ++ s) =
      (escapedCode? (hexDigits width c.toNat)).map
        fun c => (some c, pos.right (2 + width), s) := by
    simp only [List.mem_cons, Prod.mk.injEq, List.not_mem_nil, or_false] at hmark
    rcases hmark with ⟨rfl, rfl⟩ | ⟨rfl, rfl⟩ | ⟨rfl, rfl⟩ <;> rfl
  rw [escapedCode?_hexDigits hc] at hread
  exact readQuoted?_escape hread

theorem of_doubleChar_eq_self (h : doubleChar c = [c]) :
    isPrintable c = true ∧ isBreak c = false ∧ c ≠ '"' ∧ c ≠ '\\' := by
  unfold doubleChar at h
  split at h
  · rename_i hraw
    simpa [and_assoc] using hraw
  · -- an escape is longer than one character
    exfalso
    split at h
    · cases h
    · split at h
      · cases h
      · split at h <;> cases h

/-- A character that is not written as it is between double quotes is written as an escape. -/
theorem readQuoted?_doubleChar (h : doubleChar c ≠ [c]) (gap : Option Gap) (pos : Position) :
    ∃ pos', 0 < pos'.column ∧ ∀ s, readQuoted? false gap pos (doubleChar c ++ s) =
      (readQuoted? false none pos' s).map (ScalarRead.cons ((gap.getD .empty).text ++ [c])) := by
  have hlt : c.toNat < 16 ^ 8 := by
    have := c.val.toNat_lt
    change c.toNat < _ at this
    omega
  unfold doubleChar at h ⊢
  split at h
  · exact absurd rfl h
  rename_i hraw
  rw [if_neg hraw]
  split
  · rename_i e he
    exact ⟨pos.right 2, by simp [Position.right], fun s =>
      readQuoted?_escape (readEscape?_letter he)⟩
  · split
    · exact ⟨pos.right 4, by simp [Position.right], fun s =>
        readQuoted?_hex (by simp) (by omega)⟩
    · split
      · exact ⟨pos.right 6, by simp [Position.right], fun s =>
          readQuoted?_hex (by simp) (by omega)⟩
      · exact ⟨pos.right 10, by simp [Position.right], fun s => readQuoted?_hex (by simp) hlt⟩

theorem readQuoted?_doubleBody (hp : Pending false gap p) (hcol : 0 < pos.column) :
    ∃ pos', readQuoted? false gap pos (s.flatMap doubleChar ++ '"' :: r) =
      some ⟨p ++ s, false, pos', r⟩ := by
  induction s generalizing gap p pos with
  | nil =>
    refine ⟨pos.right 1, ?_⟩
    rw [List.flatMap_nil, List.nil_append, readQuoted?_close_double, hp.text, List.append_nil]
  | cons c s ih =>
    have hcol' : 0 < (pos.right 1).column := by simp [Position.right]
    rw [List.flatMap_cons, List.append_assoc]
    by_cases hraw : doubleChar c = [c]
    · rw [hraw, List.singleton_append]
      obtain ⟨hprint, hb, hquote, hslash⟩ := of_doubleChar_eq_self hraw
      by_cases hc : c = ' '
      · subst hc
        obtain ⟨pos', h⟩ := ih hp.addBlank hcol'
        exact ⟨pos', by rw [readQuoted?_space, h, List.append_assoc]; rfl⟩
      · obtain ⟨pos', h⟩ := ih .nothing hcol'
        refine ⟨pos', ?_⟩
        rw [readQuoted?_char hb (isSpace_of_isPrintable hprint hc) hcol (by simp [hquote, hslash]),
          h, hp.text]
        simp [ScalarRead.cons]
    · obtain ⟨q, hq, hstep⟩ := readQuoted?_doubleChar hraw gap pos
      obtain ⟨pos', h⟩ := ih .nothing hq
      refine ⟨pos', ?_⟩
      rw [hstep, h, hp.text]
      simp [ScalarRead.cons]

theorem readQuoted?_double (hcol : 0 < pos.column) :
    ∃ pos', readQuoted? false none pos (s.flatMap doubleChar ++ '"' :: r) =
      some ⟨s, false, pos', r⟩ :=
  readQuoted?_doubleBody .nothing hcol

end RuleSets.Yaml
