import RuleSets.Proofs.Yaml.Plain

/-!
# Literal blocks read back

The lines of a literal block are its text with two spaces before each line that is not empty; a text
that does not end in a break gets one.  The reader tells the breaks at the end of the block from the
text before them (`Tail`), and the indicators at its head say which of them belong to the string
(`readBlockScalar?_literal`).
-/

namespace RuleSets.Yaml

variable {c : Char} {s t r : Text} {pos : Position} {last : Option Char} {trailing : Text}
  {blank fresh : Bool}

/-! ### Steps of the reader -/

theorem readBlock?_line_break (hc : isPrintable c = true) (hb : isBreak c = true) :
    readBlock? true 2 (.line blank) pos (c :: s) =
      readBlock? true 2 (.indentation (some c) [] blank) (pos.newline 1) s := by
  rw [readBlock?, if_pos hb, foldBreak_of_isPrintable hc hb]
  exact fun _ h => absurd h (ne_return_of_isPrintable hc)

theorem readBlock?_line_char (hc : isPrintable c = true) (hb : isBreak c = false) :
    readBlock? true 2 (.line blank) pos (c :: s) =
      (readBlock? true 2 (.line blank) (pos.right 1) s).map
        fun r => { r with text := c :: r.text } := by
  rw [readBlock?, if_neg (by simp [hb])]
  exact fun _ h => absurd h (ne_return_of_isPrintable hc)

theorem readBlock?_indentation_break (hc : isPrintable c = true) (hb : isBreak c = true) :
    readBlock? true 2 (.indentation last trailing blank) pos (c :: s) =
      readBlock? true 2 (.indentation last (trailing ++ [c]) blank) (pos.newline 1) s := by
  have hspace : c ≠ ' ' := by
    rintro rfl
    exact absurd hb (by decide)
  rw [readBlock?, if_neg (by simp [hspace]), if_neg (by simp [ne_tab_of_isPrintable hc]),
    if_pos hb, foldBreak_of_isPrintable hc hb]
  exact fun _ h => absurd h (ne_return_of_isPrintable hc)

theorem readBlock?_indent (hcol : pos.column = 0) :
    readBlock? true 2 (.indentation last trailing blank) pos (' ' :: ' ' :: s) =
      readBlock? true 2 (.indentation last trailing blank) ((pos.right 1).right 1) s := by
  rw [readBlock?, if_pos (by simp [hcol]), readBlock?, if_pos (by simp [Position.right, hcol])]
  · exact fun _ h => absurd h (by decide)
  · exact fun _ h => absurd h (by decide)

theorem readBlock?_indentation_char (hc : isPrintable c = true) (hb : isBreak c = false)
    (hcol : pos.column = 2) :
    readBlock? true 2 (.indentation last trailing blank) pos (c :: s) =
      (readBlock? true 2 (.line (isSpace c)) (pos.right 1) s).map
        fun r => { r with text := last.toList ++ trailing ++ c :: r.text } := by
  rw [readBlock?, if_neg (by simp [hcol]), if_neg (by simp [hcol]), if_neg (by simp [hb]),
    if_pos (by simp [hcol])]
  · rfl
  · exact fun _ h => absurd h (ne_return_of_isPrintable hc)

theorem readBlock?_end (hr : StartsItem r) (hcol : pos.column = 0) :
    readBlock? true 2 (.indentation last trailing blank) pos r =
      some ⟨[], last, trailing, pos, r⟩ := by
  rcases hr with rfl | ⟨q, rfl⟩
  · rw [readBlock?]
  · rw [readBlock?, if_neg (by simp), if_neg (by simp), if_neg (by decide),
      if_neg (by simp [hcol])]
    exact fun _ h => absurd h (by decide)

/-! ### The lines of a block -/

/-- A text is a row of breaks behind something that is empty or ends otherwise. -/
structure Tail (text breaks : Text) : Prop where
  breaks : ∀ c ∈ breaks, isBreak c = true
  text : ∀ c ∈ text.getLast?, isBreak c = false

namespace Tail

theorem cons_of_not_break (hb : isBreak c = false) (h : Tail t s) : Tail (c :: t) s := by
  refine ⟨h.breaks, fun d hd => ?_⟩
  cases t with
  | nil => cases hd; exact hb
  | cons e t => rw [List.getLast?_cons_cons] at hd; exact h.text d hd

theorem append (h : Tail t s) (hne : t ≠ []) (p : Text) : Tail (p ++ t) s := by
  refine ⟨h.breaks, fun c hc => h.text c ?_⟩
  have hd := List.getLast?_eq_some_getLast hne
  rw [List.getLast?_append, hd] at hc
  rwa [hd]

/-- The text is what is left when the breaks at the end are taken off. -/
theorem text_eq (h : Tail t s) : ((t ++ s).reverse.dropWhile isBreak).reverse = t := by
  have hstop : t.reverse.dropWhile isBreak = t.reverse := by
    cases ht : t.reverse with
    | nil => rfl
    | cons c l =>
      have hc : t.getLast? = some c := by rw [← List.head?_reverse, ht]; rfl
      rw [List.dropWhile_cons_of_neg (by rw [h.text c hc]; decide)]
  rw [List.reverse_append, List.dropWhile_append_of_pos, hstop, List.reverse_reverse]
  exact fun c hc => h.breaks c (List.mem_reverse.1 hc)

/-- The breaks at the end of a text are determined by it. -/
theorem unique {t' s' : Text} (h : Tail t s) (h' : Tail t' s') (heq : t ++ s = t' ++ s') :
    t = t' ∧ s = s' := by
  have ht : t = t' := by rw [← h.text_eq, heq, h'.text_eq]
  subst ht
  exact ⟨rfl, List.append_cancel_left heq⟩

end Tail

/-- What the reader of a block has found: a text and the breaks after it, up to what follows the
block.  Breaks are told apart by the one that ends the last line. -/
structure Reads (r whole : Text) (b : BlockRead) : Prop where
  whole : b.text ++ (b.last.toList ++ b.trailing) = whole
  tail : Tail b.text (b.last.toList ++ b.trailing)
  last : b.last = none → b.text = []
  column : b.pos.column = 0
  rest : b.rest = r

/-- Text before what a reader has found is a part of it, if a line stands after it. -/
theorem Reads.char {b : BlockRead} (h : Reads r s b) (hlast : b.last.isSome = true)
    (hb : isBreak c = false) (p : Text) :
    Reads r (p ++ c :: s) { b with text := p ++ c :: b.text } where
  whole := by
    rw [← h.whole]
    exact List.append_assoc ..
  tail := (h.tail.cons_of_not_break hb).append (by simp) p
  last hnone := by
    rw [show b.last = none from hnone] at hlast
    cases hlast
  column := h.column
  rest := h.rest

/-- Whether every line of a text ends in a break. -/
def EndsLines (s : Text) : Prop := s = [] ∨ ∃ c ∈ s.getLast?, isBreak c = true

theorem EndsLines.tail (h : EndsLines (c :: s)) : EndsLines s := by
  rcases h with h | ⟨d, hd, hb⟩
  · cases h
  · cases s with
    | nil => exact Or.inl rfl
    | cons e s => exact Or.inr ⟨d, by rwa [List.getLast?_cons_cons] at hd, hb⟩

theorem EndsLines.ne_nil (h : EndsLines (c :: s)) (hb : isBreak c = false) : s ≠ [] := by
  rintro rfl
  rcases h with h | ⟨d, hd, hd'⟩
  · cases h
  · rw [List.getLast?_singleton, Option.mem_some_iff] at hd
    rw [← hd, hb] at hd'
    cases hd'

theorem literalBody_break (hb : isBreak c = true) :
    literalBody fresh (c :: s) = c :: literalBody true s := by
  rw [literalBody, if_pos hb]

theorem literalBody_char (hb : isBreak c = false) :
    literalBody fresh (c :: s) = (if fresh then [' ', ' '] else []) ++ c :: literalBody false s := by
  rw [literalBody, if_neg (by simp [hb])]

theorem literalBody_indent (hb : isBreak c = false) :
    literalBody true (c :: s) ++ r = ' ' :: ' ' :: c :: (literalBody false s ++ r) := by
  rw [literalBody_char hb]
  rfl

/-- The lines of a literal block are read back, from within a line and from the start of one. -/
theorem readBlock?_literalBody (hprint : ∀ c ∈ s, isPrintable c = true) (hends : EndsLines s)
    (hr : StartsItem r) :
    (∀ blank pos, s ≠ [] → ∃ b, Reads r s b ∧ b.last.isSome = true ∧
      readBlock? true 2 (.line blank) pos (literalBody false s ++ r) = some b) ∧
    (∀ last trailing blank pos, pos.column = 0 → (∀ c ∈ last.toList ++ trailing, isBreak c = true) →
      ∃ b, Reads r (last.toList ++ trailing ++ s) b ∧ (last.isSome = true → b.last.isSome = true) ∧
        readBlock? true 2 (.indentation last trailing blank) pos (literalBody true s ++ r) =
          some b) := by
  -- a reader at the start of a line holds breaks back, and gives them out before the next character
  induction s with
  | nil =>
    refine ⟨fun _ _ h => absurd rfl h, fun last trailing blank pos hcol hbreaks => ?_⟩
    refine ⟨⟨[], last, trailing, pos, r⟩, ⟨?_, ⟨hbreaks, by simp⟩, fun _ => rfl, hcol, rfl⟩, id, ?_⟩
    · simp
    · exact readBlock?_end hr hcol
  | cons c s ih =>
    have hc := hprint c (by simp)
    obtain ⟨ihline, ihstart⟩ :=
      ih (fun d hd => hprint d (List.mem_cons_of_mem _ hd)) hends.tail
    cases hb : isBreak c with
    | true =>
      constructor
      · intro blank pos _
        obtain ⟨b, hreads, hsome, h⟩ := ihstart (some c) [] blank (pos.newline 1) rfl
          (by simpa using hb)
        refine ⟨b, by simpa using hreads, hsome rfl, ?_⟩
        rw [literalBody_break hb, List.cons_append, readBlock?_line_break hc hb, h]
      · intro last trailing blank pos hcol hbreaks
        have hbreaks' : ∀ d ∈ last.toList ++ (trailing ++ [c]), isBreak d = true := by
          intro d hd
          rw [← List.append_assoc] at hd
          rcases List.mem_append.1 hd with hd | hd
          · exact hbreaks d hd
          · rw [List.mem_singleton.1 hd]; exact hb
        obtain ⟨b, hreads, hsome, h⟩ :=
          ihstart last (trailing ++ [c]) blank (pos.newline 1) rfl hbreaks'
        refine ⟨b, by simpa using hreads, hsome, ?_⟩
        rw [literalBody_break hb, List.cons_append, readBlock?_indentation_break hc hb, h]
    | false =>
      constructor
      · intro blank pos _
        obtain ⟨b, hreads, hsome, h⟩ := ihline blank (pos.right 1) (hends.ne_nil hb)
        refine ⟨_, hreads.char hsome hb [], hsome, ?_⟩
        rw [literalBody_char hb, if_neg (by decide), List.nil_append, List.cons_append,
          readBlock?_line_char hc hb, h]
        rfl
      · intro last trailing blank pos hcol _
        obtain ⟨b, hreads, hsome, h⟩ :=
          ihline (isSpace c) (((pos.right 1).right 1).right 1) (hends.ne_nil hb)
        refine ⟨_, hreads.char hsome hb (last.toList ++ trailing), fun _ => hsome, ?_⟩
        rw [literalBody_indent hb, readBlock?_indent hcol,
          readBlock?_indentation_char hc hb (by simp [Position.right, hcol]), h]
        rfl

/-! ### The indentation before the first line -/

/-- Reading the indentation first makes no difference, if its depth is given. -/
theorem readIndentation?_given (hprint : ∀ c ∈ s, isPrintable c = true) (hr : StartsItem r)
    (deepest : Nat) (pos : Position) (hcol : pos.column = 0) (trailing : Text) :
    ∃ breaks deepest' pos' rest,
      readIndentation? (some 2) deepest pos (literalBody true s ++ r) =
        some (breaks, deepest', pos', rest) ∧
      readBlock? true 2 (.indentation none trailing false) pos (literalBody true s ++ r) =
        readBlock? true 2 (.indentation none (trailing ++ breaks) false) pos' rest := by
  induction s generalizing deepest pos trailing with
  | nil =>
    refine ⟨[], max deepest pos.column, pos, r, ?_, by rw [List.append_nil]; rfl⟩
    rcases hr with rfl | ⟨q, rfl⟩
    · rfl
    · show readIndentation? (some 2) deepest pos ('-' :: q) = _
      rw [readIndentation?, if_neg (by simp), if_neg (by simp), if_neg (by decide)]
      exact fun _ h => absurd h (by decide)
  | cons c s ih =>
    have hc := hprint c (by simp)
    have hreturn : ∀ l, c = '\r' → literalBody true s ++ r = '\n' :: l → False :=
      fun _ h => absurd h (ne_return_of_isPrintable hc)
    cases hb : isBreak c with
    | true =>
      have hspace : c ≠ ' ' := by
        rintro rfl
        exact absurd hb (by decide)
      obtain ⟨breaks, deepest', pos', rest, h, hblock⟩ :=
        ih (fun d hd => hprint d (List.mem_cons_of_mem _ hd)) (max deepest pos.column)
          (pos.newline 1) rfl (trailing ++ [c])
      refine ⟨c :: breaks, deepest', pos', rest, ?_, ?_⟩
      · rw [literalBody_break hb, List.cons_append, readIndentation?, if_neg (by simp [hspace]),
          if_neg (by simp [ne_tab_of_isPrintable hc]), if_pos hb, h,
          foldBreak_of_isPrintable hc hb]
        · rfl
        · exact hreturn
      · rw [literalBody_break hb, List.cons_append, readBlock?_indentation_break hc hb, hblock,
          List.append_assoc]
        rfl
    | false =>
      refine ⟨[], max deepest 2, (pos.right 1).right 1, c :: (literalBody false s ++ r), ?_, ?_⟩
      · rw [literalBody_indent hb, readIndentation?, if_pos (by simp [hcol]), readIndentation?,
          if_pos (by simp [Position.right, hcol]), readIndentation?,
          if_neg (by simp [Position.right, hcol]), if_neg (by simp [Position.right, hcol]),
          if_neg (by simp [hb])]
        · simp [Position.right, hcol]
        · exact fun _ h => absurd h (ne_return_of_isPrintable hc)
        · exact fun _ h => absurd h (by decide)
        · exact fun _ h => absurd h (by decide)
      · rw [literalBody_indent hb, readBlock?_indent hcol, List.append_nil]

/-- The depth of the indentation shows where the first line begins with neither a space nor
a break. -/
theorem readIndentation?_shown (hc : isPrintable c = true) (hb : isBreak c = false) (hs : c ≠ ' ')
    (hcol : pos.column = 0) :
    readIndentation? none 0 pos (literalBody true (c :: s) ++ r) =
      some ([], 2, (pos.right 1).right 1, c :: (literalBody false s ++ r)) := by
  rw [literalBody_indent hb, readIndentation?, if_pos (by simp), readIndentation?, if_pos (by simp),
    readIndentation?, if_neg (by simp [hs]), if_neg (by simp [ne_tab_of_isPrintable hc]),
    if_neg (by simp [hb])]
  · simp [Position.right, hcol]
  · exact fun _ h => absurd h (ne_return_of_isPrintable hc)
  · exact fun _ h => absurd h (by decide)
  · exact fun _ h => absurd h (by decide)

/-! ### The head of a block -/

namespace Chomping

/-- How a chomping is written at the head of a block. -/
def indicator : Chomping → Text
  | strip => ['-']
  | clip => []
  | keep => ['+']

/-- The breaks at the end of a block that belong to its string. -/
def kept (k : Chomping) (b : BlockRead) : Text :=
  match k with
  | strip => []
  | clip => b.last.toList
  | keep => b.last.toList ++ b.trailing

/-- The chomping of a block for a text that is given from its end: it tells whether the text ends in
no break, in one behind a line, or in more. -/
def ofEnd : Text → Chomping
  | [] => strip
  | [c] => if isBreak c then keep else strip
  | c :: d :: _ => if !isBreak c then strip else if isBreak d then keep else clip

end Chomping

/-- Whether the indentation of a block has to be given at its head. -/
def isHinted (s : Text) : Bool := s.head?.any fun c => c == ' ' || isBreak c

/-- The break that a block adds behind a text that ends in none. -/
def closing (s : Text) : Text := if s.getLast?.any isBreak then [] else ['\n']

theorem readHeader?_indicator (pos : Position) (hinted : Bool) (k : Chomping) (s : Text) : ∃ pos',
    readHeader? pos ((if hinted then ['2'] else []) ++ k.indicator ++ '\n' :: s) =
      some (k, if hinted then 2 else 0, pos', '\n' :: s) := by
  cases hinted <;> cases k <;> exact ⟨_, rfl⟩

theorem literalHints_eq (s : Text) : literalHints s =
    (if isHinted s then ['2'] else []) ++ (Chomping.ofEnd s.reverse).indicator := by
  rw [literalHints]
  refine congrArg ((if isHinted s then ['2'] else []) ++ ·) ?_
  rcases s.reverse with _ | ⟨c, _ | ⟨d, l⟩⟩
  · rfl
  · cases hb : isBreak c <;> simp [Chomping.ofEnd, Chomping.indicator, hb]
  · cases hb : isBreak c <;> cases hd : isBreak d <;>
      simp [Chomping.ofEnd, Chomping.indicator, hb, hd]

/-- What is kept of the breaks at the end of a block are just those that its text ends in. -/
theorem text_kept {b : BlockRead} (hne : s ≠ []) (h : Reads r (s ++ closing s) b) :
    b.text ++ (Chomping.ofEnd s.reverse).kept b = s := by
  have hwhole := h.whole
  have hs : s = s.reverse.reverse := (List.reverse_reverse s).symm
  rcases hr : s.reverse with _ | ⟨c, l⟩
  · exact absurd (List.reverse_eq_nil_iff.1 hr) hne
  rw [hr, List.reverse_cons] at hs
  cases hb : isBreak c with
  | false =>
    have hk : Chomping.ofEnd (c :: l) = .strip := by cases l <;> simp [Chomping.ofEnd, hb]
    have hclosing : closing s = ['\n'] := by simp [closing, hs, hb]
    have htail : Tail s ['\n'] := ⟨by simp [isBreak], by simpa [hs] using hb⟩
    rw [hclosing] at hwhole
    rw [hk, (h.tail.unique htail hwhole).1]
    exact List.append_nil s
  | true =>
    have hclosing : closing s = [] := by simp [closing, hs, hb]
    rw [hclosing, List.append_nil] at hwhole
    rcases l with _ | ⟨d, l⟩
    · rw [Chomping.ofEnd, if_pos hb]
      exact hwhole
    · cases hd : isBreak d with
      | true =>
        rw [Chomping.ofEnd, if_neg (by simp [hb]), if_pos hd]
        exact hwhole
      | false =>
        rw [Chomping.ofEnd, if_neg (by simp [hb]), if_neg (by simp [hd])]
        -- the text ends in one break, so it is the one that ends the last line
        have htail : Tail (d :: l).reverse [c] := ⟨by simpa using hb, by simpa using hd⟩
        rw [hs] at hwhole
        obtain ⟨htext, hbreaks⟩ := h.tail.unique htail hwhole
        cases hlast : b.last with
        | none =>
          rw [h.last hlast] at htext
          simp at htext
        | some e =>
          rw [hlast, Option.toList_some, List.singleton_append, List.cons.injEq] at hbreaks
          rw [Chomping.kept, htext, hlast, hs, hbreaks.1]
          rfl

theorem literalBody_append_feed :
    literalBody fresh (s ++ ['\n']) = literalBody fresh s ++ ['\n'] := by
  induction s generalizing fresh with
  | nil => rfl
  | cons c s ih =>
    rw [List.cons_append, literalBody, literalBody]
    split
    · rw [ih, List.cons_append]
    · rw [ih, List.append_assoc, List.cons_append]

theorem literalBody_closing :
    literalBody true (s ++ closing s) = literalBody true s ++ closing s := by
  unfold closing
  split
  · rw [List.append_nil, List.append_nil]
  · exact literalBody_append_feed

theorem endsLines_closing : EndsLines (s ++ closing s) := by
  unfold closing
  split
  · rename_i h
    obtain ⟨c, hc, hb⟩ := (Option.any_eq_true _ _).1 h
    exact .inr ⟨c, by rwa [List.append_nil], hb⟩
  · exact .inr ⟨'\n', by simp, rfl⟩

theorem readLineEnd?_feed : readLineEnd? false pos ('\n' :: s) = some (pos.newline 1, s) := by
  rw [readLineEnd?]
  · rfl
  · exact fun _ h => absurd h (by decide)

/-- A string that may be written as a literal block is read back from it. -/
theorem readBlockScalar?_literal (hs : allowsLiteral s = true) (hr : StartsItem r)
    (pos : Position) :
    ∃ pos', pos'.column = 0 ∧ readBlockScalar? true 0 pos
      (literalHints s ++ '\n' :: (literalBody true s ++ closing s ++ r)) =
        some ⟨s, false, pos', r⟩ := by
  simp only [allowsLiteral, Bool.and_eq_true, List.all_eq_true, Bool.not_eq_true',
    List.isEmpty_eq_false_iff] at hs
  obtain ⟨⟨⟨hne, hprint⟩, -⟩, -⟩ := hs
  have hhints := literalHints_eq s
  have hk (b : BlockRead) (h : Reads r (s ++ closing s) b) := text_kept hne h
  generalize Chomping.ofEnd s.reverse = k at hhints hk
  obtain ⟨q, hheader⟩ :=
    readHeader?_indicator pos (isHinted s) k (literalBody true s ++ closing s ++ r)
  have hprint' : ∀ c ∈ s ++ closing s, isPrintable c = true := by
    intro c hc
    rcases List.mem_append.1 hc with hc | hc
    · exact hprint c hc
    · unfold closing at hc
      split at hc
      · cases hc
      · rw [List.mem_singleton.1 hc]; decide
  -- whether or not it is given, the indentation is two, and the lines follow it
  obtain ⟨breaks, deepest, q', rest, hindent, hdepth, hblock⟩ : ∃ breaks deepest q' rest,
      readIndentation? (if isHinted s then some 2 else none) 0 (q.newline 1)
        (literalBody true s ++ closing s ++ r) = some (breaks, deepest, q', rest) ∧
      (isHinted s = false → deepest = 2) ∧
      readBlock? true 2 (.indentation none [] false) (q.newline 1)
        (literalBody true s ++ closing s ++ r) =
          readBlock? true 2 (.indentation none breaks false) q' rest := by
    rw [← literalBody_closing]
    cases hhinted : isHinted s with
    | true =>
      obtain ⟨breaks, deepest, q', rest, h, hblock⟩ :=
        readIndentation?_given hprint' hr 0 (q.newline 1) rfl []
      exact ⟨breaks, deepest, q', rest, h, by simp, hblock⟩
    | false =>
      obtain ⟨c, l, rfl⟩ := List.exists_cons_of_ne_nil hne
      simp only [isHinted, List.head?_cons, Option.any_some, Bool.or_eq_false_iff,
        beq_eq_false_iff_ne] at hhinted
      have hc := hprint c (by simp)
      refine ⟨[], 2, _, _, readIndentation?_shown hc hhinted.2 hhinted.1 rfl, fun _ => rfl, ?_⟩
      rw [List.cons_append, literalBody_indent hhinted.2, readBlock?_indent rfl]
      rfl
  obtain ⟨b, hreads, -, hb⟩ := (readBlock?_literalBody hprint' endsLines_closing hr).2
    none [] false (q.newline 1) rfl (by simp)
  rw [literalBody_closing, hblock] at hb
  refine ⟨b.pos, hreads.column, ?_⟩
  have hgiven : (if (if isHinted s = true then 2 else 0) = 0 then none
      else some ((max (0 : Int) 0).toNat + if isHinted s = true then 2 else 0)) =
        if isHinted s = true then some 2 else none := by
    cases isHinted s <;> rfl
  have hdeep : (if isHinted s = true then some 2 else none : Option Nat).getD
      (max (max deepest ((0 : Int) + 1).toNat) 1) = 2 := by
    cases hhinted : isHinted s with
    | true => rfl
    | false => rw [hdepth hhinted]; rfl
  rw [readBlockScalar?, hhints, hheader]
  simp only [bind, Option.bind, readLineEnd?_feed]
  rw [hgiven, hindent]
  simp only [hdeep, hb]
  have htext := hk b hreads
  cases k <;> simp only [Chomping.kept] at htext <;> simp only [htext, hreads.rest]

end RuleSets.Yaml
