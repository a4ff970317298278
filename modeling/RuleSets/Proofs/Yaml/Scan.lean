import RuleSets.Data.Yaml.Token.Scan
import RuleSets.Proofs.Yaml.Literal

/-!
# Scanning a written list

A list under a key is scanned item by item.  Between two items the scanner stands at the start of a
line in the mapping, with no key that must follow (`Scanner.AtLine`); a hyphen and a string bring it
to the next such place and add two tokens (`AtLine.item`).  Since every character that is written
may stand in a stream (`isReadable_of_mem_itemText`), the whole stream is scanned
(`scan?_renderList`).
-/

namespace RuleSets.Yaml

variable {c : Char} {s r q : Text} {ts : List Token} {sc : Scanner}

/-! ### Styles -/

theorem plain_of_styleOf (h : styleOf s = .plain) :
    allowsPlain s = true ∧ Plain.resolve s = .string := by
  unfold styleOf at h
  split at h
  · split at h <;> cases h
  · rename_i hw
    split at h
    · rename_i hallows
      refine ⟨hallows, ?_⟩
      unfold wantedStyle at hw
      split at hw
      · cases hw
      · split at hw
        · cases hw
        · rename_i hres
          simp only [Bool.or_eq_true, bne_iff_ne, not_or, not_not] at hres
          exact hres.1
    · split at h <;> cases h
  · split at h <;> cases h

theorem single_of_styleOf (h : styleOf s = .single) : allowsSingle s = true ∧ '\n' ∉ s := by
  have hfeed : wantedStyle s ≠ .literal → '\n' ∉ s := by
    intro hw hmem
    refine hw ?_
    rw [wantedStyle, if_pos (List.contains_iff_mem.2 hmem)]
  unfold styleOf at h
  split at h
  · split at h <;> cases h
  · rename_i hw
    split at h
    · cases h
    · split at h
      · rename_i hallows
        exact ⟨hallows, hfeed (by rw [hw]; decide)⟩
      · cases h
  · rename_i hw _
    split at h
    · rename_i hallows
      exact ⟨hallows, hfeed hw⟩
    · cases h

theorem literal_of_styleOf (h : styleOf s = .literal) : allowsLiteral s = true := by
  unfold styleOf at h
  split at h
  · split at h
    · assumption
    · cases h
  · split at h
    · cases h
    · split at h <;> cases h
  · split at h <;> cases h

theorem ne_nil_of_plain (h : Plain.resolve s = .string) : s ≠ [] := by
  rintro rfl
  exact absurd h (by decide)

/-- An item, in terms of the line that ends a block. -/
theorem itemText_eq (s : Text) : itemText s = '-' :: ' ' ::
    (scalarText (styleOf s) s ++ if styleOf s = .literal then closing s else ['\n']) := by
  unfold itemText closing
  cases styleOf s <;> rfl

theorem startsItem_items (items : List Text) : StartsItem (items.flatMap itemText) := by
  cases items with
  | nil => exact .inl rfl
  | cons s items =>
    rw [List.flatMap_cons, itemText_eq]
    exact .inr ⟨_, rfl⟩

theorem length_items (items : List Text) :
    2 * items.length ≤ (items.flatMap itemText).length := by
  induction items with
  | nil => exact Nat.le_refl 0
  | cons s items ih =>
    rw [List.flatMap_cons, List.length_append, itemText_eq, List.length_cons, List.length_cons,
      List.length_cons]
    omega

def itemTokens (s : Text) : List Token := [.blockEntry, .scalar (styleOf s == .plain) s]

/-! ### Between items -/

namespace Scanner

/-- Whether the scanner is in the only block mapping, with no key that must follow, and has found
these tokens so far. -/
structure InMapping (sc : Scanner) (ts : List Token) : Prop where
  indent : sc.indent = 0
  outer : sc.outerIndents = [-1]
  flow : sc.outerKeys = []
  key : ∀ k ∈ sc.key, k.required = false
  tokens : sc.tokens = ts

/-- Whether the scanner stands at a column before a text, where a key may begin. -/
structure AtColumn (sc : Scanner) (ts : List Token) (column : Nat) (r : Text) : Prop
    extends sc.InMapping ts where
  allowed : sc.keyAllowed = true
  column : sc.pos.column = column
  rest : sc.rest = r

/-- Whether the scanner stands, gaps aside, at the start of a line. -/
structure AtLine (sc : Scanner) (ts : List Token) (r : Text) : Prop extends sc.InMapping ts where
  gap : ∃ pos, pos.column = 0 ∧ skipGap false sc.keyAllowed false sc.pos sc.rest = (true, pos, r)

/-- Keys that are not required can always be forgotten. -/
theorem dropStaleKeys?_of_free (hkey : ∀ k ∈ sc.key, k.required = false)
    (hflow : sc.outerKeys = []) : ∃ key, (∀ k ∈ key, k.required = false) ∧
      sc.dropStaleKeys? = some { sc with key := key } := by
  have hdrop : ∃ key, (∀ k ∈ key, k.required = false) ∧ dropStale? sc.pos sc.key = some key := by
    cases hk : sc.key with
    | none => exact ⟨none, by simp, rfl⟩
    | some k =>
      have hfree := hkey k hk
      cases hstale : isStale sc.pos k with
      | true => exact ⟨none, by simp, by simp [dropStale?, hstale, hfree]⟩
      | false => exact ⟨some k, by simpa using hfree, by simp [dropStale?, hstale]⟩
  obtain ⟨key, hfree, hdrop⟩ := hdrop
  refine ⟨key, hfree, ?_⟩
  simp only [dropStaleKeys?, hdrop, hflow, bind, Option.bind, List.mapM_nil, pure]

theorem dropKey?_of_free (hkey : ∀ k ∈ sc.key, k.required = false) :
    sc.dropKey? = some { sc with key := none } := by
  have hany : sc.key.any (·.required) = false := by
    cases hk : sc.key with
    | none => rfl
    | some k => exact hkey k hk
  rw [dropKey?, hany, if_neg (by decide)]

/-- No block ends where the line is indented as the innermost one or more. -/
theorem closeBlocks_of_le {column : Int} (h : sc.indent ≤ column) : sc.closeBlocks column = sc := by
  unfold closeBlocks
  split
  · rfl
  · cases hout : sc.outerIndents with
    | nil => rw [closeInner]
    | cons o os => rw [closeInner, if_neg (by omega)]

theorem openBlock_of_le {column n : Nat} {t : Token} (h : (column : Int) ≤ sc.indent) :
    sc.openBlock column n t = sc := by
  have : decide (sc.indent < (column : Int)) = false := decide_eq_false (by omega)
  rw [openBlock, this, Bool.and_false, if_neg (by decide)]

theorem InMapping.inFlow (h : sc.InMapping ts) : sc.inFlow = false := by
  simp [Scanner.inFlow, h.flow]

/-- One turn of the scanner: past a gap, it takes a token or is at the end. -/
theorem InMapping.run?_succ {pos : Position} (h : sc.InMapping ts)
    (hgap : skipGap false sc.keyAllowed false sc.pos sc.rest = (true, pos, r)) (fuel : Nat) :
    ∃ sc' : Scanner, sc'.AtColumn ts pos.column r ∧
      (r = [] → run? (fuel + 1) sc = sc'.finish?) ∧
      ∀ c s, r = c :: s → run? (fuel + 1) sc = (sc'.token? c s).bind (run? fuel) := by
  have htoken : sc.toToken = { sc with keyAllowed := true, pos := pos, rest := r } := by
    simp [toToken, h.inFlow, hgap]
  have hkey : ∀ k ∈ sc.toToken.key, k.required = false := by rw [htoken]; exact h.key
  have hflow : sc.toToken.outerKeys = [] := by rw [htoken]; exact h.flow
  obtain ⟨key, hfree, hdrop⟩ := dropStaleKeys?_of_free hkey hflow
  generalize hsc' : ({ sc.toToken with key := key } : Scanner) = sc' at hdrop
  have hcolumn : sc'.AtColumn ts pos.column r := by
    rw [← hsc', htoken]
    exact ⟨⟨h.indent, h.outer, h.flow, hfree, h.tokens⟩, rfl, rfl, rfl⟩
  have hclose : sc'.closeBlocks sc'.pos.column = sc' :=
    closeBlocks_of_le (by rw [hcolumn.indent]; omega)
  refine ⟨sc', hcolumn, ?_, ?_⟩
  · rintro rfl
    rw [run?, hdrop]
    simp only [hclose, hcolumn.rest]
  · rintro c s rfl
    rw [run?, hdrop]
    simp only [hclose, hcolumn.rest]

/-! ### One item -/

theorem AtColumn.hyphen (h : sc.AtColumn ts 0 ('-' :: ' ' :: q)) : ∃ sc',
    sc'.AtColumn (.blockEntry :: ts) 1 (' ' :: q) ∧ sc.token? '-' (' ' :: q) = some sc' := by
  have hgap : atGap (' ' :: q) = true := rfl
  have hopen : sc.openBlock sc.pos.column sc.count .blockSequenceStart = sc :=
    openBlock_of_le (by rw [h.column, h.indent]; decide)
  refine ⟨{ sc with key := none, keyAllowed := true }.push .blockEntry |>.skip 1,
    ⟨⟨h.indent, h.outer, h.flow, by simp [push, skip, goto], ?_⟩, rfl, ?_, ?_⟩, ?_⟩
  · show _ :: sc.tokens = _
    rw [h.tokens]
  · show sc.pos.column + 1 = 1
    rw [h.column]
  · show sc.rest.drop 1 = _
    rw [h.rest]
    rfl
  · have hm : atMarker '-' ('-' :: ' ' :: q) = false := atMarker_of_second (by decide)
    have hm' : atMarker '.' ('-' :: ' ' :: q) = false := atMarker_of_ne (by decide)
    rw [token?, hm, hm', hgap]
    simp [ blockEntry?, h.inFlow, h.allowed, hopen, dropKey?_of_free h.key]

theorem AtColumn.saveKey? {column : Nat} (h : sc.AtColumn ts (column + 1) r) :
    ∃ sc' : Scanner, sc'.AtColumn ts (column + 1) r ∧ sc.saveKey? = some sc' := by
  have hrequired : (!sc.inFlow && sc.indent == (sc.pos.column : Int)) = false := by
    have hne : (sc.indent == (sc.pos.column : Int)) = false := by
      rw [h.indent, h.column]
      exact beq_eq_false_iff_ne.2 (by omega)
    rw [hne, Bool.and_false]
  refine ⟨{ sc with key := some ⟨sc.count, sc.pos, false⟩ },
    ⟨⟨h.indent, h.outer, h.flow, by simp, h.tokens⟩, h.allowed, h.column, h.rest⟩, ?_⟩
  rw [Scanner.saveKey?, if_pos h.allowed, dropKey?_of_free h.key, hrequired]
  rfl

/-- A line that begins with an item, or the end, is found where it begins. -/
theorem skipGap_start {pos : Position} (hr : StartsItem r) :
    skipGap false true false pos r = (true, pos, r) := by
  rcases hr with rfl | ⟨q, rfl⟩
  · rfl
  · rw [skipGap, if_neg (by decide), if_neg (by simp), if_neg (by decide)]
    exact fun _ h => absurd h (by decide)

theorem skipGap_feed {allowed : Bool} {pos : Position} (hr : StartsItem r) :
    skipGap false allowed false pos ('\n' :: r) = (true, pos.newline 1, r) := by
  rw [skipGap, if_pos (by decide), Bool.not_false, Bool.or_true]
  · exact skipGap_start hr
  · exact fun _ h => absurd h (by decide)

/-- After a scalar the scanner is where the scalar ended. -/
theorem AtColumn.scalar {column : Nat} {allowed : Bool} {pos pos' : Position} {t : Token}
    (h : sc.AtColumn ts column q) (hcol : pos'.column = 0)
    (hgap : skipGap false allowed false pos s = (true, pos', r)) :
    ({ sc with keyAllowed := allowed }.push t |>.goto pos s).AtLine (t :: ts) r := by
  refine ⟨⟨h.indent, h.outer, h.flow, h.key, ?_⟩, pos', hcol, hgap⟩
  show _ :: sc.tokens = _
  rw [h.tokens]

theorem head?_of_not_atGap (h : atGap s = false) : s.head?.any isSpace = false := by
  cases s with
  | nil => rfl
  | cons c s =>
    rw [atGap, isGap, Bool.or_eq_false_iff] at h
    exact h.1

theorem AtColumn.plain (h : sc.AtColumn ts 2 (c :: s ++ '\n' :: r)) (hr : StartsItem r)
    (hs : styleOf (c :: s) = .plain) : ∃ sc' : Scanner,
    sc'.AtLine (.scalar true (c :: s) :: ts) r ∧ sc.token? c (s ++ '\n' :: r) = some sc' := by
  obtain ⟨hallows, -⟩ := plain_of_styleOf hs
  have hstart := plainStart_of_allowsPlain hallows
  obtain ⟨sc₁, h₁, hsave⟩ := h.saveKey?
  have hindent : 1 ≤ sc₁.pos.column := by rw [h₁.column]; decide
  obtain ⟨pos', hcol, hread⟩ := readPlain?_text hallows (by simp) hr Nat.one_pos hindent
  have hplain : sc.plain? = some ({ sc₁ with keyAllowed := true }.push (.scalar true (c :: s))
      |>.goto pos' r) := by
    rw [plain?, hsave]
    show (readPlain? sc₁.inFlow (sc₁.indent + 1).toNat none sc₁.pos sc₁.rest).bind _ = _
    rw [h₁.inFlow, h₁.indent, h₁.rest]
    show (readPlain? false 1 none sc₁.pos (c :: s ++ '\n' :: r)).bind _ = _
    rw [hread]
    rfl
  -- no indicator begins a plain string but `?`, `:` and `-`, and those only with no gap after them
  have hne (d : Char) (hd : isIndicator d = true) : c ≠ d := by
    rintro rfl
    rw [hstart.indicator] at hd
    cases hd
  have hgap (hc : c = '?' ∨ c = ':' ∨ c = '-') : atGap (s ++ '\n' :: r) = false :=
    atGap_append_feed (hstart.hyphen hc)
  have hstarts : startsPlain false c (s ++ '\n' :: r) = true := by
    obtain ⟨hprint, hb⟩ := hstart.printable c (by simp)
    unfold startsPlain
    split
    · rename_i hc
      rw [head?_of_not_atGap (hgap (.inr (.inr (beq_iff_eq.1 hc))))]
      rfl
    · split
      · rename_i hc
        rw [Bool.or_eq_true, beq_iff_eq, beq_iff_eq] at hc
        rw [hgap (hc.imp_right .inl)]
        rfl
      · simp [isGap, hb, isSpace_of_isPrintable hprint hstart.no_space, hstart.indicator]
  refine ⟨_, h₁.scalar hcol (skipGap_start hr), ?_⟩
  rw [← hplain, token?]
  simp only [h.column, h.inFlow, hstarts]
  simp [hne '[' rfl, hne '\x7b' rfl, hne ']' rfl, hne '\x7d' rfl, hne ',' rfl, hne '*' rfl,
    hne '&' rfl, hne '!' rfl, hne '|' rfl, hne '>' rfl, hne '\'' rfl, hne '"' rfl]
  have hnot (hc : c = '?' ∨ c = ':' ∨ c = '-') : ¬ atGap (s ++ '\n' :: r) = true := by
    rw [hgap hc]
    decide
  rw [if_neg (fun ⟨hc, hg⟩ => hnot (.inr (.inr hc)) hg),
    if_neg (fun ⟨hc, hg⟩ => hnot (.inl hc) hg), if_neg (fun ⟨hc, hg⟩ => hnot (.inr (.inl hc)) hg)]

theorem AtColumn.quoted (single : Bool) (h : sc.AtColumn ts 2 ((if single then '\'' else '"') :: q))
    (hr : StartsItem r) (hread : ∀ pos : Position, 0 < pos.column → ∃ pos',
      readQuoted? single none pos q = some ⟨s, false, pos', '\n' :: r⟩) : ∃ sc' : Scanner,
    sc'.AtLine (.scalar false s :: ts) r ∧
      sc.token? (if single then '\'' else '"') q = some sc' := by
  obtain ⟨sc₁, h₁, hsave⟩ := h.saveKey?
  obtain ⟨pos', hread⟩ := hread (sc₁.pos.right 1) (by simp [Position.right])
  have hquoted : sc.quoted? single = some ({ sc₁ with keyAllowed := false }.push (.scalar false s)
      |>.goto pos' ('\n' :: r)) := by
    rw [quoted?, hsave]
    show (readQuoted? single none (sc₁.pos.right 1) (sc₁.rest.drop 1)).bind _ = _
    rw [h₁.rest, List.drop_succ_cons, List.drop_zero, hread]
    rfl
  refine ⟨{ sc₁ with keyAllowed := false }.push (.scalar false s) |>.goto pos' ('\n' :: r),
    h₁.scalar rfl (skipGap_feed hr), ?_⟩
  rw [← hquoted]
  cases single <;> simp [token?, h.column]

theorem AtColumn.literal (h : sc.AtColumn ts 2
      ('|' :: (literalHints s ++ '\n' :: (literalBody true s ++ closing s ++ r))))
    (hr : StartsItem r) (hs : allowsLiteral s = true) : ∃ sc' : Scanner,
    sc'.AtLine (.scalar false s :: ts) r ∧
      sc.token? '|' (literalHints s ++ '\n' :: (literalBody true s ++ closing s ++ r)) =
        some sc' := by
  obtain ⟨pos', hcol, hread⟩ := readBlockScalar?_literal hs hr (sc.pos.right 1)
  have hkey : AtColumn { sc with key := none } ts 2 _ :=
    ⟨⟨h.indent, h.outer, h.flow, by simp, h.tokens⟩, h.allowed, h.column, h.rest⟩
  have hblock : sc.blockScalar? true = some ({ sc with key := none, keyAllowed := true }.push
      (.scalar false s) |>.goto pos' r) := by
    rw [blockScalar?, dropKey?_of_free h.key]
    show (readBlockScalar? true sc.indent (sc.pos.right 1) (sc.rest.drop 1)).bind _ = _
    rw [h.indent, h.rest, List.drop_succ_cons, List.drop_zero, hread]
    rfl
  refine ⟨_, hkey.scalar hcol (skipGap_start hr), ?_⟩
  rw [hblock.symm]
  simp [token?, h.column, h.inFlow]

theorem skipGap_blank {pos : Position} (hc : isGap c = false) (hhash : c ≠ '#') :
    skipGap false true false pos (' ' :: c :: s) = (true, pos.right 1, c :: s) := by
  rw [isGap, isSpace, Bool.or_eq_false_iff, Bool.or_eq_false_iff] at hc
  obtain ⟨⟨hspace, -⟩, hb⟩ := hc
  rw [skipGap, if_neg (by decide), if_pos (by simp), skipGap, if_neg (by simp [hb]),
    if_neg (by simpa [Position.right] using hspace), if_neg (by simpa using hhash)]
  · rintro _ rfl
    exact absurd hb (by decide)
  · exact fun _ h => absurd h (by decide)

/-- What stands behind the hyphen of an item begins with no gap and is taken as one token. -/
theorem exists_scalar (s : Text) (hr : StartsItem r) : ∃ c q,
    scalarText (styleOf s) s ++ (if styleOf s = .literal then closing s else ['\n']) ++ r = c :: q ∧
    isGap c = false ∧ c ≠ '#' ∧ ∀ ts (sc : Scanner), sc.AtColumn ts 2 (c :: q) → ∃ sc' : Scanner,
      sc'.AtLine (.scalar (styleOf s == .plain) s :: ts) r ∧ sc.token? c q = some sc' := by
  cases hstyle : styleOf s with
  | plain =>
    obtain ⟨hallows, hres⟩ := plain_of_styleOf hstyle
    obtain ⟨c, l, rfl⟩ := List.exists_cons_of_ne_nil (ne_nil_of_plain hres)
    have hstart := plainStart_of_allowsPlain hallows
    obtain ⟨hprint, hb⟩ := hstart.printable c (by simp)
    refine ⟨c, l ++ '\n' :: r, by simp [scalarText], ?_, ?_, fun ts sc h => h.plain hr hstyle⟩
    · simp [isGap, hb, isSpace_of_isPrintable hprint hstart.no_space]
    · rintro rfl
      exact absurd hstart.indicator (by decide)
  | single =>
    obtain ⟨hallows, hfeed⟩ := single_of_styleOf hstyle
    exact ⟨'\'', singleBody false s ++ '\'' :: '\n' :: r, by simp [scalarText], by decide, by decide,
      fun ts sc h => AtColumn.quoted true h hr fun pos hcol =>
        readQuoted?_single hallows hfeed hcol (by simp)⟩
  | double =>
    exact ⟨'"', s.flatMap doubleChar ++ '"' :: '\n' :: r, by simp [scalarText], by decide, by decide,
      fun ts sc h => AtColumn.quoted false h hr fun pos hcol =>
        readQuoted?_double hcol⟩
  | literal =>
    exact ⟨'|', literalHints s ++ '\n' :: (literalBody true s ++ closing s ++ r),
      by simp [scalarText], by decide, by decide,
      fun ts sc h => h.literal hr (literal_of_styleOf hstyle)⟩

/-- An item is a hyphen and a string, and then a line begins. -/
theorem AtLine.item (h : sc.AtLine ts (itemText s ++ r)) (hr : StartsItem r) (fuel : Nat) :
    ∃ sc' : Scanner, sc'.AtLine (.scalar (styleOf s == .plain) s :: .blockEntry :: ts) r ∧
      run? (fuel + 2) sc = run? fuel sc' := by
  obtain ⟨c, q, hq, hc, hhash, htoken⟩ := exists_scalar s hr
  have hitem : itemText s ++ r = '-' :: ' ' :: c :: q := by
    rw [itemText_eq, List.cons_append, List.cons_append, hq]
  rw [hitem] at h
  -- one turn of the scanner takes the hyphen and the next one the string
  obtain ⟨pos, hcol, hgap⟩ := h.gap
  obtain ⟨sc₁, h₁, -, hrun₁⟩ := h.toInMapping.run?_succ hgap (fuel + 1)
  rw [hcol] at h₁
  obtain ⟨sc₂, h₂, hhyphen⟩ := h₁.hyphen
  have hblank : skipGap false sc₂.keyAllowed false sc₂.pos sc₂.rest =
      (true, sc₂.pos.right 1, c :: q) := by
    rw [h₂.allowed, h₂.rest, skipGap_blank hc hhash]
  obtain ⟨sc₃, h₃, -, hrun₂⟩ := h₂.toInMapping.run?_succ hblank fuel
  have h₃ : sc₃.AtColumn (.blockEntry :: ts) 2 (c :: q) := by
    simpa [Position.right, h₂.column] using h₃
  obtain ⟨sc₄, h₄, hscalar⟩ := htoken _ sc₃ h₃
  refine ⟨sc₄, h₄, ?_⟩
  rw [hrun₁ _ _ rfl, hhyphen, Option.bind_some, hrun₂ _ _ rfl, hscalar, Option.bind_some]

/-! ### All items -/

theorem AtLine.items {items : List Text} (h : sc.AtLine ts (items.flatMap itemText)) (fuel : Nat) :
    ∃ sc' : Scanner, sc'.AtLine ((items.flatMap itemTokens).reverse ++ ts) [] ∧
      run? (fuel + 2 * items.length) sc = run? fuel sc' := by
  induction items generalizing sc ts with
  | nil => exact ⟨sc, h, rfl⟩
  | cons s items ih =>
    obtain ⟨sc₁, h₁, hrun₁⟩ := AtLine.item h (startsItem_items items) (fuel + 2 * items.length)
    obtain ⟨sc₂, h₂, hrun₂⟩ := ih h₁
    refine ⟨sc₂, by simpa [itemTokens] using h₂, ?_⟩
    rw [← hrun₂, ← hrun₁, List.length_cons]
    rfl

/-- The key and its colon, which makes it the first key of a mapping. -/
theorem run?_start (hr : StartsItem r) (fuel : Nat) : ∃ sc' : Scanner,
    sc'.AtLine [.value, .scalar true "payload".toList, .key, .blockMappingStart] r ∧
      run? (fuel + 2) (start ("payload:\n".toList ++ r)) = run? fuel sc' :=
  ⟨_, ⟨⟨rfl, rfl, rfl, by simp [push, skip, goto], rfl⟩, _, rfl, skipGap_feed hr⟩, rfl⟩

theorem AtLine.end (h : sc.AtLine ts []) (fuel : Nat) :
    run? (fuel + 1) sc = some (ts.reverse ++ [.blockEnd]) := by
  obtain ⟨pos, -, hgap⟩ := h.gap
  obtain ⟨sc', h', hrun, -⟩ := h.toInMapping.run?_succ hgap fuel
  have hclose : sc'.closeBlocks (-1) =
      { sc' with indent := -1, outerIndents := [] }.push .blockEnd := by
    rw [closeBlocks, h'.inFlow, h'.outer, if_neg (by decide), closeInner, h'.indent,
      if_pos (by decide), closeInner]
  have hfree : ∀ k ∈ (sc'.closeBlocks (-1)).key, k.required = false := by
    rw [hclose]
    exact h'.key
  rw [hrun rfl, finish?, dropKey?_of_free hfree, hclose]
  show some (_ :: sc'.tokens).reverse = _
  rw [h'.tokens, List.reverse_cons]

end Scanner

/-! ### Readable characters -/

theorem mem_singleBody {broken : Bool} (h : c ∈ singleBody broken s) :
    c ∈ s ∨ c ∈ [' ', '\n', '\''] := by
  induction s generalizing broken with
  | nil =>
    cases broken
    · cases h
    · exact .inr (by simp_all [singleBody])
  | cons d s ih =>
    unfold singleBody at h
    split_ifs at h <;> simp only [List.mem_append, List.mem_cons, List.not_mem_nil] at h ⊢ <;>
      grind

theorem mem_literalBody {fresh : Bool} (h : c ∈ literalBody fresh s) : c ∈ s ∨ c = ' ' := by
  induction s generalizing fresh with
  | nil => cases h
  | cons d s ih =>
    unfold literalBody at h
    split_ifs at h <;> simp only [List.mem_append, List.mem_cons, List.not_mem_nil] at h ⊢ <;>
      grind

theorem mem_literalHints (h : c ∈ literalHints s) : c ∈ ['2', '-', '+'] := by
  unfold literalHints at h
  split_ifs at h <;> split at h <;> (try split_ifs at h) <;> simp at h ⊢ <;> grind

theorem isReadable_hexDigits (width n : Nat) : ∀ d ∈ hexDigits width n, isReadable d = true := by
  have hdigit : ∀ m : Fin 16, isReadable m.val.digitChar.toUpper = true := by decide
  induction width with
  | zero => simp [hexDigits]
  | succ width ih =>
    rw [hexDigits]
    exact List.forall_mem_cons.2 ⟨hdigit ⟨_, Nat.mod_lt _ (by decide)⟩, ih⟩

theorem isReadable_doubleChar (c : Char) : ∀ d ∈ doubleChar c, isReadable d = true := by
  unfold doubleChar
  split
  · rename_i h
    simp only [Bool.and_eq_true] at h
    simpa using isReadable_of_isPrintable h.1.1.1
  · split
    · rename_i e he
      have he' : isReadable e = true := by
        unfold escapeLetter? at he
        split at he <;> cases he <;> decide
      simpa using ⟨by decide, he'⟩
    · split_ifs <;> exact List.forall_mem_cons.2
        ⟨by decide, List.forall_mem_cons.2 ⟨by decide, isReadable_hexDigits _ _⟩⟩

theorem isReadable_scalarText (s : Text) :
    ∀ c ∈ scalarText (styleOf s) s, isReadable c = true := by
  intro c hc
  cases hstyle : styleOf s with
  | plain =>
    have hallows := (plain_of_styleOf hstyle).1
    simp only [allowsPlain, Bool.and_eq_true, List.all_eq_true] at hallows
    rw [hstyle] at hc
    exact isReadable_of_isPrintable (hallows.1.1.1 c hc).1
  | single =>
    have hallows := (single_of_styleOf hstyle).1
    simp only [allowsSingle, Bool.and_eq_true, List.all_eq_true] at hallows
    have hmem : c ∈ s ∨ c ∈ [' ', '\n', '\''] := by
      rw [hstyle, scalarText, List.mem_append, List.mem_cons] at hc
      rcases hc with (rfl | hc) | hc
      · simp
      · exact mem_singleBody hc
      · simp_all
    rcases hmem with hmem | hmem
    · exact isReadable_of_isPrintable (hallows.1.1 c hmem)
    · have : ∀ d ∈ [' ', '\n', '\''], isReadable d = true := by simp [isReadable]
      exact this c hmem
  | double =>
    rw [hstyle, scalarText, List.mem_append, List.mem_cons, List.mem_flatMap,
      List.mem_singleton] at hc
    rcases hc with (rfl | ⟨d, -, hc⟩) | rfl
    · decide
    · exact isReadable_doubleChar d c hc
    · decide
  | literal =>
    have hallows := literal_of_styleOf hstyle
    simp only [allowsLiteral, Bool.and_eq_true, List.all_eq_true] at hallows
    rw [hstyle, scalarText, List.mem_append, List.mem_cons, List.mem_cons] at hc
    rcases hc with (rfl | hc) | (rfl | hc)
    · decide
    · have : ∀ d ∈ ['2', '-', '+'], isReadable d = true := by simp [isReadable]
      exact this c (mem_literalHints hc)
    · decide
    · rcases mem_literalBody hc with hmem | rfl
      · exact isReadable_of_isPrintable (hallows.1.1.2 c hmem)
      · decide

/-- Every character of an item may stand in a stream. -/
theorem isReadable_of_mem_itemText (h : c ∈ itemText s) : isReadable c = true := by
  have hend : ∀ d ∈ (if styleOf s = .literal then closing s else ['\n']), d = '\n' := by
    unfold closing
    split_ifs <;> simp
  rw [itemText_eq, List.mem_cons, List.mem_cons, List.mem_append] at h
  rcases h with rfl | rfl | h | h
  · decide
  · decide
  · exact isReadable_scalarText s c h
  · rw [hend c h]
    decide

/-! ### The whole stream -/

/-- The tokens of a list under its key. -/
def listTokens (items : List Text) : List Token :=
  [.blockMappingStart, .key, .scalar true "payload".toList, .value] ++ items.flatMap itemTokens ++
    [.blockEnd]

theorem scan?_renderList {items : List Text} (hne : items ≠ []) :
    Token.scan? (renderList "payload".toList items) = some (listTokens items) := by
  have htext : renderList "payload".toList items =
      "payload:\n".toList ++ items.flatMap itemText := by
    rw [renderList, if_neg (by simpa using hne)]
    rfl
  have hreadable : (renderList "payload".toList items).all isReadable = true := by
    rw [htext, List.all_append, Bool.and_eq_true, List.all_eq_true, List.all_eq_true]
    refine ⟨by simp [isReadable], fun c hc => ?_⟩
    obtain ⟨s, -, hc⟩ := List.mem_flatMap.1 hc
    exact isReadable_of_mem_itemText hc
  -- two turns for the key and its colon, two for every item and one for the end
  obtain ⟨fuel, hfuel⟩ : ∃ fuel, ("payload:\n".toList ++ items.flatMap itemText).length + 1 =
      fuel + 1 + 2 * items.length + 2 := by
    have := length_items items
    have hkey : "payload:\n".toList.length = 9 := by decide
    rw [List.length_append]
    exact ⟨7 + ((items.flatMap itemText).length - 2 * items.length), by omega⟩
  obtain ⟨sc₁, h₁, hrun₁⟩ := Scanner.run?_start (startsItem_items items) (fuel + 1 + 2 * items.length)
  obtain ⟨sc₂, h₂, hrun₂⟩ := h₁.items (fuel + 1)
  rw [Token.scan?, if_pos hreadable, htext, hfuel, hrun₁, hrun₂, h₂.end]
  simp [listTokens]

end RuleSets.Yaml
