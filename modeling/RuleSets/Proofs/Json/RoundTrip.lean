import RuleSets.Proofs.Json.Scalar

/-!
# Written values read back

`parse?_render`: a value is the one that its written form stands for, provided that its integers fit
64 bits, no object has a key twice and not too many levels are nested (`Exact`).  The reader's fuel
is bounded by the length of the text, level by level (`Reads`).
-/

namespace RuleSets

namespace Value

theorem setField_of_not_mem {k : Text} {v : Value} {fields : List (Text × Value)}
    (h : k ∉ fields.map (·.1)) : setField k v fields = fields ++ [(k, v)] := by
  induction fields with
  | nil => rfl
  | cons f fields ih =>
    rw [List.map_cons, List.mem_cons, not_or] at h
    rw [setField, if_neg (Ne.symm h.1), ih h.2]
    rfl

/-- Members with distinct keys are the fields of an object as they come. -/
theorem fieldsOf_of_nodup {members : List (Text × Value)} (h : (members.map (·.1)).Nodup) :
    fieldsOf members = members := by
  -- What has been stored is a front of the members, so that no key is there already.
  have step (front members : List (Text × Value)) (h : ((front ++ members).map (·.1)).Nodup) :
      members.foldl (fun fields m => setField m.1 m.2 fields) front = front ++ members := by
    induction members generalizing front with
    | nil => exact (List.append_nil front).symm
    | cons m members ih =>
      have hm : m.1 ∉ front.map (·.1) := by
        rw [List.map_append, List.map_cons] at h
        exact fun hmem => (List.nodup_append.1 h).2.2 _ hmem _ (List.mem_cons_self ..) rfl
      rw [List.foldl_cons, setField_of_not_mem hm, ih _ (by simpa using h)]
      simp
  exact step [] members h

end Value

namespace Json

/-- The values that read back as they are written, with at most so many nested levels. -/
inductive Exact : Nat → Value → Prop where
  | null {depth : Nat} : Exact depth .null
  | bool {depth : Nat} (b : Bool) : Exact depth (.bool b)
  | int {depth : Nat} {n : Int} (h : Value.fits64 n = true) : Exact depth (.int n)
  | string {depth : Nat} (s : Text) : Exact depth (.string s)
  | list {depth : Nat} {items : List Value} (h : ∀ v ∈ items, Exact depth v) :
      Exact (depth + 1) (.list items)
  | object {depth : Nat} {fields : List (Text × Value)} (hkeys : (fields.map (·.1)).Nodup)
      (h : ∀ f ∈ fields, Exact depth f.2) : Exact (depth + 1) (.object fields)

/-- Whether a value is read back where so many levels may still be opened. -/
structure Reads (depth : Nat) (v : Value) : Prop where
  starts : ∀ level, ∃ c s, print level v = c :: s ∧ isSpace c = false ∧ c ≠ ']'
  reads : ∀ level fuel r, Ends r → 2 * (print level v).length < fuel →
    readValue? fuel depth (print level v ++ r) = some (v, r)

/-- To read a value takes one step at least. -/
theorem Reads.of_succ {depth : Nat} {v : Value}
    (hstarts : ∀ level, ∃ c s, print level v = c :: s ∧ isSpace c = false ∧ c ≠ ']')
    (hreads : ∀ level fuel r, Ends r → 2 * (print level v).length ≤ fuel →
      readValue? (fuel + 1) depth (print level v ++ r) = some (v, r)) : Reads depth v where
  starts := hstarts
  reads level fuel r hr hfuel := by
    obtain ⟨fuel, rfl⟩ : ∃ n, fuel = n + 1 := ⟨fuel - 1, by omega⟩
    exact hreads level fuel r hr (by omega)

/-! ### White space -/

theorem skipSpace_newline (level : Nat) {c : Char} {s : Text} (hc : isSpace c = false) :
    skipSpace (newline level ++ c :: s) = c :: s := by
  have hspaces : ∀ d ∈ newline level, isSpace d = true := by
    intro d hd
    rcases List.mem_cons.1 hd with rfl | hd
    · rfl
    · rw [(List.mem_replicate.1 hd).2]; rfl
  rw [skipSpace, List.dropWhile_append_of_pos hspaces, List.dropWhile_cons, if_neg (by simp [hc])]

theorem skipSpace_cons {c : Char} {s : Text} (hc : isSpace c = false) :
    skipSpace (c :: s) = c :: s := by
  rw [skipSpace, List.dropWhile_cons, if_neg (by simp [hc])]

theorem skipSpace_blank {c : Char} {s : Text} (hc : isSpace c = false) :
    skipSpace (' ' :: c :: s) = c :: s := skipSpace_cons hc

theorem ends_newline (level : Nat) (s : Text) : Ends (newline level ++ s) := by
  intro c hc
  cases hc
  decide

theorem ends_comma (s : Text) : Ends (',' :: s) := by
  intro c hc
  cases hc
  decide

/-! ### Lists -/

section
variable {depth : Nat}

theorem readItems?_print {v : Value} {vs : List Value} (h : ∀ w ∈ v :: vs, Reads depth w)
    (level level' fuel : Nat) (r : Text)
    (hfuel : 2 * (print level v ++ printItems level vs).length + 1 < fuel) :
    readItems? fuel depth (print level v ++ (printItems level vs ++ (newline level' ++ ']' :: r))) =
      some (v :: vs, r) := by
  induction vs generalizing v fuel with
  | nil =>
    obtain ⟨fuel, rfl⟩ : ∃ n, fuel = n + 1 := ⟨fuel - 1, by omega⟩
    simp only [printItems, List.append_nil, List.nil_append] at hfuel ⊢
    have hv := (h v (by simp)).reads level fuel _ (ends_newline level' (']' :: r)) (by omega)
    rw [readItems?, hv]
    simp only [skipSpace_newline level' (c := ']') rfl]
  | cons w ws ih =>
    obtain ⟨fuel, rfl⟩ : ∃ n, fuel = n + 1 := ⟨fuel - 1, by omega⟩
    simp only [printItems, List.cons_append, List.append_assoc, List.length_append,
      List.length_cons] at hfuel ⊢
    have hv := (h v (by simp)).reads level fuel _ (ends_comma (newline level ++ (print level w ++
      (printItems level ws ++ (newline level' ++ ']' :: r))))) (by omega)
    obtain ⟨c, s, hw, hc, -⟩ := (h w (by simp)).starts level
    have hrest := ih (fun u hu => h u (List.mem_cons_of_mem _ hu)) fuel
      (by rw [List.length_append]; omega)
    rw [hw, List.cons_append] at hrest
    rw [readItems?, hv]
    simp only [skipSpace_cons (c := ',') rfl, hw, List.cons_append, skipSpace_newline level hc, hrest]
    rfl

theorem reads_list {items : List Value} (h : ∀ v ∈ items, Reads depth v) :
    Reads (depth + 1) (.list items) := by
  apply Reads.of_succ
  · intro level
    cases items with
    | nil => exact ⟨'[', _, rfl, rfl, by decide⟩
    | cons v vs => exact ⟨'[', _, rfl, rfl, by decide⟩
  · intro level fuel r hr hfuel
    cases items with
    | nil => rfl
    | cons v vs =>
      simp only [print, List.cons_append, List.append_assoc, List.length_append,
        List.length_cons] at hfuel ⊢
      obtain ⟨c, s, hv, hc, hne⟩ := (h v (by simp)).starts (level + 1)
      have hitems := readItems?_print h (level + 1) level fuel r
        (by rw [List.length_append]; omega)
      rw [hv, List.cons_append] at hitems
      rw [readValue?]
      simp only [hv, List.cons_append, List.nil_append, skipSpace_newline (level + 1) hc]
      split
      · rename_i heq
        exact absurd (List.cons.inj heq).1 hne
      · rw [hitems]; rfl

/-! ### Objects -/

theorem readFields?_print {k : Text} {v : Value} {fs : List (Text × Value)} (hv : Reads depth v)
    (h : ∀ f ∈ fs, Reads depth f.2) (level level' fuel : Nat) (r : Text)
    (hfuel : 2 * (quote k ++ print level v ++ printFields level fs).length + 1 < fuel) :
    readFields? fuel depth (quote k ++ (':' :: ' ' :: (print level v ++ (printFields level fs ++
      (newline level' ++ '}' :: r))))) = some ((k, v) :: fs, r) := by
  induction fs generalizing k v fuel with
  | nil =>
    obtain ⟨fuel, rfl⟩ : ∃ n, fuel = n + 1 := ⟨fuel - 1, by omega⟩
    simp only [printFields, List.append_nil, List.nil_append, List.length_append] at hfuel ⊢
    obtain ⟨c, s, hstart, hc, -⟩ := hv.starts level
    have hread := hv.reads level fuel _ (ends_newline level' ('}' :: r)) (by omega)
    rw [hstart, List.cons_append] at hread
    simp only [quote, List.cons_append, List.append_assoc, List.nil_append]
    rw [readFields?, readString?_quote]
    simp only [skipSpace_cons (c := ':') rfl, hstart, List.cons_append, skipSpace_blank hc, hread,
      skipSpace_newline level' (c := '}') rfl]
  | cons f fs ih =>
    obtain ⟨fuel, rfl⟩ : ∃ n, fuel = n + 1 := ⟨fuel - 1, by omega⟩
    obtain ⟨k', v'⟩ := f
    simp only [printFields, List.cons_append, List.append_assoc, List.length_append,
      List.length_cons] at hfuel ⊢
    obtain ⟨c, s, hstart, hc, -⟩ := hv.starts level
    have hread := hv.reads level fuel _ (ends_comma (newline level ++ (quote k' ++ (':' :: ' ' ::
      (print level v' ++ (printFields level fs ++ (newline level' ++ '}' :: r))))))) (by omega)
    have hrest := ih (k := k') (h (k', v') (by simp)) (fun u hu => h u (List.mem_cons_of_mem _ hu))
      fuel (by simp only [List.length_append]; omega)
    rw [hstart, List.cons_append] at hread
    simp only [quote, List.cons_append, List.append_assoc, List.nil_append] at hread hrest ⊢
    rw [readFields?, readString?_quote]
    simp only [skipSpace_cons (c := ':') rfl, hstart, List.cons_append, skipSpace_blank hc, hread,
      skipSpace_cons (c := ',') rfl, skipSpace_newline level (c := '"') rfl, hrest]
    rfl

theorem reads_object {fields : List (Text × Value)} (hkeys : (fields.map (·.1)).Nodup)
    (h : ∀ f ∈ fields, Reads depth f.2) : Reads (depth + 1) (.object fields) := by
  apply Reads.of_succ
  · intro level
    rcases fields with _ | ⟨⟨k, v⟩, fs⟩
    · exact ⟨'{', _, rfl, rfl, by decide⟩
    · exact ⟨'{', _, rfl, rfl, by decide⟩
  · intro level fuel r hr hfuel
    rcases fields with _ | ⟨⟨k, v⟩, fs⟩
    · rfl
    · simp only [print, List.cons_append, List.append_assoc, List.length_append,
        List.length_cons] at hfuel ⊢
      have hfields := readFields?_print (k := k) (h (k, v) (by simp))
        (fun u hu => h u (List.mem_cons_of_mem _ hu)) (level + 1) level fuel r
        (by simp only [List.length_append]; omega)
      simp only [quote, List.cons_append, List.append_assoc, List.nil_append] at hfields ⊢
      rw [readValue?]
      simp only [skipSpace_newline (level + 1) (c := '"') rfl]
      show Option.map _ (readFields? fuel depth ('"' :: _)) = _
      rw [hfields, Option.map_some, Value.fieldsOf_of_nodup hkeys]

end

/-! ### Integers -/

theorem ne_of_isDigit {c d : Char} (hc : c.isDigit = true) (hd : d.isDigit = false) : c ≠ d :=
  fun h => by rw [h, hd] at hc; cases hc

theorem readValue?_digit {fuel depth : Nat} {c : Char} {s : Text} (hc : c.isDigit = true) :
    readValue? (fuel + 1) depth (c :: s) = readNumber? false (c :: s) := by
  rw [readValue?]
  all_goals
    rintro r heq
    rw [(List.cons.inj heq).1] at hc
    exact absurd hc (by decide)

theorem reads_int {depth : Nat} {n : Int} (h : Value.fits64 n = true) : Reads depth (.int n) := by
  rw [Value.fits64, Bool.and_eq_true, decide_eq_true_eq, decide_eq_true_eq] at h
  have hmax : maxSignificand = 18446744073709551615 := rfl
  have h63 : Nat.pow 2 63 = 9223372036854775808 := rfl
  have h64 : Nat.pow 2 64 = 18446744073709551616 := rfl
  cases n with
  | ofNat n =>
    have hn : n ≤ maxSignificand := by rw [Int.ofNat_eq_natCast] at h; omega
    obtain ⟨c, ds, hds, hc⟩ := decimal_eq_cons n
    apply Reads.of_succ
    · intro level
      refine ⟨c, ds, hds, ?_, ne_of_isDigit hc rfl⟩
      simp only [isSpace, Bool.or_eq_false_iff, beq_eq_false_iff_ne]
      exact ⟨⟨⟨ne_of_isDigit hc rfl, ne_of_isDigit hc rfl⟩, ne_of_isDigit hc rfl⟩,
        ne_of_isDigit hc rfl⟩
    · intro level fuel r hr hfuel
      have hnum := readNumber?_decimal false hn hr
      rw [hds, List.cons_append] at hnum
      simp only [print, Text.decimalInt, hds, List.cons_append]
      rw [readValue?_digit hc, hnum]
      rfl
  | negSucc n =>
    apply Reads.of_succ
    · exact fun level => ⟨'-', _, rfl, rfl, by decide⟩
    · intro level fuel r hr hfuel
      simp only [print, Text.decimalInt, List.cons_append]
      have hn : n + 1 ≤ Nat.pow 2 63 := by omega
      rw [readValue?, readNumber?_decimal true (by omega) hr]
      rw [if_neg (by decide), if_pos ⟨Nat.succ_ne_zero n, hn⟩]
      rfl

theorem Exact.reads {depth : Nat} {v : Value} (h : Exact depth v) : Reads depth v := by
  induction h with
  | null =>
    exact .of_succ (fun level => ⟨'n', _, rfl, rfl, by decide⟩) fun level fuel r hr hfuel => rfl
  | bool b =>
    cases b with
    | false =>
      exact .of_succ (fun level => ⟨'f', _, rfl, rfl, by decide⟩) fun level fuel r hr hfuel => rfl
    | true =>
      exact .of_succ (fun level => ⟨'t', _, rfl, rfl, by decide⟩) fun level fuel r hr hfuel => rfl
  | int hn => exact reads_int hn
  | string s =>
    refine .of_succ (fun level => ⟨'"', _, rfl, rfl, by decide⟩) fun level fuel r hr hfuel => ?_
    simp only [print, quote, List.cons_append, List.append_assoc, List.nil_append]
    rw [readValue?, readString?_quote]
    rfl
  | list _ ih => exact reads_list ih
  | object hkeys _ ih => exact reads_object hkeys ih

/-- The value of a written value, perhaps with white space behind it, is that value. -/
theorem parse?_render {v : Value} (h : Exact maxDepth v) {s : Text}
    (hs : ∀ c ∈ s, isSpace c = true) : parse? (render v ++ s) = some v := by
  obtain ⟨c, t, hstart, hc, -⟩ := h.reads.starts 0
  have hends : Ends s := by
    intro c hc
    have hspace := hs c (List.mem_of_mem_head? hc)
    simp only [isSpace, Bool.or_eq_true, beq_iff_eq] at hspace
    rcases hspace with ((rfl | rfl) | rfl) | rfl <;> decide
  have hread := h.reads.reads 0 (2 * (render v ++ s).length + 2) s hends
    (by rw [List.length_append, render]; omega)
  have hskip : skipSpace (render v ++ s) = print 0 v ++ s := by
    rw [render, hstart, List.cons_append, skipSpace_cons hc]
  have hrest : skipSpace s = [] := by
    rw [skipSpace, ← List.append_nil s, List.dropWhile_append_of_pos hs]
    rfl
  rw [parse?, hskip, hread]
  simp only [hrest, List.isEmpty_nil, if_true]

end Json
end RuleSets
