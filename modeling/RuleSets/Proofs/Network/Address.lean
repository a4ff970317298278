import RuleSets.Network.Address
import RuleSets.Proofs.Text.Numeral
import RuleSets.Proofs.Text.Split

/-!
# Addresses read back

A written address is read back as the address part of a network (`readV4?_dotted`,
`readV6?_coloned`).  Colon groups are read up to a slash or a double colon, and no group is mistaken
for a dotted address, because no period follows its digits.
-/

namespace RuleSets.Address

open Text

variable {base n v : Nat} {c : Char} {s r ds : Text} {os gs : List Nat}

/-! ### Digits -/

theorem length_digitsOf (base n v : Nat) : (digitsOf base n v).length = n := by
  induction n with
  | zero => rfl
  | succ n ih => rw [digitsOf, List.length_cons, ih]

theorem lt_of_mem_digitsOf (hbase : 0 < base) {d : Nat} (h : d ∈ digitsOf base n v) : d < base := by
  induction n with
  | zero => cases h
  | succ n ih =>
    rw [digitsOf, List.mem_cons] at h
    rcases h with rfl | h
    · exact Nat.mod_lt _ hbase
    · exact ih h

theorem foldl_digitsOf (base n v m : Nat) :
    (digitsOf base n v).foldl (fun n d => n * base + d) m = m * base ^ n + v % base ^ n := by
  induction n generalizing m with
  | zero => simp [digitsOf, Nat.mod_one]
  | succ n ih =>
    have hpow : Nat.pow base n = base ^ n := rfl
    rw [digitsOf, List.foldl_cons, ih, hpow, Nat.pow_succ, Nat.mod_mul, Nat.add_mul, Nat.mul_assoc,
      Nat.mul_comm base, Nat.mul_comm (v / base ^ n % base), Nat.add_assoc,
      Nat.add_comm (v % base ^ n)]

theorem joinDigits_digitsOf (h : v < base ^ n) : joinDigits base (digitsOf base n v) = v := by
  rw [joinDigits, foldl_digitsOf, Nat.zero_mul, Nat.zero_add, Nat.mod_eq_of_lt h]

/-! ### Dotted addresses -/

theorem readOctet?_network (s : Text) : readOctet? .network s = readNumeral? 10 3 256 s := by
  unfold readOctet?
  split <;> rfl

theorem readOctet?_decimal {o : Nat} (ho : o < 256) (hr : EndsDigits 10 r) :
    readOctet? .network (decimal o ++ r) = some (o, r) := by
  rw [readOctet?_network]
  exact readNumeral?_numeral (by decide) (by decide) ho (by decide) (by omega) hr

theorem readOctets?_decimal {o : Nat} (hos : ∀ d ∈ o :: os, d < 256) (hr : EndsDigits 10 r) :
    readOctets? .network (os.length + 1)
      (decimal o ++ (os.flatMap (['.'] ++ decimal ·) ++ r)) = some (o :: os, r) := by
  induction os generalizing o with
  | nil =>
    show (readOctet? .network (decimal o ++ r)).map _ = _
    rw [readOctet?_decimal (hos o (by simp)) hr]
    rfl
  | cons o' os ih =>
    obtain ⟨ho, hos⟩ := List.forall_mem_cons.1 hos
    have hperiod (q : Text) : EndsDigits 10 ('.' :: q) := by
      rintro c ⟨⟩
      decide
    have hread : readOctet? .network
        (decimal o ++ (['.'] ++ decimal o' ++ (os.flatMap (['.'] ++ decimal ·) ++ r))) =
          some (o, '.' :: (decimal o' ++ (os.flatMap (['.'] ++ decimal ·) ++ r))) :=
      readOctet?_decimal ho (hperiod _)
    rw [List.flatMap_cons, List.append_assoc, List.length_cons, readOctets?, hread]
    show (readOctets? .network (os.length + 1) _).map _ = _
    rw [ih hos]
    rfl

theorem readV4?_dotted (hv : v < 2 ^ 32) (hr : EndsDigits 10 r) :
    readV4? .network (dotted v ++ r) = some (v, r) := by
  obtain ⟨o, os, hdigits⟩ := List.exists_cons_of_ne_nil
    (List.ne_nil_of_length_pos (by rw [length_digitsOf 256 4 v]; decide))
  have hlength : os.length = 3 := by
    have := length_digitsOf 256 4 v
    rw [hdigits, List.length_cons] at this
    omega
  have hos : ∀ d ∈ o :: os, d < 256 := by
    rw [← hdigits]
    exact fun d hd => lt_of_mem_digitsOf (by decide) hd
  have hread := readOctets?_decimal hos hr
  have hjoin : joinDigits 256 (digitsOf 256 4 v) = v := joinDigits_digitsOf hv
  rw [hlength] at hread
  rw [hdigits] at hjoin
  rw [readV4?, dotted, hdigits, List.map_cons, joinWith_cons, List.flatMap_map, List.append_assoc,
    hread]
  exact congrArg (fun n => some (n, r)) hjoin

theorem ne_of_isDigitOf (h : isDigitOf 16 c = true) : c ≠ '.' := by
  rintro rfl
  exact absurd h (by decide)

theorem isDigitOf_mono (h : isDigitOf 16 c = false) : isDigitOf 10 c = false := by
  simp only [isDigitOf, decide_eq_false_iff_not] at h ⊢
  omega

/-- Digits with no period after them are no dotted address. -/
theorem readV4?_none (hds : ∀ d ∈ ds, isDigitOf 16 d = true) (hc : c ≠ '.')
    (hdigit : isDigitOf 16 c = false) : readV4? .network (ds ++ c :: r) = none := by
  have hdrop (q : Text) : (ds ++ c :: r).dropWhile (isDigitOf 10) ≠ '.' :: q := by
    induction ds with
    | nil => simp [isDigitOf_mono hdigit, hc]
    | cons d ds ih =>
      obtain ⟨hd, hds⟩ := List.forall_mem_cons.1 hds
      rw [List.cons_append, List.dropWhile_cons]
      split
      · exact ih hds
      · exact fun h => ne_of_isDigitOf hd (List.cons.inj h).1
  have hoctet : ∀ o q, readOctet? .network (ds ++ c :: r) ≠ some (o, '.' :: q) := by
    intro o q h
    rw [readOctet?_network, readNumeral?] at h
    split at h
    · cases h
    · exact hdrop q (Prod.mk.inj (Option.some.inj h)).2
  rw [readV4?, readOctets?]
  split
  · rename_i h
    exact absurd h (hoctet _ _)
  · rfl

/-! ### Groups -/

/-- What may follow the groups of a written address: a slash, or a double colon. -/
def EndsGroups (r : Text) : Prop := (∃ q, r = '/' :: q) ∨ ∃ q, r = ':' :: ':' :: q

/-- Groups that follow another one. -/
def laterGroups (gs : List Nat) : Text := gs.flatMap ([':'] ++ numeral 16 ·)

theorem colonJoin_cons (g : Nat) (gs : List Nat) :
    colonJoin (g :: gs) = numeral 16 g ++ laterGroups gs := by
  rw [colonJoin, List.map_cons, joinWith_cons, List.flatMap_map, laterGroups]

theorem exists_laterGroups (gs : List Nat) (hr : EndsGroups r) : ∃ c q,
    laterGroups gs ++ r = c :: q ∧ c ≠ '.' ∧ isDigitOf 16 c = false := by
  cases gs with
  | nil =>
    rcases hr with ⟨q, rfl⟩ | ⟨q, rfl⟩
    · exact ⟨'/', q, rfl, by decide, by decide⟩
    · exact ⟨':', ':' :: q, rfl, by decide, by decide⟩
  | cons g gs => exact ⟨':', _, rfl, by decide, by decide⟩

theorem readGroups_step {g : Nat} (first : Bool) (n : Nat) (s : Text) (hg : g < 65536)
    (hc : c ≠ '.') (hdigit : isDigitOf 16 c = false) :
    readGroups .network (n + 1) first ((if first then [] else [':']) ++ (numeral 16 g ++ c :: s)) =
      (g :: (readGroups .network n false (c :: s)).1, (readGroups .network n false (c :: s)).2) := by
  have hv4 : (if n = 0 then none else readV4? .network (numeral 16 g ++ c :: s)) = none := by
    split
    · rfl
    · exact readV4?_none (fun d hd => isDigitOf_of_mem_numeral (by decide) (by decide) hd) hc hdigit
  have hends : EndsDigits 16 (c :: s) := by
    rintro d ⟨⟩
    exact hdigit
  have hread : readNumeral? 16 4 65536 (numeral 16 g ++ c :: s) = some (g, c :: s) :=
    readNumeral?_numeral (by decide) (by decide) hg (by decide) hg hends
  have hfirst : (if first = true then
      some ((if first then [] else [':']) ++ (numeral 16 g ++ c :: s))
      else afterPrefix? [':'] ((if first then [] else [':']) ++ (numeral 16 g ++ c :: s))) =
        some (numeral 16 g ++ c :: s) := by
    cases first <;> rfl
  rw [readGroups, hfirst]
  simp only [hv4, hread]

theorem readGroups_none {first : Bool} {q : Text} (hc : c ≠ '.') (hdigit : isDigitOf 16 c = false)
    (hfirst : (if first then some s else afterPrefix? [':'] s) = some (c :: q)) :
    readGroups .network n first s = ([], false, s) := by
  cases n with
  | zero => rfl
  | succ n =>
    have hv4 : (if n = 0 then none else readV4? .network (c :: q)) = none := by
      split
      · rfl
      · exact readV4?_none (List.forall_mem_nil _) hc hdigit
    have hends : EndsDigits 16 (c :: q) := by
      rintro d ⟨⟩
      exact hdigit
    rw [readGroups, hfirst]
    simp only [hv4, readNumeral?_none hends]

theorem readGroups_end {first : Bool} (hr : EndsGroups r) :
    readGroups .network n first r = ([], false, r) := by
  rcases hr with ⟨q, rfl⟩ | ⟨q, rfl⟩
  · cases first with
    | true => exact readGroups_none (c := '/') (by decide) (by decide) rfl
    | false => cases n <;> rfl
  · cases first <;> exact readGroups_none (c := ':') (by decide) (by decide) rfl

theorem readGroups_laterGroups (hgs : ∀ g ∈ gs, g < 65536) (hn : gs.length ≤ n)
    (hr : EndsGroups r) :
    readGroups .network n false (laterGroups gs ++ r) = (gs, false, r) := by
  induction gs generalizing n with
  | nil => exact readGroups_end hr
  | cons g gs ih =>
    obtain ⟨hg, hgs⟩ := List.forall_mem_cons.1 hgs
    obtain ⟨n, rfl⟩ : ∃ k, n = k + 1 := ⟨n - 1, by rw [List.length_cons] at hn; omega⟩
    obtain ⟨c, q, hq, hc, hdigit⟩ := exists_laterGroups gs hr
    have hstep := readGroups_step false n q hg hc hdigit
    rw [← hq, ih hgs (by rw [List.length_cons] at hn; omega)] at hstep
    rw [laterGroups, List.flatMap_cons, List.append_assoc, List.append_assoc]
    exact hstep

theorem readGroups_colonJoin (hgs : ∀ g ∈ gs, g < 65536) (hn : gs.length ≤ n)
    (hr : EndsGroups r) :
    readGroups .network n true (colonJoin gs ++ r) = (gs, false, r) := by
  cases gs with
  | nil => exact readGroups_end hr
  | cons g gs =>
    obtain ⟨hg, hgs⟩ := List.forall_mem_cons.1 hgs
    obtain ⟨n, rfl⟩ : ∃ k, n = k + 1 := ⟨n - 1, by rw [List.length_cons] at hn; omega⟩
    obtain ⟨c, q, hq, hc, hdigit⟩ := exists_laterGroups gs hr
    have hstep := readGroups_step true n q hg hc hdigit
    rw [← hq, readGroups_laterGroups hgs (by rw [List.length_cons] at hn; omega) hr] at hstep
    rw [colonJoin_cons, List.append_assoc]
    exact hstep

/-! ### Runs of zeros -/

/-- The run that is found is a run of zeros. -/
theorem longestZeros_spec (i : Nat) (gs : List Nat) :
    (longestZeros i gs).2 = 0 ∨ ∃ a b, gs = a ++ List.replicate (longestZeros i gs).2 0 ++ b ∧
      (longestZeros i gs).1 = i + a.length := by
  induction gs generalizing i with
  | nil => exact .inl rfl
  | cons g gs ih =>
    rw [longestZeros]
    dsimp only
    split
    · refine .inr ⟨[], (g :: gs).dropWhile (· == 0), ?_, rfl⟩
      have hzeros : (g :: gs).takeWhile (· == 0) =
          List.replicate ((g :: gs).takeWhile (· == 0)).length 0 := by
        refine List.eq_replicate_iff.2 ⟨rfl, fun d hd => ?_⟩
        simpa using List.all_eq_true.1 List.all_takeWhile d hd
      rw [List.nil_append, ← hzeros, List.takeWhile_append_dropWhile]
    · refine (ih (i + 1)).imp_right ?_
      rintro ⟨a, b, hgs, hstart⟩
      refine ⟨g :: a, b, ?_, ?_⟩
      · rw [List.cons_append, List.cons_append, ← hgs]
      · rw [hstart, List.length_cons]
        omega

/-! ### Colon addresses -/

/-- A colon address around a double colon is read by its two parts. -/
theorem readV6?_gap {a b : List Nat} {tail : Text} {dotted : Bool} (ha : ∀ g ∈ a, g < 65536)
    (hlength : a.length < 8)
    (htail : readGroups .network (8 - a.length) true tail = (b, dotted, r)) :
    readV6? .network (colonJoin a ++ ':' :: ':' :: tail) =
      some (joinDigits 65536 (a ++ List.replicate (8 - a.length - b.length) 0 ++ b), r) := by
  have hhead : readGroups .network 8 true (colonJoin a ++ ':' :: ':' :: tail) =
      (a, false, ':' :: ':' :: tail) :=
    readGroups_colonJoin ha (by omega) (.inr ⟨tail, rfl⟩)
  rw [readV6?, hhead]
  dsimp only
  rw [if_neg (by omega), if_neg (by decide)]
  show some (joinDigits 65536 (a ++ List.replicate (8 - a.length -
    (readGroups .network (8 - a.length) true tail).1.length) 0 ++
      (readGroups .network (8 - a.length) true tail).1),
    (readGroups .network (8 - a.length) true tail).2.2) = _
  rw [htail]

/-- An address that maps a dotted one is read from one group and the dotted address. -/
theorem readV6?_mapped (hmapped : v / 2 ^ 32 = 0xFFFF) (q : Text) :
    readV6? .network ("::ffff:".toList ++ dotted (v % 2 ^ 32) ++ '/' :: q) = some (v, '/' :: q) := by
  have hw : v % 2 ^ 32 < 2 ^ 32 := Nat.mod_lt _ (by decide)
  have hends : EndsDigits 10 ('/' :: q) := by
    rintro c ⟨⟩
    decide
  -- kept closed, or the reader would run on the digits of the address
  generalize hrest : dotted (v % 2 ^ 32) ++ '/' :: q = rest
  have hdotted : readGroups .network 7 false (':' :: rest) =
      ([v % 2 ^ 32 / 65536, v % 2 ^ 32 % 65536], true, '/' :: q) := by
    have hread : readV4? .network rest = some (v % 2 ^ 32, '/' :: q) := by
      rw [← hrest, readV4?_dotted hw hends]
    have hfirst : (if false = true then some (':' :: rest) else afterPrefix? [':'] (':' :: rest)) =
        some rest := rfl
    rw [readGroups, hfirst]
    simp only [hread]
    rfl
  have hgroups : readGroups .network 8 true ("ffff:".toList ++ rest) =
      ([0xFFFF, v % 2 ^ 32 / 65536, v % 2 ^ 32 % 65536], true, '/' :: q) := by
    have hstep := readGroups_step true 7 rest (g := 0xFFFF) (c := ':') (by decide) (by decide)
      (by decide)
    rw [hdotted] at hstep
    exact hstep
  have hread := readV6?_gap (List.forall_mem_nil _) (by decide) hgroups
  have hjoin : joinDigits 65536 ([] ++ List.replicate 5 0 ++
      [0xFFFF, v % 2 ^ 32 / 65536, v % 2 ^ 32 % 65536]) = v := by
    simp only [joinDigits, List.nil_append, List.replicate, List.cons_append, List.foldl_cons,
      List.foldl_nil]
    omega
  rw [List.append_assoc, hrest]
  exact hread.trans (congrArg (fun n => some (n, '/' :: q)) hjoin)

theorem readV6?_coloned (hv : v < 2 ^ 128) (q : Text) :
    readV6? .network (coloned v ++ '/' :: q) = some (v, '/' :: q) := by
  have hslash : EndsGroups ('/' :: q) := .inl ⟨q, rfl⟩
  have hlength := length_digitsOf 65536 8 v
  have hgs : ∀ g ∈ digitsOf 65536 8 v, g < 65536 := fun g hg => lt_of_mem_digitsOf (by decide) hg
  have hjoin : joinDigits 65536 (digitsOf 65536 8 v) = v := joinDigits_digitsOf hv
  unfold coloned
  split
  · rename_i hmapped
    exact readV6?_mapped hmapped q
  · dsimp only
    split
    · -- no run of zeros is left out, so all eight groups are read at once
      have hread := readGroups_colonJoin hgs (n := 8) (by omega) hslash
      rw [readV6?, hread]
      dsimp only
      rw [if_pos hlength, hjoin]
    · rename_i hlen
      rcases longestZeros_spec 0 (digitsOf 65536 8 v) with hzero | ⟨a, b, hsplit, hstart⟩
      · omega
      · -- the double colon stands for as many zeros as the groups around it leave out
        generalize (longestZeros 0 (digitsOf 65536 8 v)).2 = len at *
        rw [hstart, Nat.zero_add]
        have hab : a.length + len + b.length = 8 := by
          rw [← hlength, hsplit, List.length_append, List.length_append, List.length_replicate]
        have hhead : (digitsOf 65536 8 v).take a.length = a := by
          rw [hsplit, List.append_assoc, List.take_left]
        have htail : (digitsOf 65536 8 v).drop (a.length + len) = b := by
          have hprefix : (a ++ List.replicate len 0).length = a.length + len := by simp
          rw [hsplit, ← hprefix, List.drop_left]
        have ha : ∀ g ∈ a, g < 65536 := fun g hg => hgs g (by rw [hsplit]; simp [hg])
        have hb : ∀ g ∈ b, g < 65536 := fun g hg => hgs g (by rw [hsplit]; simp [hg])
        have hread := readV6?_gap ha (by omega) (readGroups_colonJoin hb (by omega) hslash)
        have hgap : 8 - a.length - b.length = len := by omega
        rw [hgap, ← hsplit, hjoin] at hread
        rw [hhead, htail, List.append_assoc, List.append_assoc]
        exact hread

theorem readV4?_colonJoin (gs : List Nat) (hr : EndsGroups r) :
    readV4? .network (colonJoin gs ++ r) = none := by
  cases gs with
  | nil =>
    obtain ⟨c, q, rfl, hc, hdigit⟩ := exists_laterGroups [] hr
    exact readV4?_none (List.forall_mem_nil _) hc hdigit
  | cons g gs =>
    obtain ⟨c, q, hq, hc, hdigit⟩ := exists_laterGroups gs hr
    rw [colonJoin_cons, List.append_assoc, hq]
    exact readV4?_none (fun d hd => isDigitOf_of_mem_numeral (by decide) (by decide) hd) hc hdigit

theorem readV4?_coloned (v : Nat) (q : Text) :
    readV4? .network (coloned v ++ '/' :: q) = none := by
  unfold coloned
  split
  · exact readV4?_colonJoin [] (.inr ⟨_, rfl⟩)
  · dsimp only
    split
    · exact readV4?_colonJoin _ (.inl ⟨q, rfl⟩)
    · rw [List.append_assoc, List.append_assoc]
      exact readV4?_colonJoin _ (.inr ⟨_, rfl⟩)

end RuleSets.Address
