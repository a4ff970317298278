import RuleSets.Network
import RuleSets.Proofs.Text.Trim

/-!
# What networks are spelled with

A text that is read as a network from end to end is spelled with hexadecimal digits, periods, colons
and slashes only (`isNetworkChar_of_parseSlash?`).  So it has no comma, and there is nothing to trim.
Its signs tell what it is: a slash that it has a length (`slash_mem_iff`), and of the addresses without
one those of the fourth version have a period and no colon (`isV4_iff`).
-/

namespace RuleSets

open Text

variable {c : Char} {s r t : Text} {base : Nat} {sp : Address.Spelling} {p : Char → Bool}

/-! ### Readers -/

/-- Whether a reader has come from `s` to `r` over characters that satisfy `p`. -/
def ReadsOver (p : Char → Bool) (s r : Text) : Prop := ∃ q, s = q ++ r ∧ ∀ c ∈ q, p c = true

namespace ReadsOver

theorem refl (p : Char → Bool) (s : Text) : ReadsOver p s s := ⟨[], rfl, List.forall_mem_nil _⟩

theorem cons (hc : p c = true) (h : ReadsOver p s r) : ReadsOver p (c :: s) r := by
  obtain ⟨q, rfl, hq⟩ := h
  exact ⟨c :: q, rfl, List.forall_mem_cons.2 ⟨hc, hq⟩⟩

theorem trans (h : ReadsOver p s t) (h' : ReadsOver p t r) : ReadsOver p s r := by
  obtain ⟨q, rfl, hq⟩ := h
  obtain ⟨q', rfl, hq'⟩ := h'
  exact ⟨q ++ q', (List.append_assoc q q' r).symm, List.forall_mem_append.2 ⟨hq, hq'⟩⟩

theorem mono {p' : Char → Bool} (h : ReadsOver p s r) (hp : ∀ c, p c = true → p' c = true) :
    ReadsOver p' s r := by
  obtain ⟨q, rfl, hq⟩ := h
  exact ⟨q, rfl, fun c hc => hp c (hq c hc)⟩

theorem forall_mem (h : ReadsOver p s []) : ∀ c ∈ s, p c = true := by
  obtain ⟨q, rfl, hq⟩ := h
  rwa [List.append_nil]

end ReadsOver

theorem Text.readNumeral?_readsOver {maxDigits bound n : Nat}
    (h : readNumeral? base maxDigits bound s = some (n, r)) : ReadsOver (isDigitOf base) s r := by
  rw [readNumeral?] at h
  split at h
  · cases h
  · cases h
    refine ⟨s.takeWhile (isDigitOf base), (List.takeWhile_append_dropWhile ..).symm, fun c hc => ?_⟩
    exact List.all_eq_true.1 List.all_takeWhile c hc

theorem Text.head_of_readNumeral? {maxDigits bound n : Nat}
    (h : readNumeral? base maxDigits bound s = some (n, r)) :
    ∃ c q, s = c :: q ∧ isDigitOf base c = true := by
  rw [readNumeral?] at h
  split at h
  · cases h
  · rename_i hdigits
    rcases s with _ | ⟨c, q⟩
    · exact absurd rfl hdigits
    · refine ⟨c, q, rfl, Classical.byContradiction fun hc => hdigits ?_⟩
      simp [hc]

theorem Text.eq_cons_of_afterPrefix? (h : afterPrefix? [c] s = some r) : s = c :: r := by
  rw [afterPrefix?] at h
  split at h
  · rename_i hprefix
    obtain ⟨q, rfl⟩ := List.isPrefixOf_iff_prefix.1 hprefix
    cases h
    rfl
  · cases h

theorem Text.toNat_of_isDigitOf (hbase : base ≤ 16) (h : isDigitOf base c = true) :
    48 ≤ c.toNat ∧ (c.toNat ≤ 57 ∨ 10 < base ∧ c.toNat ≤ 102) := by
  rw [isDigitOf, decide_eq_true_eq, digitValue] at h
  split at h
  · rename_i hdigit
    have hrange : 48 ≤ c.toNat ∧ c.toNat ≤ 57 := by
      rw [Char.isDigit, Bool.and_eq_true, decide_eq_true_eq, decide_eq_true_eq] at hdigit
      exact hdigit
    omega
  split at h
  · rename_i hletter
    have hrange : 97 ≤ c.toNat ∧ c.toNat ≤ 102 := hletter
    omega
  split at h
  · rename_i hletter
    have hrange : 65 ≤ c.toNat ∧ c.toNat ≤ 70 := hletter
    omega
  · omega

/-! ### Addresses -/

namespace Address

def isAddressChar (c : Char) : Bool := isDigitOf 16 c || c == '.' || c == ':'

theorem isAddressChar_of_isDigitOf (hbase : base ≤ 16) (h : isDigitOf base c = true) :
    isAddressChar c = true := by
  have hdigit : isDigitOf 16 c = true := by
    simp only [isDigitOf, decide_eq_true_eq] at h ⊢
    omega
  rw [isAddressChar, hdigit]
  rfl

theorem readNumeral?_readsOver {maxDigits bound n : Nat} (hbase : base ≤ 16)
    (h : readNumeral? base maxDigits bound s = some (n, r)) : ReadsOver isAddressChar s r :=
  (Text.readNumeral?_readsOver h).mono fun _ => isAddressChar_of_isDigitOf hbase

def isDottedChar (c : Char) : Bool := isDigitOf 10 c || c == '.'

theorem isAddressChar_of_isDottedChar (h : isDottedChar c = true) : isAddressChar c = true := by
  rcases Bool.or_eq_true_iff.1 h with hdigit | hperiod
  · exact isAddressChar_of_isDigitOf (by decide) hdigit
  · rw [eq_of_beq hperiod]
    rfl

theorem toNat_of_isDottedChar (h : isDottedChar c = true) : c.toNat ≤ 57 := by
  rcases Bool.or_eq_true_iff.1 h with hdigit | hperiod
  · have := toNat_of_isDigitOf (by decide) hdigit
    omega
  · rw [eq_of_beq hperiod]
    decide

theorem readNumeral?_of_readOctet? {o : Nat} (h : readOctet? sp s = some (o, r)) :
    readNumeral? 10 3 256 s = some (o, r) := by
  unfold readOctet? at h
  split at h
  · split at h
    · cases h
    · exact h
  · exact h

theorem readOctet?_readsOver {o : Nat} (h : readOctet? sp s = some (o, r)) :
    ReadsOver isDottedChar s r := by
  refine (Text.readNumeral?_readsOver (readNumeral?_of_readOctet? h)).mono fun c hc => ?_
  rw [isDottedChar, hc]
  rfl

theorem readOctets?_readsOver {n : Nat} {os : List Nat} (h : readOctets? sp n s = some (os, r)) :
    ReadsOver isDottedChar s r := by
  fun_induction readOctets? sp n s generalizing os r with
  | case1 s =>
    cases h
    exact .refl _ _
  | case2 s =>
    obtain ⟨⟨o, r'⟩, ho, he⟩ := Option.map_eq_some_iff.1 h
    cases he
    exact readOctet?_readsOver ho
  | case3 n s o r' ho ih =>
    obtain ⟨⟨os', r''⟩, hos, he⟩ := Option.map_eq_some_iff.1 h
    cases he
    exact (readOctet?_readsOver ho).trans (.cons rfl (ih hos))
  | case4 => cases h

theorem readV4?_readsOver {v : Nat} (h : readV4? sp s = some (v, r)) :
    ReadsOver isDottedChar s r := by
  obtain ⟨⟨os, r'⟩, hos, he⟩ := Option.map_eq_some_iff.1 h
  cases he
  exact readOctets?_readsOver hos

/-- A dotted address begins with a digit and goes on behind a period. -/
theorem starts_of_readV4? {v : Nat} (h : readV4? sp s = some (v, r)) :
    (∃ c q, s = c :: q ∧ isDigitOf 10 c = true) ∧ '.' ∈ s := by
  obtain ⟨_, hos, -⟩ := Option.map_eq_some_iff.1 h
  rw [readOctets?] at hos
  split at hos
  · rename_i o r' ho
    obtain ⟨q, hq, -⟩ := readOctet?_readsOver ho
    exact ⟨head_of_readNumeral? (readNumeral?_of_readOctet? ho), by simp [hq]⟩
  · cases hos

theorem readGroups_readsOver (sp : Spelling) (n : Nat) (first : Bool) (s : Text) :
    ReadsOver isAddressChar s (readGroups sp n first s).2.2 := by
  induction n generalizing first s with
  | zero => exact .refl _ _
  | succ n ih =>
    rw [readGroups]
    split
    · exact .refl _ _
    · -- A group that is not the first has its colon before it.
      rename_i r hr
      have hcolon : ReadsOver isAddressChar s r := by
        split at hr
        · cases hr
          exact .refl _ _
        · rw [eq_cons_of_afterPrefix? hr]
          exact .cons rfl (.refl _ _)
      split
      · rename_i v r' hv
        split at hv
        · cases hv
        · exact hcolon.trans ((readV4?_readsOver hv).mono fun _ => isAddressChar_of_isDottedChar)
      · split
        · exact .refl _ _
        · rename_i g r' hg
          exact (hcolon.trans (readNumeral?_readsOver (by decide) hg)).trans (ih false r')

theorem readV6?_readsOver {v : Nat} (h : readV6? sp s = some (v, r)) :
    ReadsOver isAddressChar s r := by
  have hhead := readGroups_readsOver sp 8 true s
  rw [readV6?] at h
  generalize readGroups sp 8 true s = head at h hhead
  obtain ⟨gs, dotted, r'⟩ := head
  dsimp only at h hhead
  split at h
  · cases h
    exact hhead
  split at h
  · cases h
  split at h
  · -- Behind the two colons of the gap there are groups again.
    cases h
    exact (hhead.trans (.cons rfl (.cons rfl (.refl _ _)))).trans (readGroups_readsOver ..)
  · cases h

/-- Groups behind others begin with a colon. -/
theorem colon_mem_of_readGroups_false {n : Nat} (h : (readGroups sp n false s).1 ≠ []) :
    ':' ∈ s := by
  cases n with
  | zero => exact absurd rfl h
  | succ n =>
    rw [readGroups, if_neg (by decide)] at h
    split at h
    · exact absurd rfl h
    · rename_i r hr
      rw [eq_cons_of_afterPrefix? hr]
      exact List.mem_cons_self

/-- Of more than two groups, the second has a colon before it.  Two may be one dotted address. -/
theorem colon_mem_of_readGroups_true {n : Nat} (h : 2 < (readGroups sp n true s).1.length) :
    ':' ∈ s := by
  cases n with
  | zero => cases h
  | succ n =>
    rw [readGroups, if_pos rfl] at h
    dsimp only at h
    split at h
    · exact absurd h (by simp)
    · split at h
      · cases h
      · rename_i g r' hg
        obtain ⟨q, rfl, -⟩ := Text.readNumeral?_readsOver hg
        rw [List.length_cons] at h
        have hgroups : (readGroups sp n false r').1 ≠ [] := List.ne_nil_of_length_pos (by omega)
        exact List.mem_append_right q (colon_mem_of_readGroups_false hgroups)

theorem colon_mem_of_readV6? {v : Nat} (h : readV6? sp s = some (v, r)) : ':' ∈ s := by
  have hhead := readGroups_readsOver sp 8 true s
  rw [readV6?] at h
  dsimp only at h
  split at h
  · rename_i hlength
    have hgroups : 2 < (readGroups sp 8 true s).1.length := by omega
    exact colon_mem_of_readGroups_true hgroups
  split at h
  · cases h
  split at h
  · rename_i r' hr
    obtain ⟨q, hq, -⟩ := hhead
    rw [hq, hr]
    exact List.mem_append_right q List.mem_cons_self
  · cases h

theorem read?_readsOver {f : Family} {a : Address} (h : read? sp f s = some (a, r)) :
    ReadsOver isAddressChar s r := by
  cases f with
  | v4 =>
    obtain ⟨⟨v, r'⟩, hv, he⟩ := Option.map_eq_some_iff.1 h
    cases he
    exact (readV4?_readsOver hv).mono fun _ => isAddressChar_of_isDottedChar
  | v6 =>
    obtain ⟨⟨v, r'⟩, hv, he⟩ := Option.map_eq_some_iff.1 h
    cases he
    exact readV6?_readsOver hv

theorem family_of_read? {f : Family} {a : Address} (h : read? sp f s = some (a, r)) :
    a.family = f := by
  cases f with
  | v4 | v6 =>
    obtain ⟨_, -, he⟩ := Option.map_eq_some_iff.1 h
    cases he
    rfl

theorem read?_of_parse? {a : Address} (h : parse? s = some a) :
    read? .host a.family s = some (a, []) := by
  rw [parse?] at h
  split at h
  · rename_i hread
    cases h
    rcases Option.or_eq_some_iff.1 hread with hv4 | ⟨-, hv6⟩
    · rw [family_of_read? hv4, hv4]
    · rw [family_of_read? hv6, hv6]
  · cases h

theorem isAddressChar_of_parse? {a : Address} (h : parse? s = some a) :
    ∀ c ∈ s, isAddressChar c = true := (read?_readsOver (read?_of_parse? h)).forall_mem

/-- A host address of the fourth version is dotted. -/
theorem dotted_of_parse? {a : Address} (h : parse? s = some a) (hv4 : a.family = .v4) :
    (∃ c q, s = c :: q ∧ isDigitOf 10 c = true) ∧ '.' ∈ s ∧ ∀ c ∈ s, isDottedChar c = true := by
  have hread := read?_of_parse? h
  rw [hv4] at hread
  obtain ⟨⟨v, r⟩, hv, he⟩ := Option.map_eq_some_iff.1 hread
  obtain rfl : r = [] := (Prod.mk.inj he).2
  obtain ⟨hhead, hperiod⟩ := starts_of_readV4? hv
  exact ⟨hhead, hperiod, (readV4?_readsOver hv).forall_mem⟩

theorem colon_mem_of_parse? {a : Address} (h : parse? s = some a) (hv6 : a.family = .v6) :
    ':' ∈ s := by
  have hread := read?_of_parse? h
  rw [hv6] at hread
  obtain ⟨_, hv, -⟩ := Option.map_eq_some_iff.1 hread
  exact colon_mem_of_readV6? hv

end Address

/-! ### Networks -/

namespace Network

open Address

variable {n : Network}

def isNetworkChar (c : Char) : Bool := isAddressChar c || c == '/'

theorem isNetworkChar_of_isAddressChar (h : isAddressChar c = true) : isNetworkChar c = true := by
  rw [isNetworkChar, h]
  rfl

theorem isNetworkChar_of_parseFamily? {f : Family} (h : parseFamily? f s = some n) :
    ∀ c ∈ s, isNetworkChar c = true := by
  unfold parseFamily? at h
  split at h
  · rename_i a r ha
    split at h
    · rename_i len hlen
      have haddress := (read?_readsOver ha).mono fun _ => isNetworkChar_of_isAddressChar
      have hlength := (readNumeral?_readsOver (by decide) hlen).mono fun _ =>
        isNetworkChar_of_isAddressChar
      exact (haddress.trans (.cons rfl hlength)).forall_mem
    · cases h
  · cases h

theorem isNetworkChar_of_parseSlash? (h : parseSlash? s = some n) :
    ∀ c ∈ s, isNetworkChar c = true := by
  rcases Option.or_eq_some_iff.1 h with hv4 | ⟨-, hv6⟩
  · exact isNetworkChar_of_parseFamily? hv4
  · exact isNetworkChar_of_parseFamily? hv6

theorem isBlank_of_isNetworkChar (h : isNetworkChar c = true) : isBlank c = false := by
  simp only [isNetworkChar, isAddressChar, Bool.or_eq_true, beq_iff_eq] at h
  rcases h with ((hdigit | rfl) | rfl) | rfl
  · have hcode := toNat_of_isDigitOf (Nat.le_refl 16) hdigit
    exact isBlank_of_toNat (by omega)
  all_goals decide

theorem no_comma_of_parseSlash? (h : parseSlash? s = some n) : ',' ∉ s := fun hmem =>
  absurd (isNetworkChar_of_parseSlash? h _ hmem) (by decide)

theorem trim_of_parseSlash? (h : parseSlash? s = some n) : trim s = s :=
  trim_eq_self fun c hc => isBlank_of_isNetworkChar (isNetworkChar_of_parseSlash? h c hc)

/-- A network with its length is read in the same way where white space and host addresses are
allowed. -/
theorem parse?_of_parseSlash? (h : parseSlash? s = some n) : parse? s = some n := by
  rw [parse?, trim_of_parseSlash? h, h]
  rfl

theorem slash_mem_of_parseFamily? {f : Family} (h : parseFamily? f s = some n) : '/' ∈ s := by
  unfold parseFamily? at h
  split at h
  · rename_i a r ha
    obtain ⟨q, rfl, -⟩ := read?_readsOver ha
    exact List.mem_append_right q List.mem_cons_self
  · cases h

theorem slash_mem_of_parseSlash? (h : parseSlash? s = some n) : '/' ∈ s := by
  rcases Option.or_eq_some_iff.1 h with hv4 | ⟨-, hv6⟩
  · exact slash_mem_of_parseFamily? hv4
  · exact slash_mem_of_parseFamily? hv6

/-! ### Networks and bare addresses -/

section
variable (htrim : trim s = s) (h : (parse? s).isSome = true)
include htrim h

theorem parseSlash?_or_parse? :
    (∃ n, parseSlash? s = some n) ∨ parseSlash? s = none ∧ ∃ a, Address.parse? s = some a := by
  obtain ⟨n, hn⟩ := Option.isSome_iff_exists.1 h
  rw [parse?, htrim] at hn
  rcases Option.or_eq_some_iff.1 hn with hslash | ⟨hnone, haddress⟩
  · exact .inl ⟨n, hslash⟩
  · obtain ⟨a, ha, -⟩ := Option.map_eq_some_iff.1 haddress
    exact .inr ⟨hnone, a, ha⟩

theorem isNetworkChar_of_parse? : ∀ c ∈ s, isNetworkChar c = true := by
  rcases parseSlash?_or_parse? htrim h with ⟨n, hn⟩ | ⟨-, a, ha⟩
  · exact isNetworkChar_of_parseSlash? hn
  · exact fun c hc => isNetworkChar_of_isAddressChar (isAddressChar_of_parse? ha c hc)

/-- A network is written with a slash just when it has a length. -/
theorem slash_mem_iff : '/' ∈ s ↔ (parseSlash? s).isSome = true := by
  rcases parseSlash?_or_parse? htrim h with ⟨n, hn⟩ | ⟨hnone, a, ha⟩
  · simp [hn, slash_mem_of_parseSlash? hn]
  · have hslash : '/' ∉ s := fun hmem => absurd (isAddressChar_of_parse? ha _ hmem) (by decide)
    simp [hnone, hslash]

/-- A network is a bare address of the fourth version just when it is written with a period, and
with neither slash nor colon. -/
theorem isV4_iff : (∃ a, Address.parse? s = some a ∧ a.family = .v4) ↔
    '.' ∈ s ∧ '/' ∉ s ∧ ':' ∉ s := by
  constructor
  · rintro ⟨a, ha, hv4⟩
    obtain ⟨-, hperiod, hchars⟩ := dotted_of_parse? ha hv4
    exact ⟨hperiod, fun hmem => absurd (hchars _ hmem) (by decide),
      fun hmem => absurd (hchars _ hmem) (by decide)⟩
  · rintro ⟨-, hslash, hcolon⟩
    rcases parseSlash?_or_parse? htrim h with ⟨n, hn⟩ | ⟨-, a, ha⟩
    · exact absurd (slash_mem_of_parseSlash? hn) hslash
    · refine ⟨a, ha, ?_⟩
      cases hfamily : a.family with
      | v4 => rfl
      | v6 => exact absurd (colon_mem_of_parse? ha hfamily) hcolon

end

end Network
end RuleSets
