import Mathlib.Data.List.DropRight
import Mathlib.Data.List.TakeWhile
import RuleSets.Text.Basic

/-!
# Trimmed texts

Trimming changes just the texts that begin or end with white space (`trim_eq_self_iff`), so it
changes nothing the second time (`trim_trim`).
-/

namespace RuleSets.Text

variable {s p q : Text}

theorem dropWhile_eq_self_iff {p : Char → Bool} :
    s.dropWhile p = s ↔ ∀ c ∈ s.head?, p c = false := by
  constructor
  · intro h c hc
    have hnot := List.head?_dropWhile_not p s
    rw [h, Option.mem_def.1 hc] at hnot
    exact hnot
  · intro h
    cases s with
    | nil => rfl
    | cons c s => rw [List.dropWhile_cons, h c rfl, if_neg (by decide)]

theorem dropWhile_dropWhile (p : Char → Bool) (s : Text) :
    (s.dropWhile p).dropWhile p = s.dropWhile p := by
  refine dropWhile_eq_self_iff.2 fun c hc => ?_
  have hnot := List.head?_dropWhile_not p s
  rw [Option.mem_def.1 hc] at hnot
  exact hnot

section
variable {p : Char → Bool} {t : Text} (hs : ∀ c ∈ s, p c = true) (ht : ∀ c ∈ t.head?, p c = false)
include hs ht

theorem takeWhile_append_of_head : (s ++ t).takeWhile p = s := by
  rw [List.takeWhile_append_of_pos hs]
  cases t with
  | nil => exact List.append_nil s
  | cons c t => rw [List.takeWhile_cons, ht c rfl, if_neg (by decide), List.append_nil]

theorem dropWhile_append_of_head : (s ++ t).dropWhile p = t := by
  rw [List.dropWhile_append_of_pos hs, dropWhile_eq_self_iff.2 ht]

end

theorem isBlank_of_toNat {c : Char} (h : 0x20 < c.toNat ∧ c.toNat < 0x85) : isBlank c = false := by
  simp only [isBlank, Bool.or_eq_false_iff, Bool.and_eq_false_iff, decide_eq_false_iff_not,
    beq_eq_false_iff_ne]
  omega

theorem trim_sublist (s : Text) : (trim s).Sublist s := by
  have hend : (trimEnd (trimStart s)).Sublist (trimStart s) := by
    rw [trimEnd, ← List.reverse_sublist, List.reverse_reverse]
    exact List.dropWhile_sublist isBlank
  exact hend.trans (List.dropWhile_sublist isBlank)

theorem mem_of_mem_trim {c : Char} (h : c ∈ trim s) : c ∈ s := (trim_sublist s).subset h

/-- The end of a text can be trimmed before its start. -/
theorem trimStart_trimEnd (h : trimStart s = s) : trimStart (trimEnd s) = trimEnd s := by
  refine dropWhile_eq_self_iff.2 fun c hc => ?_
  have hprefix : trimEnd s <+: s := by
    have := List.dropWhile_suffix (l := s.reverse) isBlank
    rwa [← List.reverse_prefix, List.reverse_reverse] at this
  obtain ⟨q, hq⟩ := hprefix
  have hhead : c ∈ s.head? := by
    rw [← hq, List.head?_append, Option.mem_def.1 hc]
    rfl
  exact dropWhile_eq_self_iff.1 h c hhead

theorem trimStart_trim (s : Text) : trimStart (trim s) = trim s :=
  trimStart_trimEnd (dropWhile_dropWhile isBlank s)

theorem trim_trim (s : Text) : trim (trim s) = trim s := by
  rw [trim, trimStart_trim, trim, trimEnd, trimEnd, List.reverse_reverse, dropWhile_dropWhile]

/-! ### White space around a text -/

theorem trimStart_append (hp : ∀ c ∈ p, isBlank c = true) : trimStart (p ++ s) = trimStart s :=
  List.dropWhile_append_of_pos hp

theorem trimEnd_append (hq : ∀ c ∈ q, isBlank c = true) : trimEnd (s ++ q) = trimEnd s := by
  have hq' : ∀ c ∈ q.reverse, isBlank c = true := fun c hc => hq c (List.mem_reverse.1 hc)
  rw [trimEnd, List.reverse_append, List.dropWhile_append_of_pos hq', trimEnd]

theorem trim_append (hp : ∀ c ∈ p, isBlank c = true) (hq : ∀ c ∈ q, isBlank c = true) :
    trim (p ++ s ++ q) = trim s := by
  rw [trim, List.append_assoc, trimStart_append hp, trim, trimStart, trimStart, List.dropWhile_append]
  split
  · rename_i hempty
    rw [List.isEmpty_iff.1 hempty, List.dropWhile_eq_nil_iff.2 hq]
  · exact trimEnd_append hq

theorem trimEnd_cons {c : Char} (hc : isBlank c = false) : trimEnd (c :: s) = c :: trimEnd s := by
  rw [trimEnd, List.reverse_cons, List.dropWhile_append, trimEnd]
  split
  · rename_i hempty
    rw [List.isEmpty_iff.1 hempty, List.dropWhile_cons, hc]
    rfl
  · rw [List.reverse_append]
    rfl

/-- What is trimmed off the end of a text is white space. -/
theorem exists_eq_trimEnd_append (s : Text) :
    ∃ q, s = trimEnd s ++ q ∧ ∀ c ∈ q, isBlank c = true :=
  ⟨s.rtakeWhile isBlank, List.rdropWhile_append_rtakeWhile.symm,
    fun _ hc => List.mem_rtakeWhile_imp hc⟩

theorem trimEnd_eq_self_iff : trimEnd s = s ↔ ∀ c ∈ s.getLast?, isBlank c = false := by
  rw [trimEnd, List.reverse_eq_iff, dropWhile_eq_self_iff, List.head?_reverse]

/-! ### Trimmed texts -/

/-- Whether a text neither begins nor ends with white space. -/
def IsTrimmed (s : Text) : Prop :=
  (∀ c ∈ s.head?, isBlank c = false) ∧ ∀ c ∈ s.getLast?, isBlank c = false

theorem trim_eq_self_iff : trim s = s ↔ IsTrimmed s := by
  have hstart : trimStart s = s ↔ ∀ c ∈ s.head?, isBlank c = false := dropWhile_eq_self_iff
  constructor
  · intro h
    have hhead := trimStart_trim s
    rw [h] at hhead
    rw [trim, hhead] at h
    exact ⟨hstart.1 hhead, trimEnd_eq_self_iff.1 h⟩
  · rintro ⟨hhead, hlast⟩
    rw [trim, hstart.2 hhead]
    exact trimEnd_eq_self_iff.2 hlast

theorem isTrimmed_trim (s : Text) : IsTrimmed (trim s) := trim_eq_self_iff.1 (trim_trim s)

theorem trim_eq_self (h : ∀ c ∈ s, isBlank c = false) : trim s = s :=
  trim_eq_self_iff.2
    ⟨fun c hc => h c (List.mem_of_mem_head? hc), fun c hc => h c (List.mem_of_getLast? hc)⟩

end RuleSets.Text
