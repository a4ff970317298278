import Mathlib.Algebra.Group.Nat.Defs
import RuleSets.Proofs.Text.Trim
import RuleSets.Text.Numeral

/-!
# Numerals read back

A written number is read back with what follows it, if that does not go on with a digit
(`readNumeral?_numeral`).
-/

namespace RuleSets.Text

variable {base n : Nat} {c : Char} {r : Text}

theorem exists_of_mem_numeral (hbase : 1 < base) (h : c ∈ numeral base n) :
    ∃ d < base, c = d.digitChar := by
  induction n using Nat.strongRecOn with
  | ind n ih =>
    by_cases hn : n < base
    · rw [numeral, Nat.toDigits_of_lt_base hn] at h
      exact ⟨n, hn, List.mem_singleton.1 h⟩
    · rw [numeral, Nat.toDigits_of_base_le hbase (by omega), List.mem_append] at h
      rcases h with h | h
      · exact ih (n / base) (Nat.div_lt_self (by omega) hbase) h
      · exact ⟨n % base, Nat.mod_lt n (by omega), List.mem_singleton.1 h⟩

theorem isDigitOf_digitChar {d : Nat} (hd : d < base) (hbase : base ≤ 16) :
    isDigitOf base d.digitChar = true := by
  rw [isDigitOf, digitValue_digitChar (by omega)]
  exact decide_eq_true hd

theorem isDigitOf_of_mem_numeral (h₁ : 1 < base) (h₂ : base ≤ 16) (h : c ∈ numeral base n) :
    isDigitOf base c = true := by
  obtain ⟨d, hd, rfl⟩ := exists_of_mem_numeral h₁ h
  exact isDigitOf_digitChar hd h₂

/-- Whether a text goes on with no digit. -/
def EndsDigits (base : Nat) (r : Text) : Prop := ∀ c ∈ r.head?, isDigitOf base c = false

/-- A number of few enough digits is read back. -/
theorem readNumeral?_numeral {maxDigits bound : Nat} (h₁ : 1 < base) (h₂ : base ≤ 16)
    (hn : n < bound) (hpos : 0 < maxDigits) (hdigits : n < base ^ maxDigits)
    (hr : EndsDigits base r) :
    readNumeral? base maxDigits bound (numeral base n ++ r) = some (n, r) := by
  have hall : ∀ c ∈ numeral base n, isDigitOf base c = true :=
    fun c hc => isDigitOf_of_mem_numeral h₁ h₂ hc
  have htake : (numeral base n ++ r).takeWhile (isDigitOf base) = numeral base n :=
    takeWhile_append_of_head hall hr
  have hdrop : (numeral base n ++ r).dropWhile (isDigitOf base) = r :=
    dropWhile_append_of_head hall hr
  have hlength : (numeral base n).length ≤ maxDigits :=
    (Nat.length_toDigits_le_iff h₁ hpos).2 hdigits
  have hne : (numeral base n).isEmpty = false := List.isEmpty_eq_false_iff.2 Nat.toDigits_ne_nil
  rw [readNumeral?]
  simp only [htake, hdrop, valueOf_numeral h₁ h₂, hne]
  rw [if_neg (by simp; omega)]

theorem readNumeral?_none {maxDigits bound : Nat} (hr : EndsDigits base r) :
    readNumeral? base maxDigits bound r = none := by
  have htake : r.takeWhile (isDigitOf base) = [] :=
    takeWhile_append_of_head (List.forall_mem_nil _) hr
  rw [readNumeral?, htake]
  rfl

/-! ### Decimal digits -/

theorem decimal_of_lt {n : Nat} (h : n < 10) : decimal n = [n.digitChar] :=
  Nat.toDigits_of_lt_base h

theorem decimal_of_not_lt {n : Nat} (h : ¬ n < 10) :
    decimal n = decimal (n / 10) ++ [(n % 10).digitChar] :=
  Nat.toDigits_of_base_le (by omega) (by omega)

theorem isDigit_of_mem_decimal {n : Nat} {c : Char} (h : c ∈ decimal n) : c.isDigit = true :=
  Nat.isDigit_of_mem_toDigits (by decide) (by decide) h

theorem decimal_ne_nil (n : Nat) : decimal n ≠ [] := Nat.toDigits_ne_nil

theorem head?_decimal {n : Nat} (h : (decimal n).head? = some '0') : n = 0 := by
  induction n using Nat.strongRecOn with
  | ind n ih =>
    by_cases hn : n < 10
    · have hdigits : ∀ m : Fin 10, m.val.digitChar = '0' → m.val = 0 := by decide
      rw [decimal_of_lt hn, List.head?_cons] at h
      exact hdigits ⟨n, hn⟩ (Option.some.inj h)
    · obtain ⟨c, ds, hds⟩ := List.exists_cons_of_ne_nil (decimal_ne_nil (n / 10))
      rw [decimal_of_not_lt hn, hds] at h
      have hzero := ih (n / 10) (by omega) (by rw [hds]; exact h)
      omega

end RuleSets.Text
