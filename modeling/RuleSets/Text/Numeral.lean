import RuleSets.Text.Basic

/-!
# Numerals

Reading and writing natural numbers in a base up to sixteen.  `readNumeral?` takes every digit it
can and then checks how many there were and how large the number is; `valueOf_numeral` says that a
written number is read back.
-/

namespace RuleSets.Text

/-- The value of a digit, letters of both cases standing for ten to fifteen. -/
def digitValue (c : Char) : Nat :=
  if c.isDigit then c.toNat - '0'.toNat
  else if 'a' ≤ c ∧ c ≤ 'f' then c.toNat - 'a'.toNat + 10
  else if 'A' ≤ c ∧ c ≤ 'F' then c.toNat - 'A'.toNat + 10
  else 16

/-- Whether `c` is a digit in the given base. -/
def isDigitOf (base : Nat) (c : Char) : Bool := digitValue c < base

/-- The number that a row of digits stands for. -/
def valueOf (base : Nat) (ds : Text) : Nat :=
  ds.foldl (fun n c => n * base + digitValue c) 0

/-- Read as many digits as there are.  Fails when there is none, more than `maxDigits`, or when the
number is not below `bound`. -/
def readNumeral? (base maxDigits bound : Nat) (s : Text) : Option (Nat × Text) :=
  let ds := s.takeWhile (isDigitOf base)
  let n := valueOf base ds
  if ds.isEmpty || maxDigits < ds.length || bound ≤ n then none
  else some (n, s.dropWhile (isDigitOf base))

/-- The digits of a number, lower case. -/
def numeral (base n : Nat) : Text := Nat.toDigits base n

/-- The decimal digits of a number. -/
def decimal (n : Nat) : Text := numeral 10 n

/-- The decimal digits of an integer, with a minus sign if it is negative. -/
def decimalInt : Int → Text
  | .ofNat n => decimal n
  | .negSucc n => '-' :: decimal (n + 1)

theorem digitValue_digitChar {n : Nat} (h : n < 16) : digitValue n.digitChar = n := by
  have : ∀ m : Fin 16, digitValue (m.val.digitChar) = m.val := by decide
  exact this ⟨n, h⟩

theorem valueOf_append (base : Nat) (a b : Text) :
    valueOf base (a ++ b) = b.foldl (fun n c => n * base + digitValue c) (valueOf base a) := by
  simp [valueOf, List.foldl_append]

theorem valueOf_numeral {base : Nat} (h₁ : 1 < base) (h₂ : base ≤ 16) (n : Nat) :
    valueOf base (numeral base n) = n := by
  induction n using Nat.strongRecOn with
  | ind n ih =>
    by_cases hn : n < base
    · rw [numeral, Nat.toDigits_of_lt_base hn]
      simp [valueOf, digitValue_digitChar (by omega : n < 16)]
    · have hlt : n / base < n := Nat.div_lt_self (by omega) h₁
      rw [numeral, Nat.toDigits_of_base_le h₁ (by omega), valueOf_append]
      have := ih _ hlt
      rw [numeral] at this
      rw [this]
      have hm : n % base < 16 := Nat.lt_of_lt_of_le (Nat.mod_lt n (by omega)) h₂
      simp only [List.foldl_cons, List.foldl_nil, digitValue_digitChar hm]
      rw [Nat.mul_comm]
      exact Nat.div_add_mod n base

end RuleSets.Text
