import RuleSets.Data.Json.Printer
import RuleSets.Data.Json.Reader
import RuleSets.Proofs.Text.Numeral

/-!
# Strings and integers read back

A quoted string and the digits of an integer are read back, whatever follows them
(`readString?_quote`, `readNumber?_decimal`); behind an integer only what cannot be a part of it
may stand (`Ends`).
-/

namespace RuleSets

namespace Json

/-! ### Strings -/

theorem readString?_escapeChar (c : Char) (s : Text) :
    readString? (escapeChar c ++ s) = (readString? s).map fun (t, r) => (c :: t, r) := by
  unfold escapeChar
  split
  · subst_vars; rfl
  split
  · subst_vars; rfl
  split
  · subst_vars; rfl
  split
  · subst_vars; rfl
  split
  · subst_vars; rfl
  split
  · subst_vars; rfl
  split
  · subst_vars; rfl
  rename_i hquote hslash _ _ _ _ _
  split
  · rename_i hlow
    have hhex : ∀ m : Fin 32, hex4? '0' '0' (m.val / 16).digitChar (m.val % 16).digitChar =
        some m.val := by decide
    have hn := hhex ⟨c.toNat, hlow⟩
    simp only [hexByte, List.cons_append, List.nil_append]
    rw [readString?.eq_def]
    simp only [hn]
    rw [if_neg (by omega), if_neg (by omega), Char.ofNat_toNat]
  · rename_i hlow
    rw [List.singleton_append, readString?]
    · rw [if_neg (not_or.2 ⟨hslash, hlow⟩)]
    · exact hquote
    · exact fun _ _ _ _ _ h => absurd h hslash
    · exact fun _ _ h => absurd h hslash

/-- A quoted string is read back with what follows it. -/
theorem readString?_quote (s r : Text) :
    readString? (s.flatMap escapeChar ++ '"' :: r) = some (s, r) := by
  induction s with
  | nil => rfl
  | cons c s ih => rw [List.flatMap_cons, List.append_assoc, readString?_escapeChar, ih]; rfl

/-! ### Integers -/

/-- Whether a text goes on with nothing that could be a part of a number. -/
def Ends (r : Text) : Prop := ∀ c ∈ r.head?, c.isDigit = false ∧ c ≠ '.' ∧ c ≠ 'e' ∧ c ≠ 'E'

theorem takeWhile_digits {ds r : Text} (hds : ∀ c ∈ ds, c.isDigit = true) (hr : Ends r) :
    (ds ++ r).takeWhile Char.isDigit = ds ∧ (ds ++ r).dropWhile Char.isDigit = r := by
  have hhead : ∀ c ∈ r.head?, c.isDigit = false := fun c hc => (hr c hc).1
  exact ⟨Text.takeWhile_append_of_head hds hhead, Text.dropWhile_append_of_head hds hhead⟩

/-- Digits are all added while the number that they make stays in range. -/
theorem addDigits_eq {m : Nat} {ds : Text}
    (h : ds.foldl (fun n c => n * 10 + Text.digitValue c) m ≤ maxSignificand) :
    addDigits m ds = (ds.foldl (fun n c => n * 10 + Text.digitValue c) m, ds.length, 0) := by
  have grows (m : Nat) (ds : Text) :
      m ≤ ds.foldl (fun n c => n * 10 + Text.digitValue c) m := by
    induction ds generalizing m with
    | nil => exact Nat.le_refl m
    | cons c ds ih => exact Nat.le_trans (by omega) (ih (m * 10 + Text.digitValue c))
  induction ds generalizing m with
  | nil => rfl
  | cons c ds ih =>
    rw [List.foldl_cons] at h
    have hle := Nat.le_trans (grows _ ds) h
    simp only [addDigits]
    rw [if_neg (Nat.not_lt.2 hle), ih h]
    rfl

theorem readFraction?_of_ends {r : Text} (h : Ends r) : readFraction? r = some (none, r) := by
  rw [readFraction?.eq_def]
  split
  · exact absurd rfl (h '.' rfl).2.1
  · rfl

theorem readExponent?_of_ends {r : Text} (h : Ends r) : readExponent? r = some (none, r) := by
  cases r with
  | nil => rfl
  | cons c r =>
    obtain ⟨-, -, he, hE⟩ := h c rfl
    rw [readExponent?.eq_def]
    exact if_neg fun h => h.elim he hE

theorem readNumber?_decimal {n : Nat} {r : Text} (negative : Bool) (hn : n ≤ maxSignificand)
    (hr : Ends r) : readNumber? negative (Text.decimal n ++ r) =
      if !negative then some (.int n, r)
      else if n ≠ 0 ∧ n ≤ Nat.pow 2 63 then some (.int (-n), r)
      else some (.float (spelling negative (Text.decimal n ++ r) r), r) := by
  obtain ⟨htake, hdrop⟩ := takeWhile_digits (fun c => Text.isDigit_of_mem_decimal (n := n)) hr
  have hvalue : (Text.decimal n).foldl (fun n c => n * 10 + Text.digitValue c) 0 = n :=
    Text.valueOf_numeral (by omega) (by omega) n
  have hadd : addDigits 0 (Text.decimal n) = (n, (Text.decimal n).length, 0) := by
    rw [addDigits_eq (by rw [hvalue]; exact hn), hvalue]
  have hfront : ((Text.decimal n).isEmpty ||
      ((Text.decimal n).head? == some '0' && decide ((Text.decimal n).length ≠ 1))) = false := by
    rw [Bool.or_eq_false_iff]
    refine ⟨by simpa using Text.decimal_ne_nil n, ?_⟩
    by_cases hz : (Text.decimal n).head? = some '0'
    · rw [Text.head?_decimal hz]; rfl
    · simp [hz]
  simp only [readNumber?, htake, hdrop, hadd, hfront, readFraction?_of_ends hr,
    readExponent?_of_ends hr, bind, Option.bind]
  rfl

theorem decimal_eq_cons (n : Nat) : ∃ c ds, Text.decimal n = c :: ds ∧ c.isDigit = true := by
  cases h : Text.decimal n with
  | nil => exact absurd h (Text.decimal_ne_nil n)
  | cons c ds => exact ⟨c, ds, rfl, Text.isDigit_of_mem_decimal (h ▸ List.mem_cons_self ..)⟩

end Json
end RuleSets
