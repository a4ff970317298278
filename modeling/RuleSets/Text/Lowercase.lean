import RuleSets.Text.Basic
import RuleSets.Text.Lowercase.Table

/-!
# Lower case

The full lower-case mapping of Unicode on texts.  Characters map one by one, except that capital I
with a dot becomes two characters and that capital sigma takes its final form at the end of a word.
-/

namespace RuleSets.Text

/-- Whether `n` lies in one of the sorted, disjoint ranges. -/
def inRanges (n : Nat) : List (Nat × Nat) → Bool
  | [] => false
  | (lo, hi) :: rest => if n ≤ hi then decide (lo ≤ n) else inRanges n rest

/-- The code point of the lower-case form of `n`, by a table of sorted, disjoint runs. -/
def lowerCode (n : Nat) : List CaseRun → Nat
  | [] => n
  | r :: rest =>
    if n ≤ r.last then
      if r.first ≤ n ∧ (n - r.first) % r.step = 0 then ((n : Int) + r.offset).toNat else n
    else lowerCode n rest

/-- Whether a character has a case. -/
def isCased (c : Char) : Bool := inRanges c.toNat casedRanges

/-- Whether a character is looked through when deciding whether a sigma ends a word. -/
def isCaseIgnorable (c : Char) : Bool := inRanges c.toNat caseIgnorableRanges

/-- The lower-case form of a character outside any context. -/
def lowerChar (c : Char) : Text :=
  if c = '\u0130' then ['i', '\u0307']
  else if c = 'Σ' then ['σ']
  else [Char.ofNat (lowerCode c.toNat caseRuns)]

/-- Whether the first character that is not case-ignorable is cased. -/
def meetsCased (s : Text) : Bool :=
  match s.dropWhile isCaseIgnorable with
  | [] => false
  | c :: _ => isCased c

/-- Lower-case `s`, given the characters before it in reverse.  A capital sigma is final when a
cased character comes before it and none after it, case-ignorable ones not counting. -/
def lowerFrom (before : Text) : Text → Text
  | [] => []
  | c :: s =>
    (if c = 'Σ' && meetsCased before && !meetsCased s then ['ς'] else lowerChar c) ++
      lowerFrom (c :: before) s

/-- The lower-case form of a text. -/
def lower (s : Text) : Text := lowerFrom [] s

end RuleSets.Text
