import RuleSets.Text.Numeral

/-!
# Durations

The text of a span of time: the largest unit of which there is at least one, with a fraction of up
to three places that does not end in a zero.
-/

namespace RuleSets.Text

/-- The three decimal places of a number of thousandths, without zeros at the end. -/
def thousandths (n : Nat) : Text :=
  let ds := decimal n
  ((List.replicate (3 - ds.length) '0' ++ ds).reverse.dropWhile (· == '0')).reverse

/-- The text of a number of milliseconds. -/
def duration (milliseconds : Nat) : Text :=
  if milliseconds = 0 then "0ns".toList
  else if milliseconds < 1000 then decimal milliseconds ++ "ms".toList
  else if milliseconds % 1000 = 0 then decimal (milliseconds / 1000) ++ ['s']
  else decimal (milliseconds / 1000) ++ '.' :: thousandths (milliseconds % 1000) ++ ['s']

end RuleSets.Text
