import RuleSets.Text.Basic

/-!
# Content lines and rule lines

Rule lists are read line by line.  A content line is a trimmed line that is neither empty nor a `#`
comment.  An item may carry a list marker, a `['…']` wrapper or quotes, which `cleanItem` takes off.
A rule line is `TYPE,VALUE` with anything after a second comma.
-/

namespace RuleSets.Text

/-- Drop one leading byte order mark. -/
def dropMark : Text → Text
  | '\ufeff' :: s => s
  | s => s

/-- Whether a trimmed line carries content. -/
def isContent : Text → Bool
  | [] => false
  | c :: _ => c != '#'

/-- The trimmed lines that are neither empty nor comments.  Trimming also takes off the carriage
return of a `\r\n` ending. -/
def contentLines (s : Text) : List Text :=
  ((splitBy (· == '\n') (dropMark s)).map trim).filter isContent

/-- Take off a `['` before and a `']` after, if both are there. -/
def unwrapItem (s : Text) : Text :=
  match (afterPrefix? ['[', '\''] s).bind (beforeSuffix? ['\'', ']']) with
  | some inner => trim inner
  | none => s

/-- Take off a pair of the quote `q` around `s`, if it is there. -/
def unquoteItem (q : Char) : Text → Text
  | c :: s => if c = q ∧ s.getLast? = some q then trim s.dropLast else c :: s
  | [] => []

/-- Strip the list markers, then a `['…']` wrapper, then matching single and double quotes. -/
def cleanItem (s : Text) : Text :=
  unquoteItem '"' (unquoteItem '\'' (unwrapItem (trim ((trim s).dropWhile (· == '-')))))

/-- The characters of a rule type after its first letter. -/
def isTypeChar (c : Char) : Bool := c.isAlphanum || c == '-'

/-- The first two comma-separated fields of a rule line.  The first must be a letter followed by
letters, digits and hyphens, with white space allowed before the comma; the second is trimmed. -/
def splitRule? (line : Text) : Option (Text × Text) :=
  match line.takeWhile isTypeChar, (line.dropWhile isTypeChar).dropWhile isBlank with
  | c :: name, ',' :: rest =>
    if c.isAlpha then some (c :: name, trim (rest.takeWhile (· != ','))) else none
  | _, _ => none

end RuleSets.Text
