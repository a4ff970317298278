import RuleSets.Text.Basic

/-!
# Shell commands

What a script of the shell says.  A word is a list of pieces, of which some are text and some stand
for text that is only known when the word is used.  Commands know the line on which they stand.
-/

namespace RuleSets.Shell

/-- How a file is opened for a redirection. -/
inductive Access where
  | input
  | output
  /-- Like `output`, even where an existing file is protected. -/
  | overwrite
  | append
  | both
deriving DecidableEq, Repr

/-- What is done with the word behind a parameter. -/
inductive Otherwise where
  /-- It stands for a value that is missing. -/
  | useWord
  /-- It becomes the value that is missing. -/
  | assignWord
  /-- It tells that the value is missing, which ends the shell. -/
  | complain
  /-- It stands for a value that is there. -/
  | replaceValue
deriving DecidableEq, Repr

mutual
/-- A piece of a word. -/
inductive Piece where
  /-- Text as it stands; in a pattern its stars and question marks are wild. -/
  | plain (s : Text)
  /-- Text whose characters stand for themselves. -/
  | quoted (s : Text)
  /-- A quotation mark, which makes even an empty text an argument. -/
  | mark
  /-- The value of a parameter. -/
  | parameter (inQuotes : Bool) (name : Text) (use : Use)
  /-- What a command prints. -/
  | output (inQuotes : Bool) (c : Command)
  /-- The value of an expression. -/
  | arithmetic (inQuotes : Bool) (expression : List Piece)
  /-- Something like a parameter that means nothing. -/
  | malformed

/-- What is made of the value of a parameter. -/
inductive Use where
  | whole
  | length
  | otherwise (how : Otherwise) (orEmpty : Bool) (word : List Piece)
  /-- Take off what a pattern matches at one end. -/
  | trim (atEnd longest : Bool) (pattern : List Piece)

/-- A redirection. -/
inductive Redirect where
  | file (descriptor : Nat) (access : Access) (target : List Piece)
  | duplicate (descriptor : Nat) (source : List Piece)
  /-- Input that stands in the script; it is known by a number. -/
  | document (descriptor : Nat) (number : Nat)

/-- A command. -/
inductive Command where
  | nothing
  | simple (line : Nat) (assignments : List (Text × List Piece)) (words : List (List Piece))
      (redirects : List Redirect)
  | both (first second : Command)
  | ifOk (first second : Command)
  | ifFailed (first second : Command)
  | negated (c : Command)
  | pipeline (parts : List Command) (inBackground : Bool)
  | redirected (line : Nat) (c : Command) (redirects : List Redirect)
  | subshell (line : Nat) (c : Command) (redirects : List Redirect)
  | background (line : Nat) (c : Command) (redirects : List Redirect)
  | branch (condition yes no : Command)
  | loop (untilOk : Bool) (condition body : Command)
  | each (line : Nat) (name : Text) (words : List (List Piece)) (body : Command)
  | choice (line : Nat) (word : List Piece) (cases : List (List (List Piece) × Command))
  | define (line : Nat) (name : Text) (body : Command)
end

instance : Inhabited Command := ⟨.nothing⟩
instance : Inhabited Piece := ⟨.mark⟩

/-- A word. -/
abbrev Word := List Piece

/-- Whether a character may stand in a name. -/
def isNameChar (c : Char) : Bool := c.isAlphanum || c == '_'

/-- Whether a character may begin a name. -/
def isNameStart (c : Char) : Bool := c.isAlpha || c == '_'

/-- Whether a text is a name. -/
def isName (s : Text) : Bool := s.head?.any isNameStart && s.all isNameChar

/-- Whether a character is the name of a parameter that the shell sets itself. -/
def isSpecial (c : Char) : Bool := c.isDigit || "@*#?-$!".toList.contains c

/-- The commands that belong to the shell so much that a failure of theirs ends it. -/
def specialNames : List Text :=
  [":", ".", "break", "continue", "eval", "exec", "exit", "export", "local", "readonly", "return",
    "set", "shift", "times", "trap", "unset"].map String.toList

/-- Whether a command belongs to the shell so much that a failure of it ends the shell. -/
def isSpecialName (s : Text) : Bool := specialNames.contains s

/-- The text of a word in which nothing is quoted or expanded. -/
def Word.bare? : Word → Option Text
  | [] => some []
  | .plain s :: w => (bare? w).map (s ++ ·)
  | _ => none

/-- The name and the value of an assignment, if a word is one. -/
def Word.assignment? : Word → Option (Text × Word)
  | .plain s :: w =>
    let name := s.takeWhile isNameChar
    match s.drop name.length with
    | '=' :: value =>
      if isName name then some (name, if value.isEmpty then w else .plain value :: w) else none
    | _ => none
  | _ => none

end RuleSets.Shell
