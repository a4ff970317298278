import RuleSets.Shell.Command

/-!
# Scripts as they are read

How far a script has been read, and its tokens.  A backslash before the end of a line joins the line
with the next one wherever it is not quoted.
-/

namespace RuleSets.Shell

/-- What is wrong with a script, and in which line. -/
structure Mistake where
  line : Nat
  text : Text

/-- Where a redirection leads, as its operator says. -/
inductive ArrowKind where
  | file (access : Access)
  | duplicate
  | document (stripsTabs : Bool)

/-- A redirection operator with its descriptor. -/
structure Arrow where
  descriptor : Nat
  kind : ArrowKind

/-- A token. -/
inductive Token where
  | finish
  | newline
  | operator (s : Text)
  | arrow (a : Arrow)
  | word (w : Word) (isQuoted : Bool)
  | reserved (s : Text)

namespace Token

/-- How a token is called in complaints. -/
def name : Token → Text
  | finish => "end of file".toList
  | newline => "newline".toList
  | operator s | reserved s => '"' :: s ++ ['"']
  | arrow _ => "redirection".toList
  | word _ _ => "word".toList

/-- Any word. -/
def anyWord : Token := word [] false

/-- Whether a token is an operator. -/
def isOperator (t : Token) (s : String) : Bool :=
  match t with
  | operator o => o == s.toList
  | _ => false

/-- Whether a token is a reserved word. -/
def isReserved (t : Token) (s : String) : Bool :=
  match t with
  | reserved o => o == s.toList
  | _ => false

/-- Whether a list of commands may end before a token. -/
def endsList : Token → Bool
  | finish => true
  | operator s => s == ")".toList || s == ";;".toList
  | reserved s =>
    (["do", "done", "elif", "else", "esac", "fi", "then", "\x7d"].map String.toList).contains s
  | _ => false

end Token

/-- The reserved words. -/
def reservedWords : List Text :=
  ["!", "case", "do", "done", "elif", "else", "esac", "fi", "for", "if", "in", "then", "until",
    "while", "\x7b", "\x7d"].map String.toList

/-- A document that has been announced and begins after the end of the line. -/
structure Announced where
  number : Nat
  delimiter : Text
  stripsTabs : Bool
  isQuoted : Bool

/-- A script that is being read. -/
structure Source where
  rest : Text
  line : Nat
  /-- A token that has been read but not been used. -/
  pushed? : Option Token
  announced : List Announced
  /-- The documents that have been read. -/
  documents : List (Nat × Word)
  /-- The number of the next document. -/
  next : Nat
  aliases : List (Text × Text)
  /-- The aliases that are being read, how much follows them, and whether they end in a blank. -/
  expanding : List (Text × Nat × Bool)

/-- A piece of a reader. -/
abbrev Reading := StateT Source (Except Mistake)

namespace Reading

/-- Complain about the script. -/
def fail (text : Text) : Reading α := do throw ⟨(← get).line, text⟩

/-- Complain about a token. -/
def unexpected (t : Token) : Reading α := fail (t.name ++ " unexpected".toList)

/-- Complain about a token where another one should be. -/
def expecting (wanted : Token) (t : Token) : Reading α :=
  fail (t.name ++ " unexpected (expecting ".toList ++ wanted.name ++ [')'])

/-- Pass the joins of lines, and count them. -/
def pastJoins : Text → Nat → Text × Nat
  | '\\' :: '\n' :: s, n => pastJoins s (n + 1)
  | s, n => (s, n)

/-- The next character. -/
def peek? : Reading (Option Char) := do
  let src ← get
  let (rest, joins) := pastJoins src.rest 0
  set { src with rest := rest, line := src.line + joins }
  return rest.head?

/-- The number of ends of lines in a text. -/
def lineCount (t : Text) : Nat := t.count '\n'

/-- Pass the next `n` characters. -/
def skip (n : Nat) : Reading Unit :=
  modify fun src =>
    { src with rest := src.rest.drop n, line := src.line + lineCount (src.rest.take n) }

/-- Pass the next characters while they satisfy `p`, and say which they are. -/
def takeWhile (p : Char → Bool) : Reading Text := do
  let t := (← get).rest.takeWhile p
  skip t.length
  return t

/-- Pass a character if it is the next one, and say whether it was. -/
def accept (c : Char) : Reading Bool := do
  if (← peek?) == some c then
    skip 1
    return true
  else return false

/-- Give a token back. -/
def push (t : Token) : Reading Unit := modify ({ · with pushed? := some t })

/-- The line that has been reached. -/
def line : Reading Nat := return (← get).line

end Reading

/-- Where the text of a word stands. -/
inductive PlaceKind where
  | word
  /-- The word that ends a document; nothing in it is expanded. -/
  | delimiter
  /-- Behind a parameter, up to a closing brace. -/
  | braces
  /-- Between double quotes. -/
  | double
  | document
  | arithmetic
deriving DecidableEq

/-- Where the text of a word stands, and what stands around it. -/
structure Place where
  kind : PlaceKind
  /-- Whether what is expanded stays together. -/
  inQuotes : Bool
  inBraces : Bool
  inDocument : Bool

namespace Place

/-- A word of a command. -/
def word : Place := ⟨.word, false, false, false⟩

/-- The word that ends a document. -/
def delimiter : Place := ⟨.delimiter, false, false, false⟩

/-- The lines of a document. -/
def document : Place := ⟨.document, true, false, true⟩

/-- An expression. -/
def arithmetic (p : Place) : Place := ⟨.arithmetic, true, false, p.inDocument⟩

/-- What stands between double quotes. -/
def double (p : Place) : Place := { p with kind := .double, inQuotes := true }

/-- What stands behind a parameter. -/
def braces (p : Place) (inQuotes : Bool) : Place := ⟨.braces, inQuotes, true, p.inDocument⟩

/-- Whether quotation marks have their meaning. -/
def knowsQuotes (p : Place) : Bool := !p.inQuotes

/-- Whether a character ends the text where it stands. -/
def isEndedBy (p : Place) (c : Char) : Bool :=
  match p.kind with
  | .word | .delimiter => " \t\n;&|<>()".toList.contains c
  | .braces => c == '\x7d'
  | .double => c == '"'
  | .document | .arithmetic => false

/-- Text as it stands here. -/
def literal (p : Place) (t : Text) : Piece := if p.inQuotes then .quoted t else .plain t

/-- Whether a backslash takes the meaning from a character. -/
def escapes (p : Place) (c : Char) : Bool :=
  !p.inQuotes || c == '\\' || c == '\x60' || c == '$' ||
    (c == '"' && (p.inBraces || !p.inDocument)) || (c == '\x7d' && p.inBraces)

/-- The complaint about text that does not end. -/
def complaint? (p : Place) : Option String :=
  match p.kind with
  | .word | .delimiter | .document => none
  | .arithmetic => some "Missing '))'"
  | .double => some "Unterminated quoted string"
  | .braces =>
    some (if p.inQuotes && !p.inDocument then "Unterminated quoted string" else "Missing '\x7d'")

end Place

/-- Whether a character has no special meaning anywhere in a word. -/
def isOrdinary (c : Char) : Bool := !" \t\n;&|<>()\\'\"$\x60\x7d".toList.contains c

/-- The text between backticks, and how much of the script it takes with the closing one. -/
def backquoted (inQuotes : Bool) : Nat → Text → Option (Text × Nat)
  | _, [] => none
  | n, '\x60' :: _ => some ([], n + 1)
  | n, '\\' :: '\n' :: s => backquoted inQuotes (n + 2) s
  | n, '\\' :: c :: s =>
    let isEscape := c == '\\' || c == '\x60' || c == '$' || (inQuotes && c == '"')
    (backquoted inQuotes (n + 2) s).map fun (t, n) => (if isEscape then c :: t else '\\' :: c :: t, n)
  | n, c :: s => (backquoted inQuotes (n + 1) s).map fun (t, n) => (c :: t, n)

/-- The lines of a document up to its delimiter, how much of the script they take with it, and
whether the delimiter was found.  Where the text is not quoted, a backslash joins lines. -/
def documentText (d : Announced) : Nat → Nat → Text → Text × Nat
  | 0, used, _ => ([], used)
  | _, used, [] => ([], used)
  | n + 1, used, s =>
    let begun := if d.isQuoted then s else pastJoins s
    let stripped := if d.stripsTabs then begun.dropWhile (· == '\t') else begun
    let line := stripped.takeWhile (· != '\n')
    let used := used + (s.length - stripped.length) + min stripped.length (line.length + 1)
    if line == d.delimiter then ([], used)
    else
      let (line, extra) := if d.isQuoted then (line, 0) else logical n stripped line.length
      -- A join behind tabs that have been taken away is kept as it is.
      let line := if !d.isQuoted && stripped.length < begun.length then kept line else line
      let after := stripped.drop (line.length + 1)
      let (t, used) := documentText d n (used + extra) after
      (line ++ (if line.length < stripped.length then ['\n'] else []) ++ t, used)
where
  /-- What follows the joins of lines at the start. -/
  pastJoins : Text → Text
    | '\\' :: '\n' :: s => pastJoins s
    | s => s
  /-- A line where a join at the start is spelled so that it stays. -/
  kept : Text → Text
    | '\\' :: '\n' :: s => '\\' :: '\\' :: '\n' :: s
    | s => s
  /-- The line with those that are joined to it, and by how much it is longer. -/
  logical : Nat → Text → Nat → Text × Nat
    | 0, s, k => (s.take k, 0)
    | n + 1, s, k =>
      let slashes := ((s.take k).reverse.takeWhile (· == '\\')).length
      if slashes % 2 = 1 && k < s.length then
        let next := ((s.drop (k + 1)).takeWhile (· != '\n')).length
        let (t, extra) := logical n s (k + 1 + next)
        (t, extra + min (next + 1) (s.length - (k + 1)))
      else (s.take k, 0)

end RuleSets.Shell
