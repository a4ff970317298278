import RuleSets.Shell.Arithmetic
import RuleSets.Shell.Session

/-!
# Conditions

The conditions that `test` decides: comparisons of texts, numbers and files, joined by negation, `-a`
and `-o`.  An operator is taken for an operand where it could not be anything else.
-/

namespace RuleSets.Shell.Sh

/-- Whether an operator stands before one operand or between two. -/
def isUnary (s : Text) : Bool :=
  match s with
  | ['-', c] => "rwxefdcbpugkstznhOGLS".toList.contains c
  | _ => false

/-- Whether a text is an operator between two operands. -/
def isBinary (s : Text) : Bool :=
  (["=", "!=", "<", ">", "-eq", "-ne", "-ge", "-gt", "-le", "-lt", "-nt", "-ot", "-ef"].map
    String.toList).contains s

/-- What a word of a condition is. -/
inductive Term where
  | finish
  | operand
  | negation
  | conjunction
  | disjunction
  | open_
  | close
  | unary
  | binary
deriving DecidableEq

/-- The words of a condition from the one that has been reached. -/
abbrev Deciding := StateT (List Text) Sh

/-- Whether what stands behind an operator shows it to be an operand. -/
def showsOperand : List Text → Bool
  | [] => true
  | [_] => false
  | next :: _ => isBinary next

/-- What the first of some words is. -/
def term : List Text → Term
  | [] => .finish
  | word :: rest =>
    if word == ['!'] then .negation
    else if word == "-a".toList then .conjunction
    else if word == "-o".toList then .disjunction
    else if word == ['('] then (if rest.isEmpty then .operand else .open_)
    else if word == [')'] then .close
    else if isBinary word then .binary
    else if isUnary word then (if showsOperand rest then .operand else .unary)
    else .operand

/-- Complain about a word of a condition. -/
def failAt {α : Type} (word : Text) (what : String) : Sh α := fail (word ++ ": ".toList ++ what.toList)

/-- The number that an operand is. -/
def operandNumber (word : Text) : Sh Int := do
  let t := word.dropWhile Text.isSpace
  let (negative, digits) : Bool × Text :=
    match t with
    | '-' :: t => (true, t)
    | '+' :: t => (false, t)
    | t => (false, t)
  let rest := digits.dropWhile Char.isDigit
  let n := Text.valueOf 10 (digits.take (digits.length - rest.length))
  let n : Int := if negative then -(n : Int) else n
  if rest.length == digits.length || !rest.all Text.isSpace || n < Arithmetic.smallest ||
      Arithmetic.largest < n then failNumber word
  else return n

/-- What is decided about a file. -/
def decideFile (operator : Char) (word : Text) : Sh Bool := do
  match ← call (.facts word) with
  | .error _ => return false
  | .ok f =>
    match operator with
    | 'e' | 'r' | 'w' | 'O' | 'G' => return true
    | 'f' => return f.kind == .regular
    | 'd' => return f.kind == .directory
    | 'x' => return f.isExecutable
    | 's' => return 0 < f.size
    | 'c' => return f.kind == .device
    | 'p' => return f.kind == .pipe
    | _ => return false

/-- What an operator before an operand decides. -/
def decideUnary (operator : Char) (word : Text) : Sh Bool := do
  match operator with
  | 'z' => return word.isEmpty
  | 'n' => return !word.isEmpty
  | 't' =>
    let _ ← operandNumber word
    return false
  | operator => decideFile operator word

/-- What an operator between two operands decides. -/
def decideBinary (a operator b : Text) : Sh Bool := do
  let numbers (p : Int → Int → Bool) : Sh Bool := return p (← operandNumber a) (← operandNumber b)
  let files (p : Machine.FileFacts → Machine.FileFacts → Bool) : Sh Bool := do
    match ← call (.facts a), ← call (.facts b) with
    | .ok f, .ok g => return p f g
    | _, _ => return false
  match String.ofList operator with
  | "=" => return a == b
  | "!=" => return a != b
  | "<" => return Text.order a b == .lt
  | ">" => return Text.order a b == .gt
  | "-eq" => numbers fun m n => m == n
  | "-ne" => numbers fun m n => m != n
  | "-ge" => numbers fun m n => n ≤ m
  | "-gt" => numbers fun m n => n < m
  | "-le" => numbers fun m n => m ≤ n
  | "-lt" => numbers fun m n => m < n
  | "-nt" => files fun f g => g.changed < f.changed
  | "-ot" => files fun f g => f.changed < g.changed
  | _ => files fun f g => f.identity == g.identity

mutual
/-- Decide whether any of some conditions holds, of which the first begins with a term. -/
def decideAny : Nat → Term → Deciding Bool
  | 0, _ => return false
  | n + 1, t => do
    let a ← decideAll n t
    let rest ← get
    if term (rest.drop 1) == .disjunction then
      set (rest.drop 2)
      let b ← decideAny n (term (rest.drop 2))
      return a || b
    else return a

/-- Decide whether all of some conditions hold, of which the first begins with a term. -/
def decideAll : Nat → Term → Deciding Bool
  | 0, _ => return false
  | n + 1, t => do
    let a ← decideOne n t
    let rest ← get
    if term (rest.drop 1) == .conjunction then
      set (rest.drop 2)
      let b ← decideAll n (term (rest.drop 2))
      return a && b
    else return a

/-- Decide whether a condition holds that may be negated; its last word remains. -/
def decideOne : Nat → Term → Deciding Bool
  | 0, _ => return false
  | n + 1, t => do
    let words ← get
    match t, words with
    | .negation, _ =>
      let t := term (words.drop 1)
      if t != .finish then set (words.drop 1)
      return !(← decideOne n t)
    | .finish, _ | _, [] => return false
    | .open_, _ =>
      set (words.drop 1)
      let t := term (words.drop 1)
      if t == .close then return false
      let a ← decideAny n t
      let rest := (← get).drop 1
      set rest
      if term rest != .close then fail "closing paren expected".toList
      return a
    | .unary, operator :: rest =>
      match rest with
      | [] => failAt operator "argument expected"
      | word :: _ =>
        set rest
        decideUnary ((operator[1]?).getD ' ') word
    | _, a :: rest =>
      if term rest == .binary then
        match rest with
        | [operator] => failAt operator "argument expected"
        | operator :: b :: after =>
          set (b :: after)
          decideBinary a operator b
        | [] => return false
      else return !a.isEmpty
end

/-- Decide a condition from a term on. -/
def decideFrom (t : Term) (words : List Text) : Sh Bool := do
  let (a, rest) ← (decideAny (4 * words.length + 4) t).run words
  match rest with
  | word :: _ :: _ => failAt word "unexpected operator"
  | _ => return a

/-- Decide a condition. -/
def decide_ : List Text → Sh Bool
  | [] => return false
  | [a, operator, b] =>
    if isBinary operator then decideFrom .operand [a, operator, b]
    else if a == ['('] && b == [')'] then decideFrom (term [operator]) [operator]
    else if a == ['!'] then return !(← decideFrom (term [operator, b]) [operator, b])
    else decideFrom (term [a, operator, b]) [a, operator, b]
  | [['!'], a, operator, b] => do
    let words := [a, operator, b]
    if isBinary operator then return !(← decideFrom .operand words)
    else if a == ['('] && b == [')'] then return !(← decideFrom (term [operator]) [operator])
    -- A second negation does not undo the first one here.
    else if a == ['!'] then return !(← decideFrom (term [operator, b]) [operator, b])
    else return !(← decideFrom (term words) words)
  | [['('], a, b, [')']] => decideFrom (term [a, b]) [a, b]
  | words => decideFrom (term words) words

/-- Decide the condition that the arguments of `test`, or of an opening bracket, are. -/
def test (name : Text) (arguments : List Text) : Sh Nat := do
  let words ←
    if name.head? == some '[' then
      if arguments.getLast? == some [']'] then pure arguments.dropLast
      else fail "missing ]".toList
    else pure arguments
  return if ← decide_ words then 0 else 1

end RuleSets.Shell.Sh
