import RuleSets.Shell.Command
import RuleSets.Text.Character

/-!
# Arithmetic

Expressions over 64-bit integers with variables, assignments and the usual operators.  What is not
evaluated, since `&&`, `||` or a condition leaves it out, has no effect.
-/

namespace RuleSets.Shell.Arithmetic

/-- An operator on two operands. -/
inductive Binary where
  | times | quotient | remainder
  | plus | minus
  | left | right
  | less | atMost | more | atLeast
  | equal | unequal
  | and | xor | or
deriving DecidableEq, Repr

/-- How loosely an operator binds. -/
def Binary.rank : Binary → Nat
  | times | quotient | remainder => 0
  | plus | minus => 1
  | left | right => 2
  | less | atMost | more | atLeast => 3
  | equal | unequal => 4
  | and => 5
  | xor => 6
  | or => 7

/-- A token of an expression. -/
inductive Token where
  | finish
  | number (n : Int)
  | named (name : Text)
  | binary (op : Binary)
  /-- An operator with an equals sign behind it. -/
  | update (op : Binary)
  | assign
  | not
  | complement
  | bothTrue
  | anyTrue
  | question
  | colon
  | open_
  | close
  | bad
deriving DecidableEq, Repr

/-- What can go wrong. -/
inductive Fault where
  /-- Something is wrong with the expression. -/
  | malformed (why : String)
  /-- The value of a variable is no number. -/
  | noNumber (value : Text)

/-- The least and the largest integer. -/
def smallest : Int := -Nat.pow 2 63
def largest : Int := Nat.pow 2 63 - 1

/-- An integer brought back among those of 64 bits. -/
def wrap (n : Int) : Int := (n - smallest) % (Nat.pow 2 64) + smallest

/-- An integer moved to the nearest of those of 64 bits. -/
def clamp (n : Int) : Int := max smallest (min largest n)

/-- The number that a text begins with, in base 8 after a zero and in base 16 after `0x`, and what
follows it. -/
def leadingNumber (s : Text) : Nat × Text :=
  let digits (base : Nat) (s : Text) : Nat × Text :=
    (Text.valueOf base (s.takeWhile (Text.isDigitOf base)), s.dropWhile (Text.isDigitOf base))
  match s with
  | '0' :: x :: c :: rest =>
    if (x == 'x' || x == 'X') && Text.isDigitOf 16 c then digits 16 (c :: rest) else digits 8 s
  | '0' :: _ => digits 8 s
  | _ => digits 10 s

/-- The value of a text that is a number between blanks; an empty one counts as zero. -/
def valueOf (s : Text) : Except Fault Int :=
  let t := s.dropWhile Text.isSpace
  let (negative, digits) : Bool × Text :=
    match t with
    | '-' :: t => (true, t)
    | '+' :: t => (false, t)
    | t => (false, t)
  if digits.head?.any Char.isDigit then
    let (n, rest) := leadingNumber digits
    if rest.all Text.isSpace then .ok (clamp (if negative then -(n : Int) else n))
    else .error (.noNumber s)
  else if t.isEmpty then .ok 0
  else .error (.noNumber s)

/-- The operator of one character on two operands. -/
def binary? : Char → Option Binary
  | '*' => some .times
  | '/' => some .quotient
  | '%' => some .remainder
  | '+' => some .plus
  | '-' => some .minus
  | '^' => some .xor
  | '&' => some .and
  | '|' => some .or
  | '<' => some .less
  | '>' => some .more
  | _ => none

/-- The first token of an expression, and what follows it. -/
def nextToken (s : Text) : Token × Text :=
  match s.dropWhile fun c => c == ' ' || c == '\t' || c == '\n' with
  | [] => (.finish, [])
  | '<' :: '<' :: '=' :: s => (.update .left, s)
  | '<' :: '<' :: s => (.binary .left, s)
  | '<' :: '=' :: s => (.binary .atMost, s)
  | '>' :: '>' :: '=' :: s => (.update .right, s)
  | '>' :: '>' :: s => (.binary .right, s)
  | '>' :: '=' :: s => (.binary .atLeast, s)
  | '<' :: s => (.binary .less, s)
  | '>' :: s => (.binary .more, s)
  | '=' :: '=' :: s => (.binary .equal, s)
  | '=' :: s => (.assign, s)
  | '!' :: '=' :: s => (.binary .unequal, s)
  | '!' :: s => (.not, s)
  | '&' :: '&' :: s => (.bothTrue, s)
  | '|' :: '|' :: s => (.anyTrue, s)
  | '~' :: s => (.complement, s)
  | '?' :: s => (.question, s)
  | ':' :: s => (.colon, s)
  | '(' :: s => (.open_, s)
  | ')' :: s => (.close, s)
  | c :: s =>
    if c.isDigit then
      let (n, s) := leadingNumber (c :: s)
      (.number (clamp n), s)
    else if isNameStart c then (.named (c :: s.takeWhile isNameChar), s.dropWhile isNameChar)
    else
      match binary? c, s with
      | some op, '=' :: s => (.update op, s)
      | some op, s => (.binary op, s)
      | none, s => (.bad, s)

/-- The value of an operation. -/
def Binary.apply (op : Binary) (a b : Int) : Except Fault Int :=
  let truth (b : Bool) : Except Fault Int := .ok (if b then 1 else 0)
  let bits (f : Nat → Nat → Nat) : Except Fault Int :=
    let word (n : Int) : Nat := (n % (Nat.pow 2 64)).toNat
    .ok (wrap (f (word a) (word b)))
  let places := (b % 64).toNat
  match op with
  | times => .ok (wrap (a * b))
  | quotient => if b = 0 then .error (.malformed "division by zero") else .ok (wrap (a.tdiv b))
  | remainder => if b = 0 then .error (.malformed "division by zero") else .ok (a.tmod b)
  | plus => .ok (wrap (a + b))
  | minus => .ok (wrap (a - b))
  | left => .ok (wrap (a * Nat.pow 2 places))
  | right => .ok (a / Nat.pow 2 places)
  | less => truth (a < b)
  | atMost => truth (a ≤ b)
  | more => truth (b < a)
  | atLeast => truth (b ≤ a)
  | equal => truth (a == b)
  | unequal => truth (a != b)
  | and => bits Nat.land
  | xor => bits Nat.xor
  | or => bits Nat.lor

/-- What is left of an expression, and the variables that it has assigned, the latest first. -/
structure Progress where
  rest : Text
  assigned : List (Text × Int)

/-- A piece of an evaluation. -/
abbrev Evaluating := StateT Progress (Except Fault)

/-- The next token. -/
def peek : Evaluating Token := do return (nextToken (← get).rest).1

/-- Pass the next token. -/
def advance : Evaluating Unit := modify fun p => { p with rest := (nextToken p.rest).2 }

/-- The value of a variable. -/
def read (value : Text → Text) (name : Text) : Evaluating Int := do
  match (← get).assigned.find? (·.1 == name) with
  | some (_, n) => return n
  | none =>
    match valueOf (value name) with
    | .ok n => return n
    | .error e => throw e

/-- Assign to a variable. -/
def assign (name : Text) (n : Int) : Evaluating Unit :=
  modify fun p => { p with assigned := (name, n) :: p.assigned }

section
variable (value : Text → Text)

mutual
/-- The value of an assignment or of a condition. -/
def assignment : Nat → Bool → Evaluating Int
  | 0, _ => throw (.malformed "expecting primary")
  | n + 1, skipped => do
    match nextToken (← get).rest with
    | (.named name, rest) =>
      match nextToken rest with
      | (.assign, rest) => assigning n skipped name none rest
      | (.update op, rest) => assigning n skipped name (some op) rest
      | _ => condition n skipped
    | _ => condition n skipped

/-- The value of an assignment behind its operator. -/
def assigning : Nat → Bool → Text → Option Binary → Text → Evaluating Int
  | 0, _, _, _, _ => throw (.malformed "expecting primary")
  | n + 1, skipped, name, op?, rest => do
    modify ({ · with rest := rest })
    let b ← assignment n skipped
    if skipped then return b
    else
      let b ←
        match op? with
        | some op => MonadExcept.ofExcept (op.apply (← read value name) b)
        | none => pure b
      assign name b
      return b

/-- The value of a condition with two branches. -/
def condition : Nat → Bool → Evaluating Int
  | 0, _ => throw (.malformed "expecting primary")
  | n + 1, skipped => do
    let a ← disjunction n skipped
    if (← peek) == .question then
      advance
      let b ← assignment n (skipped || a == 0)
      if (← peek) != .colon then throw (.malformed "expecting ':'")
      advance
      let c ← condition n (skipped || a != 0)
      return if a != 0 then b else c
    else return a

/-- Whether any of some operands is not zero. -/
def disjunction : Nat → Bool → Evaluating Int
  | 0, _ => throw (.malformed "expecting primary")
  | n + 1, skipped => do
    let a ← conjunction n skipped
    if (← peek) == .anyTrue then
      advance
      let b ← disjunction n (skipped || a != 0)
      return if a != 0 || b != 0 then 1 else 0
    else return a

/-- Whether all of some operands are not zero. -/
def conjunction : Nat → Bool → Evaluating Int
  | 0, _ => throw (.malformed "expecting primary")
  | n + 1, skipped => do
    let a ← operation n skipped 8 (← primary n skipped)
    if (← peek) == .bothTrue then
      advance
      let b ← conjunction n (skipped || a == 0)
      return if a != 0 && b != 0 then 1 else 0
    else return a

/-- The value of operations that bind tighter than a rank, of which the first operand is known. -/
def operation : Nat → Bool → Nat → Int → Evaluating Int
  | 0, _, _, _ => throw (.malformed "expecting primary")
  | n + 1, skipped, rank, a => do
    match ← peek with
    | .binary op =>
      if op.rank < rank then
        advance
        let b ← operation n skipped op.rank (← primary n skipped)
        let a ← if skipped then pure b else MonadExcept.ofExcept (op.apply a b)
        operation n skipped rank a
      else return a
    | _ => return a

/-- The value of an operand. -/
def primary : Nat → Bool → Evaluating Int
  | 0, _ => throw (.malformed "expecting primary")
  | n + 1, skipped => do
    let t ← peek
    advance
    match t with
    | .number k => return k
    | .named name => if skipped then return 0 else read value name
    | .binary .plus => primary n skipped
    | .binary .minus => return wrap (-(← primary n skipped))
    | .not => return if (← primary n skipped) == 0 then 1 else 0
    | .complement => return -(← primary n skipped) - 1
    | .open_ =>
      let k ← assignment n skipped
      if (← peek) != .close then throw (.malformed "expecting ')'")
      advance
      return k
    | _ => throw (.malformed "expecting primary")
end

/-- The value of an expression, where variables have the given values, and the variables that it
assigns, in turn. -/
def evaluate (expression : Text) : Except Fault (Int × List (Text × Int)) := do
  let (n, p) ← (assignment value (8 * expression.length + 16) false).run ⟨expression, []⟩
  match nextToken p.rest with
  | (.finish, _) => return (n, p.assigned.reverse)
  | _ => throw (.malformed "expecting EOF")

end
end RuleSets.Shell.Arithmetic
