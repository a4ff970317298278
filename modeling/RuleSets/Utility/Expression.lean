import RuleSets.Utility.Options
import RuleSets.Utility.Regex

/-!
# Expressions as arguments

Every argument is an operand or an operator; operands are texts, which count as numbers where they
spell one.
-/

namespace RuleSets.Utility

namespace Expression

/-- A value. -/
inductive Value where
  | number (n : Int)
  | text (t : Text)

/-- The integer that a text spells. -/
def integer? (t : Text) : Option Int :=
  let (negative, digits) : Bool × Text :=
    match t with
    | '-' :: t => (true, t)
    | t => (false, t)
  if digits.isEmpty || !digits.all Char.isDigit then none
  else
    let n : Int := Text.valueOf 10 digits
    some (if negative then -n else n)

namespace Value

/-- The spelling of a value. -/
def toText : Value → Text
  | number n => Text.decimalInt n
  | text t => t

/-- The number that a value is. -/
def toInt? : Value → Option Int
  | number n => some n
  | text t => integer? t

/-- Whether a value is nothing or zero. -/
def isNull (v : Value) : Bool :=
  let t := v.toText
  t.isEmpty || integer? t == some 0

end Value

/-- What is left of the arguments, and the one before that. -/
structure Position where
  rest : List Text
  last : Text

/-- Reading an expression; a complaint ends it. -/
abbrev Reading := StateT Position (Except Text)

/-- A complaint. -/
def fail {α : Type} (complaint : Text) : Reading α := throw complaint

/-- A complaint about what an expression looks like. -/
def misspelt {α : Type} (what : String) (word : Text) : Reading α :=
  fail ("syntax error: ".toList ++ what.toList ++ ' ' :: quoted word)

/-- The next argument. -/
def next : Reading Text := do
  let p ← get
  match p.rest with
  | [] => misspelt "missing argument after" p.last
  | w :: rest =>
    set (⟨rest, w⟩ : Position)
    return w

/-- Take one of some operators if it comes next. -/
def operator? (names : List String) : Reading (Option String) := do
  let p ← get
  match p.rest with
  | [] => return none
  | w :: rest =>
    match names.find? (·.toList == w) with
    | some name =>
      set (⟨rest, w⟩ : Position)
      return some name
    | none => return none

/-- The number that an operand must be. -/
def requireInt (v : Value) : Reading Int :=
  match v.toInt? with
  | some n => pure n
  | none => fail "non-integer argument".toList

/-- What the beginning of a text matches: its first group, or how long it is. -/
def matching (t pattern : Value) : Reading Value :=
  match Regex.parse ⟨false, false⟩ pattern.toText with
  | .error e => fail e.toList
  | .ok r =>
    let text := t.toText.toArray
    let hasGroups := 0 < r.groupCount
    match r.matchAt? text true 0 with
    | some (stop, groups) =>
      if hasGroups then
        let found : Regex.Found := ⟨0, stop, groups⟩
        pure (.text (found.group text 1))
      else pure (.number stop)
    | none => pure (if hasGroups then .text [] else .number 0)

/-- Compare two values, as numbers if both are. -/
def compare (name : String) (a b : Value) : Bool :=
  let (isLess, isEqual) : Bool × Bool :=
    match a.toInt?, b.toInt? with
    | some m, some n => (m < n, m == n)
    | _, _ =>
      let o := Text.order a.toText b.toText
      (o == .lt, o == .eq)
  match name with
  | "<" => isLess
  | "<=" => isLess || isEqual
  | ">" => !isLess && !isEqual
  | ">=" => !isLess
  | "!=" => !isEqual
  | _ => isEqual

/-- The value of a truth. -/
def truth (b : Bool) : Value := .number (if b then 1 else 0)

/-- Work out two numbers. -/
def calculate (name : String) (m n : Int) : Reading Int :=
  match name with
  | "+" => pure (m + n)
  | "-" => pure (m - n)
  | "*" => pure (m * n)
  | name =>
    if n = 0 then fail "division by zero".toList
    else pure (if name == "/" then m.tdiv n else m.tmod n)

/-- The levels of operators that take two operands, from the loosest. -/
def levels : List (List String) :=
  [["|"], ["&"], ["<=", "<", "==", "=", "!=", ">=", ">"], ["+", "-"], ["*", "/", "%"], [":"]]

/-- Put two operands together. -/
def combine (isLive : Bool) (name : String) (a b : Value) : Reading Value :=
  match name with
  | "|" => pure (if !a.isNull then a else if b.isNull then .number 0 else b)
  | "&" => pure (if a.isNull || b.isNull then .number 0 else a)
  | ":" => if isLive then matching a b else pure a
  | name =>
    if ["+", "-", "*", "/", "%"].contains name then
      if isLive then do return .number (← calculate name (← requireInt a) (← requireInt b))
      else pure a
    else pure (truth (compare name a b))

/-- A part of a text. -/
def part (t first length : Value) : Value :=
  match first.toInt?, length.toInt? with
  | some i, some n =>
    .text (if i ≤ 0 || n ≤ 0 then [] else (t.toText.drop (i.toNat - 1)).take n.toNat)
  | _, _ => .text []

/-- The place of the first character of a text that is one of some. -/
def placeOf (t characters : Value) : Value :=
  .number (((t.toText.findIdx? characters.toText.contains).elim 0 (· + 1) : Nat) : Int)

mutual
/-- An expression from some level of operators on. -/
def evaluate : Nat → Bool → List (List String) → Reading Value
  | 0, _, _ => fail "syntax error".toList
  | n + 1, isLive, [] => evaluateWord n isLive
  | n + 1, isLive, names :: tighter => do
    let a ← evaluate n isLive tighter
    evaluateRest n isLive names tighter a

/-- What follows an operand on its level. -/
def evaluateRest : Nat → Bool → List String → List (List String) → Value → Reading Value
  | 0, _, _, _, _ => fail "syntax error".toList
  | n + 1, isLive, names, tighter, a => do
    match ← operator? names with
    | none => return a
    | some name =>
      let isWanted := match name with
        | "|" => a.isNull
        | "&" => !a.isNull
        | _ => true
      let b ← evaluate n (isLive && isWanted) tighter
      let c ← combine isLive name a b
      evaluateRest n isLive names tighter c

/-- An operand, or a word that works on the operands behind it. -/
def evaluateWord : Nat → Bool → Reading Value
  | 0, _ => fail "syntax error".toList
  | n + 1, isLive => do
    match ← operator? ["+", "length", "match", "index", "substr"] with
    | some "+" => return .text (← next)
    | some "length" => return .number (← evaluateWord n isLive).toText.length
    | some "match" =>
      let t ← evaluateWord n isLive
      let p ← evaluateWord n isLive
      if isLive then matching t p else return t
    | some "index" =>
      let t ← evaluateWord n isLive
      return placeOf t (← evaluateWord n isLive)
    | some _ =>
      let t ← evaluateWord n isLive
      let first ← evaluateWord n isLive
      return part t first (← evaluateWord n isLive)
    | none =>
      match ← next with
      | ['('] =>
        let v ← evaluate n isLive levels
        let p ← get
        match p.rest with
        | [] => misspelt "expecting ')' after" p.last
        | w :: _ =>
          if w == [')'] then
            let _ ← next
            return v
          else misspelt "expecting ')' instead of" w
      | [')'] => fail "syntax error: unexpected ')'".toList
      | w => return .text w
end

end Expression

/-- Evaluate an expression. -/
def Tool.expr (all : List Text) : Tool Unit := do
  let words := if all.head? == some ['-', '-'] then all.drop 1 else all
  if words.isEmpty then misuse 2 "missing operand".toList
  match (Expression.evaluate (16 * words.length + 32) true Expression.levels).run ⟨words, []⟩ with
  | .error complaint => die 2 complaint
  | .ok (v, p) =>
    match p.rest with
    | w :: _ => die 2 ("syntax error: unexpected argument ".toList ++ quoted w)
    | [] =>
      printLine v.toText
      setStatus (if v.isNull then 1 else 0)

end RuleSets.Utility
