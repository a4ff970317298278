import RuleSets.Utility.Tool

/-!
# Options of tools

Options may stand anywhere among the operands up to two hyphens.  Those of one letter may be written
together; those of words may be abbreviated.
-/

namespace RuleSets.Utility

/-- What an option takes. -/
inductive Takes where
  | nothing
  | value
  /-- A value, if one is written together with the option. -/
  | perhaps
deriving DecidableEq

/-- An option: the letter it is known by, its name in words if it has one, and what it takes. -/
structure OptionRule where
  letter : Char
  name : Text
  takes : Takes

/-- The rules of letters, where a colon follows one that takes a value and two colons one that may. -/
def letterRules : Text → List OptionRule
  | [] => []
  | c :: ':' :: ':' :: rest => ⟨c, [], .perhaps⟩ :: letterRules rest
  | c :: ':' :: rest => ⟨c, [], .value⟩ :: letterRules rest
  | c :: rest => ⟨c, [], .nothing⟩ :: letterRules rest

/-- A rule for an option in words that means the same as a letter. -/
def long (name : String) (letter : Char) (takes : Takes) : OptionRule := ⟨letter, name.toList, takes⟩

/-- What a tool was called with. -/
structure Arguments where
  options : List (Char × Text)
  operands : List Text

namespace Arguments

/-- Whether an option is given. -/
def has (a : Arguments) (c : Char) : Bool := a.options.any (·.1 == c)

/-- The value of an option; the last one counts. -/
def value? (a : Arguments) (c : Char) : Option Text :=
  (a.options.reverse.find? (·.1 == c)).map (·.2)

/-- The last given one of some options. -/
def last? (a : Arguments) (letters : String) : Option Char :=
  (a.options.reverse.find? fun o => letters.toList.contains o.1).map (·.1)

end Arguments

namespace Tool

/-- Read the letters of a word of options.  The results are options and the words left. -/
def letterOptions (misuseStatus : Nat) (rules : List OptionRule) :
    Text → List Text → Tool (List (Char × Text) × List Text)
  | [], rest => return ([], rest)
  | c :: letters, rest => do
    match rules.find? fun r => r.name.isEmpty && r.letter == c with
    | none => misuse misuseStatus ("invalid option -- '".toList ++ [c, '\''])
    | some r =>
      match r.takes, letters, rest with
      | .nothing, letters, rest => do
        let (more, rest) ← letterOptions misuseStatus rules letters rest
        return ((c, []) :: more, rest)
      | .perhaps, letters, rest => return ([(c, letters)], rest)
      | .value, [], [] =>
        misuse misuseStatus ("option requires an argument -- '".toList ++ [c, '\''])
      | .value, [], value :: rest => return ([(c, value)], rest)
      | .value, letters, rest => return ([(c, letters)], rest)

/-- Read an option in words. -/
def wordOption (misuseStatus : Nat) (rules : List OptionRule) (word : Text) (rest : List Text) :
    Tool ((Char × Text) × List Text) := do
  let name := word.takeWhile (· != '=')
  let value? : Option Text :=
    if name.length < word.length then some (word.drop (name.length + 1)) else none
  let named := rules.filter fun r => !r.name.isEmpty && name.isPrefixOf r.name
  let exact := named.filter (·.name == name)
  let candidates := if exact.isEmpty then named else exact
  match candidates with
  | [] => misuse misuseStatus ("unrecognized option '--".toList ++ word ++ ['\''])
  | r :: others =>
    if others.any (·.letter != r.letter) then
      let all := candidates.flatMap fun r => " '--".toList ++ r.name ++ ['\'']
      misuse misuseStatus
        ("option '--".toList ++ word ++ "' is ambiguous; possibilities:".toList ++ all)
    else
      let spelled := "option '--".toList ++ r.name ++ ['\'']
      match r.takes, value?, rest with
      | .nothing, some _, _ => misuse misuseStatus (spelled ++ " doesn't allow an argument".toList)
      | .nothing, none, rest => return ((r.letter, []), rest)
      | .perhaps, value?, rest => return ((r.letter, value?.getD []), rest)
      | .value, some value, rest => return ((r.letter, value), rest)
      | .value, none, value :: rest => return ((r.letter, value), rest)
      | .value, none, [] => misuse misuseStatus (spelled ++ " requires an argument".toList)

/-- Read the arguments of a tool.  Where `inOrder`, the first operand ends the options. -/
def arguments (misuseStatus : Nat) (inOrder : Bool) (letters : String) (words : List OptionRule)
    (all : List Text) : Tool Arguments :=
  go (all.length + 1) all
where
  rules : List OptionRule := letterRules letters.toList ++ words
  go : Nat → List Text → Tool Arguments
    | 0, rest => return ⟨[], rest⟩
    | n + 1, rest => do
      match rest with
      | [] => return ⟨[], []⟩
      | word :: rest =>
        match word with
        | ['-', '-'] => return ⟨[], rest⟩
        | '-' :: '-' :: name =>
          let (o, rest) ← wordOption misuseStatus rules name rest
          let a ← go n rest
          return ⟨o :: a.options, a.operands⟩
        | '-' :: c :: letters =>
          let (os, rest) ← letterOptions misuseStatus rules (c :: letters) rest
          let a ← go n rest
          return ⟨os ++ a.options, a.operands⟩
        | word =>
          if inOrder then return ⟨[], word :: rest⟩
          else
            let a ← go n rest
            return ⟨a.options, word :: a.operands⟩

/-- Complain that there are too few operands, and end. -/
def missingOperand {α : Type} (operands : List Text) : Tool α :=
  match operands.getLast? with
  | none => misuse 1 "missing operand".toList
  | some word => misuse 1 ("missing operand after ".toList ++ quoted word)

/-- Complain that there are too many operands, and end. -/
def extraOperand {α : Type} (word : Text) : Tool α :=
  misuse 1 ("extra operand ".toList ++ quoted word)

end Tool
end RuleSets.Utility
