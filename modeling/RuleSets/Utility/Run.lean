import RuleSets.Shell.Format
import RuleSets.Utility.Files

/-!
# Running programs

Tools that wait, or run other programs in some way.
-/

namespace RuleSets.Utility.Tool

open Machine (Environment)

/-! ### Becoming and starting programs -/

/-- The value of a variable. -/
def environmentValue? (name : String) : Tool (Option Text) :=
  return ((← get).environment.find? (·.1 == name.toList)).map (·.2)

/-- Become a program that is looked for along the search path.  Only a failure comes back. -/
def execute (words : List Text) (environment : Environment) : Tool IoError := do
  let name := words.headD []
  let attempt (path : Text) : Tool IoError := do
    match (← call (.execute path words environment) : IoError) with
    | .badInterpreter =>
      let shell := "/bin/sh".toList
      call (.execute shell (shell :: path :: words.drop 1) environment)
    | e => return e
  if name.isEmpty then return .notFound
  else if name.contains '/' then attempt name
  else
    let search := ((environment.find? (·.1 == "PATH".toList)).map (·.2)).getD "/bin:/usr/bin".toList
    let rec go (e : IoError) : List Text → Tool IoError
      | [] => return e
      | d :: rest => do
        match ← attempt (if d.isEmpty then name else inside d name) with
        | .notFound | .notADirectory => go e rest
        | e => go e rest
    go .notFound (Text.splitBy (· == ':') search)

/-- The code for a program that could not be run. -/
def failureCode (e : IoError) : Nat := if e == .notFound then 127 else 126

/-- Become a program, or complain and end. -/
def become {α : Type} (complaint : Text → Text) (words : List Text) : Tool α := do
  flush
  let e ← execute words (← get).environment
  die (failureCode e) (complaint (words.headD []) ++ ": ".toList ++ reason e)

/-- Start a program as a child. -/
def start (complaint : Text → Text) (words : List Text) : Tool Nat := do
  flush
  let s ← get
  forkAction do
    let ending : Tool Nat := become complaint words
    let (code, _) ← ending.run s
    return code

/-- Wait for a child. -/
def await (pid : Nat) : Nat → Tool Status
  | 0 => return .exited 0
  | n + 1 => do
    match (← call (.wait (some pid) true) : Machine.News) with
    | .ended _ status => return status
    | .noChild | .nothingYet => return .exited 0
    | .interrupted =>
      let _ ← call .arrivals
      await pid n

/-! ### Variables -/

/-- Print variables. -/
def printVariables (e : Environment) : Tool Unit := do
  for (name, value) in e do printLine (name ++ '=' :: value)

/-- Run a program with other variables, or print them. -/
def env (all : List Text) : Tool Unit := do
  let a ← arguments 125 true "iu:0C:S:v" [long "ignore-environment" 'i' .nothing,
    long "unset" 'u' .value, long "null" '0' .nothing, long "chdir" 'C' .value] all
  let words := if a.operands.head? == some ['-'] then a.operands.drop 1 else a.operands
  let isEmpty := a.has 'i' || words.length < a.operands.length
  let inherited := (← get).environment
  let start := if isEmpty then [] else inherited
  let unset := (a.options.filter (·.1 == 'u')).map (·.2)
  let start := start.filter fun (name, _) => !unset.contains name
  let assignments := words.takeWhile (·.contains '=')
  let words := words.drop assignments.length
  let bindings := assignments.foldl (fun (e : Environment) w =>
    let name := w.takeWhile (· != '=')
    let value := w.drop (name.length + 1)
    if e.any (·.1 == name) then e.map fun p => if p.1 == name then (name, value) else p
    else e ++ [(name, value)]) start
  modify ({ · with environment := bindings })
  match a.value? 'C' with
  | some d =>
    match ← call (.enter d) with
    | .ok _ => pure ()
    | .error e =>
      die 125 ("cannot change directory to ".toList ++ quoted d ++ ": ".toList ++ reason e)
  | none => pure ()
  if words.isEmpty then printVariables bindings else become quoted words

/-- Print the values of variables. -/
def printenv (all : List Text) : Tool Unit := do
  let a ← arguments 2 true "0" [] all
  let bindings := (← get).environment
  if a.operands.isEmpty then printVariables bindings
  for name in a.operands do
    match bindings.find? (·.1 == name) with
    | some (_, value) => printLine value
    | none => setStatus 1

/-! ### Time -/

/-- The microseconds that a text spells as seconds, or as another unit by a letter behind it. -/
def duration? (t : Text) : Option Nat :=
  match Double.readNumber? t with
  | none => if t == "inf".toList || t == "infinity".toList then some (Nat.pow 10 15) else none
  | some (v, unit) =>
    let factor? : Option Nat :=
      match unit with
      | [] | ['s'] => some 1
      | ['m'] => some 60
      | ['h'] => some 3600
      | ['d'] => some 86400
      | _ => none
    factor?.map fun f => (v.num * f * 1000000 + (v.den - 1)) / v.den

/-- Wait for some time. -/
def sleep (all : List Text) : Tool Unit := do
  let a ← arguments 1 false "" [] all
  if a.operands.isEmpty then missingOperand []
  let times ← a.operands.mapM fun w => do
    match duration? w with
    | some t => return t
    | none =>
      warn ("invalid time interval ".toList ++ quoted w)
      setStatus 1
      return 0
  if (← get).status ≠ 0 then
    report ("Try '".toList ++ (← get).name ++ " --help' for more information.".toList)
    quit 1
  call (.sleep (times.foldl (· + ·) 0))

/-- Run a program for a limited time. -/
def timeout (all : List Text) : Tool Unit := do
  let a ← arguments 125 true "k:s:v" [long "kill-after" 'k' .value, long "signal" 's' .value,
    long "preserve-status" 'p' .nothing, long "foreground" 'f' .nothing,
    long "verbose" 'v' .nothing] all
  let usage {α : Type} : Tool α := do
    report ("Try '".toList ++ (← get).name ++ " --help' for more information.".toList)
    quit 125
  let interval (w : Text) : Tool Nat := do
    match duration? w with
    | some t => return t
    | none =>
      warn ("invalid time interval ".toList ++ quoted w)
      usage
  let signal ←
    match a.value? 's' with
    | none => pure Machine.Signal.terminate
    | some w =>
      match Machine.Signal.parse? w with
      | some n => pure n
      | none =>
        warn (quoted w ++ ": invalid signal".toList)
        usage
  match a.operands with
  | limit :: word :: words =>
    let limit ← interval limit
    let grace? ← (a.value? 'k').mapM interval
    let began : Nat ← call .clock
    let pid ← start (fun w => "failed to run command ".toList ++ quoted w) (word :: words)
    let timer? ←
      if limit = 0 then pure none
      else do
        let timer ← forkAction do
          Machine.ask (.sleep limit)
          let _ ← Machine.ask (.signal pid signal)
          match grace? with
          | some grace =>
            Machine.ask (.sleep grace)
            let _ ← Machine.ask (.signal pid 9)
          | none => pure ()
          return 0
        pure (some timer)
    let status ← await pid patience
    let ended : Nat ← call .clock
    let isLate := limit ≠ 0 && began + limit ≤ ended
    match timer? with
    | some timer =>
      let _ ← call (.signal timer 9)
    | none => pure ()
    match status with
    | .exited code => quit (if isLate && !a.has 'p' then 124 else code)
    | .signalled n =>
      if !isLate || n = 9 then
        let (own, _) : Nat × Nat ← call .identity
        if !isLate || signal = 9 then
          let _ ← call (.signal own n)
        quit (128 + n)
      else quit (if a.has 'p' then 128 + n else 124)
  | _ => usage

/-! ### Running programs in other ways -/

/-- Run a program after options that make no difference. -/
def runPlain (letters : String) (all : List Text) : Tool Unit := do
  let a ← arguments 125 true letters [] all
  match a.operands with
  | [] => misuse 125 "missing operand".toList
  | words => become (fun w => "failed to run command ".toList ++ quoted w) words

def nohup : List Text → Tool Unit := fun all => do
  call (.respond 1 .ignored)
  runPlain "" all

def nice (all : List Text) : Tool Unit := do
  let a ← arguments 125 true "n:" [long "adjustment" 'n' .value] all
  if a.operands.isEmpty then printLine ['0'] else become quoted a.operands

/-- What `xargs` reads: words, where quotes and backslashes keep blanks in them. -/
def wordsIn : Nat → Text → Text → Bool → Except Char (List Text)
  | 0, _, _, _ => .ok []
  | n + 1, t, acc, isPresent =>
    let add : Except Char (List Text) → Except Char (List Text) :=
      fun r => if isPresent then r.map (acc.reverse :: ·) else r
    match t with
    | [] => add (.ok [])
    | c :: rest =>
      if c == ' ' || c == '\t' || c == '\n' then add (wordsIn n rest [] false)
      else if c == '\'' || c == '"' then
        let inner := rest.takeWhile fun d => d != c && d != '\n'
        match rest.drop inner.length with
        | d :: rest => if d == c then wordsIn n rest (inner.reverse ++ acc) true else .error c
        | [] => .error c
      else if c == '\\' then
        match rest with
        | d :: rest => wordsIn n rest (d :: acc) true
        | [] => add (.ok [])
      else wordsIn n rest (c :: acc) true

/-- A list in pieces of a size. -/
def chunks {α : Type} (size : Nat) : Nat → List α → List (List α)
  | 0, _ => []
  | _, [] => []
  | n + 1, l => l.take (max 1 size) :: chunks size n (l.drop (max 1 size))

/-- Replace every occurrence of a text. -/
def replaced (old new : Text) : Nat → Text → Text
  | 0, t => t
  | _, [] => []
  | n + 1, c :: t =>
    match Text.afterPrefix? old (c :: t) with
    | some rest => new ++ replaced old new n rest
    | none => c :: replaced old new n t

/-- Run a program with arguments that are read. -/
def xargs (all : List Text) : Tool Unit := do
  let a ← arguments 1 true "0a:d:E:e::I:i::L:l::n:P:prs:tx" [long "null" '0' .nothing,
    long "arg-file" 'a' .value, long "delimiter" 'd' .value, long "max-args" 'n' .value,
    long "max-lines" 'L' .value, long "no-run-if-empty" 'r' .nothing, long "replace" 'I' .perhaps,
    long "verbose" 't' .nothing, long "max-procs" 'P' .value, long "exit" 'x' .nothing] all
  let fd ←
    match a.value? 'a' with
    | none => pure 0
    | some path =>
      match ← openInput path with
      | .ok fd => pure fd
      | .error e => die 1 ("Cannot open input file ".toList ++ quoted path ++ ": ".toList ++ reason e)
  let (t, _) ← readAll fd
  let wordsOf (t : Text) : Tool (List Text) := do
    match wordsIn (t.length + 1) t [] false with
    | .ok ws => return ws
    | .error c =>
      let name := if c == '"' then "double" else "single"
      die 1 ("unmatched ".toList ++ name.toList ++ " quote; by default quotes are special to xargs ".toList
        ++ "unless you use the -0 option".toList)
  let delimiter? : Option Char :=
    if a.has '0' then some '\x00'
    else (a.value? 'd').bind fun d =>
      match d with
      | ['\\', 'n'] => some '\n'
      | ['\\', 't'] => some '\t'
      | ['\\', '0'] => some '\x00'
      | c :: _ => some c
      | [] => none
  let mark? : Option Text :=
    match a.last? "Ii" with
    | some c => some (let v := (a.value? c).getD []; if v.isEmpty then "\x7b\x7d".toList else v)
    | none => none
  let command := if a.operands.isEmpty then ["echo".toList] else a.operands
  let lines : List Text := (linesOf '\n' t).filter fun l => !(l.dropWhile isBlankChar).isEmpty
  let runs : List (List Text) ←
    match mark?, delimiter? with
    | some mark, delimiter? =>
      let items : List Text := match delimiter? with
        | some d => linesOf d t
        | none => lines.map (·.dropWhile isBlankChar)
      pure (items.map fun item =>
        command.map fun w => replaced mark item (w.length + 1) w)
    | none, some d =>
      let items := linesOf d t
      pure ((grouped items).map (command ++ ·))
    | none, none =>
      match a.value? 'L' with
      | some k =>
        let groups := chunks (Text.valueOf 10 k) (lines.length + 1) lines
        groups.mapM fun g => do return command ++ (← wordsOf (Text.joinWith ['\n'] g))
      | none =>
        let items ← wordsOf t
        let size? := (a.value? 'n').map (Text.valueOf 10)
        match size? with
        | some k => pure ((chunks k (items.length + 1) items).map (command ++ ·))
        | none => pure (if items.isEmpty then [] else [command ++ items])
  let runs := if runs.isEmpty && mark?.isNone && !a.has 'r' then [command] else runs
  let size? := (a.value? 'n').map (Text.valueOf 10)
  let runs ←
    match delimiter?, size? with
    | some _, some k =>
      if mark?.isSome then pure runs
      else
        let items := runs.flatMap (·.drop command.length)
        pure ((chunks k (items.length + 1) items).map (command ++ ·))
    | _, _ => pure runs
  for words in runs do
    if a.has 't' then report (Text.joinWith [' '] (words.map quotedIfNeeded))
    let pid ← start id words
    match ← await pid patience with
    | .exited 0 => pure ()
    | .exited 255 => die 124 (words.headD [] ++ ": exited with status 255; aborting".toList)
    | .exited code =>
      if code = 126 || code = 127 then quit code else setStatus 123
    | .signalled n =>
      die 125 (words.headD [] ++ ": terminated by signal ".toList ++ Text.decimal n)
where
  isBlankChar (c : Char) : Bool := c == ' ' || c == '\t'
  grouped (items : List Text) : List (List Text) := if items.isEmpty then [] else [items]

/-- Find programs. -/
def which (all : List Text) : Tool Unit := do
  let a ← arguments 2 true "as" [] all
  let search := (← environmentValue? "PATH").getD []
  if a.operands.isEmpty then setStatus 1
  for name in a.operands do
    let paths := if name.contains '/' then [name]
      else (Text.splitBy (· == ':') search).map fun d => inside (if d.isEmpty then ['.'] else d) name
    let found ← paths.filterM fun p => do
      return (← facts? p).any fun f => f.kind == .regular && f.isExecutable
    if found.isEmpty then setStatus 1
    for p in (if a.has 'a' then found else found.take 1) do printLine p

/-- Send signals. -/
def kill (all : List Text) : Tool Unit := do
  let (signal?, words) : Option Nat × List Text :=
    match all with
    | ['-', 's'] :: name :: rest => (Machine.Signal.parse? name, rest)
    | ('-' :: name) :: rest => (Machine.Signal.parse? name, rest)
    | rest => (some Machine.Signal.terminate, rest)
  match signal? with
  | none => die 1 "invalid signal".toList
  | some n =>
    for w in words do
      if w.isEmpty || !w.all Char.isDigit then
        fault ("failed to parse argument: ".toList ++ quoted w)
      else
        match ← call (.signal (Text.valueOf 10 w) n) with
        | .ok _ => pure ()
        | .error e => fault ('(' :: w ++ "): ".toList ++ reason e)

/-! ### Printing -/

/-- Print arguments. -/
def echo (all : List Text) : Tool Unit := do
  let isOption (w : Text) : Bool :=
    match w with
    | '-' :: c :: cs => (c :: cs).all "neE".toList.contains
    | _ => false
  let options := (all.takeWhile isOption).flatMap (·.drop 1)
  let words := all.dropWhile isOption
  let escapes := (options.filter (· != 'n')).getLast? == some 'e'
  let t := Text.joinWith [' '] words
  let (t, isOver) := if escapes then Shell.echoed t else (t, false)
  print (t ++ if isOver || options.contains 'n' then [] else ['\n'])

/-- Print arguments as a format says. -/
def printf (all : List Text) : Tool Unit := do
  match (if all.head? == some ['-', '-'] then all.drop 1 else all) with
  | [] => missingOperand []
  | form :: words =>
    let (t, complaints, fault?) := Shell.format form words
    print t
    for c in complaints do
      let word := (c.reverse.dropWhile (· != ':')).reverse.dropLast
      let what := c.drop (word.length + 2)
      let what := if what == "expected numeric value".toList then "expected a numeric value".toList
        else if what == "not completely converted".toList then "value not completely converted".toList
        else what
      fault (quoted word ++ ": ".toList ++ what)
    match fault? with
    | some f => die 1 f
    | none => return

/-- Print the directory. -/
def pwd (_ : List Text) : Tool Unit := do printLine (← call .directory)

/-- Print a constant. -/
def constant (t : String) (_ : List Text) : Tool Unit := printLine t.toList

/-- Print who runs the tool. -/
def id_ (all : List Text) : Tool Unit := do
  let a ← arguments 1 false "ugGnrz" [long "user" 'u' .nothing, long "name" 'n' .nothing,
    long "group" 'g' .nothing] all
  if (a.last? "ugG").isSome then printLine (if a.has 'n' then "root".toList else ['0'])
  else printLine "uid=0(root) gid=0(root) groups=0(root)".toList

/-- Print what the system is. -/
def uname (all : List Text) : Tool Unit := do
  let a ← arguments 1 false "asnrvmpio" [long "all" 'a' .nothing] all
  let parts : List (Char × String) :=
    [('s', "Linux"), ('n', "localhost"), ('r', "6.1.0"), ('v', "#1 SMP"), ('m', "x86_64"),
      ('o', "GNU/Linux")]
  let letters := if a.options.isEmpty then ['s'] else a.options.map (·.1)
  let chosen := parts.filter fun (c, _) => letters.contains c || letters.contains 'a'
  printLine (Text.joinWith [' '] (chosen.map (·.2.toList)))

/-- Say that the input is no terminal. -/
def tty (all : List Text) : Tool Unit := do
  let a ← arguments 2 false "s" [] all
  if !a.has 's' then printLine "not a tty".toList
  setStatus 1

end RuleSets.Utility.Tool
