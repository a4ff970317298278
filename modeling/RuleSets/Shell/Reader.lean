import RuleSets.Shell.Source
import RuleSets.Text.Numeral

/-!
# Reading scripts

A reader of the shell's grammar.  A script is read one line of commands at a time, since a line can
change how the next one is read, and what comes before a mistake is done before the mistake is
noticed.  Fuel bounds the depth of the reading; `Source.depth` is more than any script takes.
-/

namespace RuleSets.Shell

namespace Reading

/-- Put a piece of text behind pieces, of which the last comes first. -/
def consText (p : Place) (t : Text) (acc : Word) : Word :=
  match acc, p.inQuotes with
  | .plain s :: rest, false => .plain (s ++ t) :: rest
  | .quoted s :: rest, true => .quoted (s ++ t) :: rest
  | acc, _ => p.literal t :: acc

/-- Whether a piece stands in quotes. -/
def isQuotation : Piece → Bool
  | .quoted _ | .mark => true
  | _ => false

/-- Read the name of a parameter that begins with a character. -/
def parameterName (c : Char) : Reading Text :=
  if isNameStart c then takeWhile isNameChar
  else if c.isDigit then takeWhile Char.isDigit
  else do
    skip 1
    return [c]

/-- What is done with the word after an operator behind a parameter. -/
def otherwise? : Char → Option Otherwise
  | '-' => some .useWord
  | '=' => some .assignWord
  | '?' => some .complain
  | '+' => some .replaceValue
  | _ => none

/-- A redirection operator behind its descriptor. -/
def readArrow (descriptor? : Option Nat) : Reading Arrow := do
  if ← accept '>' then
    let kind ←
      if ← accept '>' then pure (.file .append)
      else if ← accept '|' then pure (.file .overwrite)
      else if ← accept '&' then pure .duplicate
      else pure (.file .output)
    return ⟨descriptor?.getD 1, kind⟩
  else
    skip 1
    let kind ←
      if ← accept '<' then pure (.document (← accept '-'))
      else if ← accept '&' then pure .duplicate
      else if ← accept '>' then pure (.file .both)
      else pure (.file .input)
    return ⟨descriptor?.getD 0, kind⟩

/-- The descriptor that a word in front of a redirection operator is. -/
def descriptor? : Word → Option (Option Nat)
  | [] => some none
  | [.plain [c]] => if c.isDigit then some (some (Text.digitValue c)) else none
  | _ => none

/-- The text of a word without its quotes. -/
def unquoted (w : Word) : Text :=
  w.flatMap fun
    | .plain s | .quoted s => s
    | _ => []

/-- Pass blanks and a comment. -/
def skipBlanks : Nat → Reading Unit
  | 0 => return
  | n + 1 => do
    match ← peek? with
    | some ' ' | some '\t' =>
      skip 1
      skipBlanks n
    | some '#' => let _ ← takeWhile (· != '\n')
    | _ => return

/-- An operator at the start of a script. -/
def operator? (s : Text) : Option Text :=
  (["&&", "&", "||", "|", ";;", ";", "(", ")"].map String.toList).find? (·.isPrefixOf s)

mutual
/-- Read the pieces of a word up to where they end; the pieces so far come last one first.  `open_`
counts the parentheses that are open in an expression. -/
def readPieces : Nat → Place → Nat → Word → Reading Word
  | 0, _, _, _ => fail "too long".toList
  | n + 1, place, open_, acc => do
    let t ← if (← peek?).isSome then takeWhile isOrdinary else pure []
    let acc := if t.isEmpty then acc else consText place t acc
    match ← peek? with
    | none =>
      match place.complaint? with
      | some complaint => fail complaint.toList
      | none => return acc.reverse
    | some c =>
      if place.isEndedBy c then
        if place.kind ≠ .word ∧ place.kind ≠ .delimiter then skip 1
        return acc.reverse
      else if c == '\\' then
        skip 1
        match (← get).rest with
        | [] => readPieces n place open_ (consText place ['\\'] acc)
        | c :: _ =>
          skip 1
          if place.escapes c then readPieces n place open_ (.quoted [c] :: acc)
          else readPieces n place open_ (consText place ['\\', c] acc)
      else if c == '\'' && place.knowsQuotes then
        skip 1
        let t ← takeWhile (· != '\'')
        if (← get).rest.isEmpty then fail "Unterminated quoted string".toList
        skip 1
        readPieces n place open_ (.mark :: .quoted t :: .mark :: acc)
      else if c == '"' && (place.knowsQuotes || place.kind == .braces) then
        skip 1
        match ← readPieces n place.double 0 [] with
        | [.parameter true ['@'] .whole] =>
          -- All arguments make no field where there are none, so no mark stands around them.
          readPieces n place open_ (.parameter true ['@'] .whole :: acc)
        | inner => readPieces n place open_ (.mark :: inner.reverse ++ .mark :: acc)
      else if place.kind == .delimiter then
        skip 1
        if c == '\x60' then readPieces n place open_ (.quoted [c] :: acc)
        else readPieces n place open_ (consText place [c] acc)
      else if c == '$' then
        skip 1
        let p ← readDollar n place
        match p with
        | some p => readPieces n place open_ (p :: acc)
        | none => readPieces n place open_ (consText place ['$'] acc)
      else if c == '\x60' then
        skip 1
        let c ← readBackquoted n place.inQuotes
        readPieces n place open_ (.output place.inQuotes c :: acc)
      else if place.kind == .arithmetic && c == ')' && open_ == 0 then
        skip 1
        if ← accept ')' then return acc.reverse
        else readPieces n place open_ (consText place [')'] acc)
      else
        skip 1
        let open_ := if c == '(' then open_ + 1 else if c == ')' then open_ - 1 else open_
        readPieces n place open_ (consText place [c] acc)

/-- Read what follows a dollar sign; nothing, if it only stands for itself. -/
def readDollar : Nat → Place → Reading (Option Piece)
  | 0, _ => fail "too long".toList
  | n + 1, place => do
    match ← peek? with
    | some '(' =>
      skip 1
      if ← accept '(' then
        return some (.arithmetic place.inQuotes (← readPieces n place.arithmetic 0 []))
      else return some (.output place.inQuotes (← readSubstitution n))
    | some '{' =>
      skip 1
      return some (← readBraced n place)
    | some c =>
      if isNameStart c then
        return some (.parameter place.inQuotes (← takeWhile isNameChar) .whole)
      else if isSpecial c then
        skip 1
        return some (.parameter place.inQuotes [c] .whole)
      else return none
    | none => return none

/-- Read the name of a parameter in braces and what is to be done with its value. -/
def readBraced : Nat → Place → Reading Piece
  | 0, _ => fail "too long".toList
  | n + 1, place => do
    let length (name : Text) : Reading Piece := do
      if ← accept '\x7d' then return .parameter place.inQuotes name .length
      else readMalformed n place
    match ← peek? with
    | some '#' =>
      skip 1
      match (← peek?), (← get).rest.drop 1 with
      | some '}', _ => return ← readNamed n place ['#']
      | some c, after =>
        if isNameChar c then length (← parameterName c)
        else if after.head? != some '\x7d' then readNamed n place ['#']
        else if isSpecial c then
          skip 1
          length [c]
        else readMalformed n place
      | none, _ => readMalformed n place
    | some c =>
      if isNameStart c || isSpecial c then readNamed n place (← parameterName c)
      else readMalformed n place
    | none => readMalformed n place

/-- Read what is to be done with the value of a parameter. -/
def readNamed : Nat → Place → Text → Reading Piece
  | 0, _, _ => fail "too long".toList
  | n + 1, place, name => do
    let word (inQuotes : Bool) := readPieces n (place.braces inQuotes) 0 []
    let trim (c : Char) : Reading Piece := do
      let longest ← accept c
      return .parameter place.inQuotes name (.trim (c == '%') longest (← word false))
    match ← peek? with
    | none => readMalformed n place
    | some c =>
      skip 1
      if c == '\x7d' then return .parameter place.inQuotes name .whole
      else if c == '%' || c == '#' then trim c
      else
        let (orEmpty, how?) ←
          if c == ':' then do
            let how? := (← peek?).bind otherwise?
            if (← peek?).isSome then skip 1
            pure (true, how?)
          else pure (false, otherwise? c)
        match how? with
        | some how =>
          return .parameter place.inQuotes name (.otherwise how orEmpty (← word place.inQuotes))
        | none => readMalformed n place

/-- Read to the closing brace of something that means nothing. -/
def readMalformed : Nat → Place → Reading Piece
  | 0, _ => fail "too long".toList
  | n + 1, place => do
    let _ ← readPieces n (place.braces place.inQuotes) 0 []
    return .malformed

/-- Read a command up to the parenthesis that closes it. -/
def readSubstitution : Nat → Reading Command
  | 0 => fail "too long".toList
  | n + 1 => do
    let announced := (← get).announced
    modify ({ · with announced := [] })
    let c? ← readList n false true none
    let t ← readToken n false false false
    if !t.isOperator ")" then expecting (.operator [')']) t
    modify ({ · with announced := announced })
    return c?.getD .nothing

/-- Read a command between backticks. -/
def readBackquoted : Nat → Bool → Reading Command
  | 0, _ => fail "too long".toList
  | n + 1, inQuotes => do
    let src ← get
    match backquoted inQuotes 0 src.rest with
    | none =>
      skip src.rest.length
      fail "EOF in backquote substitution".toList
    | some (t, used) =>
      skip used
      let outer ← get
      set { outer with rest := t, line := 1, announced := [] }
      let c? ← readList n false true none
      let inner ← get
      set { outer with documents := inner.documents, next := inner.next }
      return c?.getD .nothing

/-- Read the documents that have been announced. -/
def readDocuments : Nat → Reading Unit
  | 0 => fail "too long".toList
  | n + 1 => do
    match (← get).announced with
    | [] => return
    | d :: rest =>
      let src ← get
      let (t, used) := documentText d (src.rest.length + 1) 0 src.rest
      let word ←
        if d.isQuoted then pure [.quoted t]
        else do
          set { src with rest := t }
          readPieces n .document 0 []
      modify fun inner =>
        { inner with rest := src.rest, line := src.line, announced := rest
                     documents := (d.number, word) :: inner.documents }
      skip used
      readDocuments n

/-- Read a token where none has been given back. -/
def readFresh : Nat → Reading Token
  | 0 => fail "too long".toList
  | n + 1 => do
    skipBlanks ((← get).rest.length + 1)
    match ← peek? with
    | none => return .finish
    | some '\n' =>
      skip 1
      return .newline
    | some _ =>
      match operator? (← get).rest with
      | some s =>
        skip s.length
        return .operator s
      | none =>
        let w ← readPieces n .word 0 []
        match descriptor? w, (← get).rest.head? with
        | some descriptor?, some '<' | some descriptor?, some '>' =>
          return .arrow (← readArrow descriptor?)
        | _, _ => return .word w (w.any isQuotation)

/-- Whether an alias has come to an end in a blank since so much of the script was left. -/
def isBehindAlias (before : Nat) : Reading Bool := do
  let src ← get
  return src.expanding.any fun (_, stop, endsBlank) =>
    endsBlank && stop < before && src.rest.length ≤ stop

/-- Read a token.  Ends of lines may be passed over, and reserved words and aliases be noticed. -/
def readToken : Nat → Bool → Bool → Bool → Reading Token
  | 0, _, _, _ => fail "too long".toList
  | n + 1, newlines, reserved, aliased => do
    let src ← get
    let t ←
      match src.pushed? with
      | some t => do
        set { src with pushed? := none }
        pure t
      | none => readFresh n
    match t with
    | .newline =>
      if newlines then
        readDocuments n
        readToken n true reserved aliased
      else return t
    | .word w false =>
      match w.bare? with
      | none => return t
      | some name =>
        if reserved && reservedWords.contains name then return .reserved name
        else if aliased || (← isBehindAlias src.rest.length) then
          let src ← get
          let expanding := src.expanding.filter (·.2.1 < src.rest.length)
          match src.aliases.find? (·.1 == name) with
          | some (_, value) =>
            if expanding.any (·.1 == name) then return t
            else
              let endsBlank := value.getLast?.any fun c => c == ' ' || c == '\t'
              let expanding := (name, src.rest.length, endsBlank) :: expanding
              set { src with rest := value ++ ' ' :: src.rest, expanding := expanding }
              readToken n newlines reserved true
          | none => return t
        else return t
    | t => return t

/-- Read commands in sequence.  A single line ends at its end; else the commands end before a token
that ends a list, which may be at once if `mayEnd`. -/
def readList : Nat → Bool → Bool → Option Command → Reading (Option Command)
  | 0, _, _, _ => fail "too long".toList
  | n + 1, oneLine, mayEnd, acc? => do
    let finished : Reading (Option Command) := do
      readDocuments n
      push .finish
      return acc?
    match ← readToken n (!oneLine) true true with
    | .newline =>
      readDocuments n
      return acc?
    | .finish => finished
    | t =>
      push t
      if mayEnd && !oneLine && t.endsList then return acc?
      else
        let c ← readAndOr n
        let t ← readToken n false false false
        let c := if t.isOperator "&" then inBackground c else c
        let c := match acc? with | some acc => .both acc c | none => c
        match t with
        | .finish =>
          readDocuments n
          push .finish
          return some c
        | .newline =>
          push t
          readList n oneLine true (some c)
        | t =>
          if t.isOperator ";" || t.isOperator "&" then readList n oneLine true (some c)
          else if oneLine then unexpected t
          else
            push t
            return some c
where
  /-- A command that nobody waits for. -/
  inBackground : Command → Command
    | .pipeline parts _ => .pipeline parts true
    | .redirected line c redirects => .background line c redirects
    | c => .background (lineOf c) c []
  /-- The line of a command. -/
  lineOf : Command → Nat
    | .simple line _ _ _ | .subshell line _ _ | .each line _ _ _ | .choice line _ _
    | .define line _ _ => line
    | _ => 0

/-- Read commands that depend on each other. -/
def readAndOr : Nat → Reading Command
  | 0 => fail "too long".toList
  | n + 1 => do joined n (← readPipeline n false false)

/-- Read what is joined to a command by its success or failure. -/
def joined : Nat → Command → Reading Command
  | 0, _ => fail "too long".toList
  | n + 1, c => do
    let t ← readToken n false false false
    if t.isOperator "&&" then joined n (.ifOk c (← readPipeline n true true))
    else if t.isOperator "||" then joined n (.ifFailed c (← readPipeline n true true))
    else
      push t
      return c

/-- Read a pipeline. -/
def readPipeline : Nat → Bool → Bool → Reading Command
  | 0, _, _ => fail "too long".toList
  | n + 1, newlines, fresh => do
    let t ← readToken n newlines fresh fresh
    let isNegated := t.isReserved "!"
    if !isNegated then push t
    let first ← readCommand n false isNegated
    let c ← readParts n [first]
    return if isNegated then .negated c else c

/-- Read the parts of a pipeline behind those that come first, the last one first. -/
def readParts : Nat → List Command → Reading Command
  | 0, _ => fail "too long".toList
  | n + 1, parts => do
    let t ← readToken n false false false
    if t.isOperator "|" then readParts n ((← readCommand n true true) :: parts)
    else
      push t
      match parts with
      | [c] => return c
      | parts => return .pipeline parts.reverse false

/-- Read a command. -/
def readCommand : Nat → Bool → Bool → Reading Command
  | 0, _, _ => fail "too long".toList
  | n + 1, newlines, fresh => do
    let start ← line
    let t ← readToken n newlines fresh fresh
    let closed (c : Command) (closing : String) : Reading Command := do
      let t ← readToken n false false false
      if !t.isReserved closing && !t.isOperator closing then expecting (.reserved closing.toList) t
      redirected n start c
    match t with
    | .word _ _ | .arrow _ =>
      push t
      readSimple n
    | .operator s =>
      if s == ['('] then
        let c? ← readList n false false none
        closed (.subshell start (c?.getD .nothing) []) ")"
      else unexpected t
    | .reserved s =>
      match String.ofList s with
      | "if" => closed (← readBranch n) "fi"
      | "while" | "until" =>
        let condition ← readBody n
        expect n "do"
        closed (.loop (s == "until".toList) condition (← readBody n)) "done"
      | "for" =>
        let (name, words) ← readRange n
        let t ← readToken n true true true
        if !t.isReserved "do" then expecting (.reserved "do".toList) t
        closed (.each start name words (← readBody n)) "done"
      | "case" =>
        match ← readToken n false false false with
        | .word w _ =>
          let t ← readToken n true true true
          if !t.isReserved "in" then expecting (.reserved "in".toList) t
          let cases ← readCases n []
          redirected n start (.choice start w cases)
        | t => expecting .anyWord t
      | "\x7b" => closed (← readBody n) "\x7d"
      | _ => unexpected t
    | t => unexpected t

/-- Read a reserved word. -/
def expect : Nat → String → Reading Unit
  | 0, _ => fail "too long".toList
  | n + 1, s => do
    let t ← readToken n false false false
    if !t.isReserved s then expecting (.reserved s.toList) t

/-- Read the commands of a part of a compound command. -/
def readBody : Nat → Reading Command
  | 0 => fail "too long".toList
  | n + 1 => do return (← readList n false false none).getD .nothing

/-- Read the condition and the branches of a choice by success. -/
def readBranch : Nat → Reading Command
  | 0 => fail "too long".toList
  | n + 1 => do
    let condition ← readBody n
    expect n "then"
    let yes ← readBody n
    let t ← readToken n false false false
    if t.isReserved "elif" then return .branch condition yes (← readBranch n)
    else if t.isReserved "else" then return .branch condition yes (← readBody n)
    else
      push t
      return .branch condition yes .nothing

/-- Read the name of a variable and the words that it stands for in turn: all arguments, if there
are none. -/
def readRange : Nat → Reading (Text × List Word)
  | 0 => fail "too long".toList
  | n + 1 => do
    match ← readToken n false false false with
    | .word w false =>
      match w.bare? with
      | some name =>
        if !isName name then fail "Bad for loop variable".toList
        let t ← readToken n true true true
        if t.isReserved "in" then
          let (words, t) ← readWords n []
          match t with
          | .newline => return (name, words)
          | t => if t.isOperator ";" then return (name, words) else unexpected t
        else
          if !t.isOperator ";" then push t
          return (name, [[.parameter true ['@'] .whole]])
      | none => fail "Bad for loop variable".toList
    | _ => fail "Bad for loop variable".toList

/-- Read words, and the token that follows them. -/
def readWords : Nat → List Word → Reading (List Word × Token)
  | 0, _ => fail "too long".toList
  | n + 1, words => do
    match ← readToken n false false false with
    | .word w _ => readWords n (w :: words)
    | t => return (words.reverse, t)

/-- Read the cases of a choice by a word, to the end of the choice. -/
def readCases : Nat → List (List Word × Command) → Reading (List (List Word × Command))
  | 0, _ => fail "too long".toList
  | n + 1, cases => do
    let t ← readToken n true true false
    if t.isReserved "esac" then return cases.reverse
    else
      let t ← if t.isOperator "(" then readToken n false false false else pure t
      let patterns ← readPatterns n t []
      let body ← readList n false true none
      let cases := (patterns, body.getD .nothing) :: cases
      let t ← readToken n true true false
      if t.isReserved "esac" then return cases.reverse
      else if t.isOperator ";;" then readCases n cases
      else expecting (.operator ";;".toList) t

/-- Read the patterns of a case, of which the first token has been read. -/
def readPatterns : Nat → Token → List Word → Reading (List Word)
  | 0, _, _ => fail "too long".toList
  | n + 1, t, patterns => do
    let pattern ←
      match t with
      | .word w _ => pure w
      | .reserved s => pure [.plain s]
      | t => expecting .anyWord t
    let t ← readToken n false false false
    if t.isOperator "|" then readPatterns n (← readToken n false false false) (pattern :: patterns)
    else if t.isOperator ")" then return (pattern :: patterns).reverse
    else expecting (.operator [')']) t

/-- Read the word behind a redirection operator. -/
def readTarget : Nat → Arrow → Reading Redirect
  | 0, _ => fail "too long".toList
  | n + 1, a => do
    match a.kind with
    | .document stripsTabs =>
      skipBlanks ((← get).rest.length + 1)
      let w ← readPieces n .delimiter 0 []
      if w.isEmpty then unexpected (← readFresh n)
      let src ← get
      let d : Announced := ⟨src.next, unquoted w, stripsTabs, w.any isQuotation⟩
      set { src with announced := src.announced ++ [d], next := src.next + 1 }
      return .document a.descriptor d.number
    | kind =>
      match ← readToken n false false false with
      | .word w _ =>
        match kind with
        | .file access => return .file a.descriptor access w
        | _ => return .duplicate a.descriptor w
      | t => unexpected t

/-- Read the redirections behind a compound command. -/
def redirected : Nat → Nat → Command → Reading Command
  | 0, _, _ => fail "too long".toList
  | n + 1, start, c => do
    let redirects ← readRedirects n []
    match c, redirects with
    | c, [] => return c
    | .subshell line c _, redirects => return .subshell line c redirects
    | c, redirects => return .redirected start c redirects

/-- Read redirections. -/
def readRedirects : Nat → List Redirect → Reading (List Redirect)
  | 0, _ => fail "too long".toList
  | n + 1, redirects => do
    match ← readToken n false true true with
    | .arrow a => readRedirects n ((← readTarget n a) :: redirects)
    | t =>
      push t
      return redirects.reverse

/-- Read a simple command or the definition of a function. -/
def readSimple : Nat → Reading Command
  | 0 => fail "too long".toList
  | n + 1 => do readArguments n (← line) [] [] []

/-- Read the rest of a simple command; what has been read of it comes last one first. -/
def readArguments : Nat → Nat → List (Text × Word) → List Word → List Redirect → Reading Command
  | 0, _, _, _, _ => fail "too long".toList
  | n + 1, start, assignments, words, redirects => do
    match ← readToken n false false words.isEmpty with
    | .word w _ =>
      match (if words.isEmpty then w.assignment? else none) with
      | some a => readArguments n start (a :: assignments) words redirects
      | none => readArguments n start assignments (w :: words) redirects
    | .arrow a => readArguments n start assignments words ((← readTarget n a) :: redirects)
    | t =>
      match words with
      | [w] =>
        if t.isOperator "(" && assignments.isEmpty && redirects.isEmpty then
          let t ← readToken n false false false
          if !t.isOperator ")" then expecting (.operator [')']) t
          match w.bare? with
          | some name =>
            if !isName name || isSpecialName name then fail "Bad function name".toList
            let start ← line
            return .define start name (← readCommand n true true)
          | none => fail "Bad function name".toList
        else
          push t
          return .simple start assignments.reverse words redirects.reverse
      | words =>
        push t
        return .simple start assignments.reverse words.reverse redirects.reverse
end

end Reading

namespace Source

/-- A script from its start. -/
def start (script : Text) : Source where
  rest := script
  line := 1
  pushed? := none
  announced := []
  documents := []
  next := 0
  aliases := []
  expanding := []

/-- How deep the reading of a script may go. -/
def depth (src : Source) : Nat := 16 * src.rest.length + 100000

/-- Read the commands of a line.  There are none at the end of the script. -/
def readLine (src : Source) : Except Mistake (Option Command × Source) :=
  (Reading.readList src.depth true false none).run src

/-- The word that a text is between double quotes. -/
def quotedWord (t : Text) : Except Mistake Word :=
  let src := start t
  ((Reading.readPieces src.depth .document 0 []).run src).map (·.1)

/-- Whether the script has been read to its end. -/
def isDone (src : Source) : Bool :=
  match src.pushed? with
  | some .finish => true
  | _ => false

end Source
end RuleSets.Shell
