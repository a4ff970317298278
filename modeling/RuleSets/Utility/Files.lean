import RuleSets.Utility.Stream

/-!
# Files

Tools that copy, move, remove, make and describe files.
-/

namespace RuleSets.Utility.Tool

/-! ### Names of paths -/

/-- The last name of a path. -/
def lastName (word : Text) : Text :=
  let s := word.reverse.dropWhile (· == '/')
  if s.isEmpty then word.take 1 else (s.takeWhile (· != '/')).reverse

/-- A path without its last name. -/
def parentName (word : Text) : Text :=
  let s := (word.reverse.dropWhile (· == '/')).dropWhile (· != '/')
  let root : Text := if word.head? == some '/' then ['/'] else ['.']
  if s.isEmpty then root
  else
    let s := s.dropWhile (· == '/')
    if s.isEmpty then ['/'] else s.reverse

/-- The path of a name in a directory. -/
def inside (directory name : Text) : Text :=
  if directory.getLast? == some '/' then directory ++ name else directory ++ '/' :: name

/-- Print the last names of paths. -/
def basename (all : List Text) : Tool Unit := do
  let a ← arguments 1 true "as:z" [long "multiple" 'a' .nothing, long "suffix" 's' .value,
    long "zero" 'z' .nothing] all
  let ending := if a.has 'z' then ['\x00'] else ['\n']
  let show_ (word suffix : Text) : Tool Unit := do
    let name := lastName word
    let cut := if suffix == name then none else Text.beforeSuffix? suffix name
    print (cut.getD name ++ ending)
  match a.operands with
  | [] => missingOperand []
  | words =>
    if a.has 'a' || a.has 's' then for word in words do show_ word ((a.value? 's').getD [])
    else
      match words with
      | _ :: _ :: extra :: _ => extraOperand extra
      | [word, suffix] => show_ word suffix
      | words => show_ (words.headD []) []

/-- Print paths without their last names. -/
def dirname (all : List Text) : Tool Unit := do
  let a ← arguments 1 true "z" [long "zero" 'z' .nothing] all
  if a.operands.isEmpty then missingOperand []
  for word in a.operands do print (parentName word ++ if a.has 'z' then ['\x00'] else ['\n'])

/-! ### Copying and moving -/

/-- Where operands go. -/
structure Goal where
  sources : List Text
  /-- The directory that takes them all, or the path of the only one. -/
  path : Text
  isDirectory : Bool

/-- Find out where operands go. -/
def goal (a : Arguments) : Tool Goal := do
  match a.value? 't' with
  | some directory =>
    if a.operands.isEmpty then misuse 1 "missing file operand".toList
    if ← isDirectory directory then return ⟨a.operands, directory, true⟩
    else
      let e := if (← facts? directory).isSome then IoError.notADirectory else .notFound
      die 1 ("target directory ".toList ++ quoted directory ++ ": ".toList ++ reason e)
  | none =>
    match a.operands.reverse with
    | [] => misuse 1 "missing file operand".toList
    | [word] => misuse 1 ("missing destination file operand after ".toList ++ quoted word)
    | path :: sources =>
      let sources := sources.reverse
      if a.has 'T' then
        match sources with
        | [_] => return ⟨sources, path, false⟩
        | _ => misuse 1 ("extra operand ".toList ++ quoted path)
      else if ← isDirectory path then return ⟨sources, path, true⟩
      else
        match sources with
        | [_] => return ⟨sources, path, false⟩
        | _ =>
          let e := if (← facts? path).isSome then IoError.notADirectory else .notFound
          die 1 ("target ".toList ++ quoted path ++ ": ".toList ++ reason e)

/-- The path that a source gets. -/
def Goal.of (g : Goal) (source : Text) : Text :=
  if g.isDirectory then inside g.path (lastName source) else g.path

/-- The names in a directory, in order. -/
def namesIn (path : Text) : Tool (List Text) := do
  match ← call (.list path) with
  | .ok names => return Text.sorted names
  | .error _ => return []

/-- Copy what is in a file to another one. -/
def copyContents (source target : Text) (facts : Machine.FileFacts) : Tool Unit := do
  match ← call (.openFile source .input) with
  | .error e =>
    fault ("cannot open ".toList ++ quoted source ++ " for reading: ".toList ++ reason e)
  | .ok fd =>
    let isNew := (← facts? target).isNone
    match ← call (.openFile target .output) with
    | .error e =>
      let e := if e == .isADirectory then IoError.notADirectory else e
      fault ("cannot create regular file ".toList ++ quoted target ++ ": ".toList ++ reason e)
    | .ok goal =>
      if isNew && facts.isExecutable then
        let _ ← call (.edit (.setExecutable target true))
      let (_, e?) ← eachPiece fd (fun _ t => do
        match ← call (.write goal t) with
        | .ok _ => return ()
        | .error e => fault ("error writing ".toList ++ quoted target ++ ": ".toList ++ reason e))
        patience ()
      match e? with
      | some e => fault ("error reading ".toList ++ quoted source ++ ": ".toList ++ reason e)
      | none => pure ()
      closeInput goal
    closeInput fd

/-- How files are copied. -/
structure CopyMode where
  isRecursive : Bool
  spares : Bool
  tells : Bool
  links : Bool

/-- Copy a file, or a directory with all that is in it. -/
def copyTree (m : CopyMode) : Nat → Text → Text → Tool Unit
  | 0, _, _ => return
  | n + 1, source, target => do
    match ← call (.facts source) with
    | .error e => fault ("cannot stat ".toList ++ quoted source ++ ": ".toList ++ reason e)
    | .ok f =>
      let old? ← facts? target
      let arrow := quoted source ++ " -> ".toList ++ quoted target
      if f.kind == .directory then
        if !m.isRecursive then
          fault ("-r not specified; omitting directory ".toList ++ quoted source)
        else if old?.any (·.kind != .directory) then
          fault ("cannot overwrite non-directory ".toList ++ quoted target ++ " with directory ".toList
            ++ quoted source)
        else
          let names ← namesIn source
          let isInside := old?.isNone && (← liesInside f.identity (parentName target))
          let isMade ←
            if old?.isSome then pure true
            else
              match ← call (.edit (.makeDirectory target)) with
              | .ok _ =>
                if m.tells then printLine arrow
                pure true
              | .error e =>
                fault ("cannot create directory ".toList ++ quoted target ++ ": ".toList ++ reason e)
                pure false
          if isMade then
            for name in names do copyTree m n (inside source name) (inside target name)
          if isInside then
            fault ("cannot copy a directory, ".toList ++ quoted source ++ ", into itself, ".toList ++
              quoted target)
      else if old?.any (·.identity == f.identity) then
        fault (quoted source ++ " and ".toList ++ quoted target ++ " are the same file".toList)
      else if old?.any (·.kind == .directory) then
        fault ("cannot overwrite directory ".toList ++ quoted target ++ " with non-directory".toList)
      else if m.spares && old?.isSome then return
      else
        if m.links then
          match ← call (.edit (.link source target)) with
          | .ok _ => pure ()
          | .error e =>
            fault ("cannot create hard link ".toList ++ quoted target ++ " to ".toList ++
              quoted source ++ ": ".toList ++ reason e)
        else copyContents source target f
        if m.tells then printLine arrow
where
  /-- Whether a directory lies in another one. -/
  liesInside (identity : Text) (path : Text) : Tool Bool := do
    match ← facts? path with
    | some f => return f.identity == identity || (identity ++ ['/']).isPrefixOf f.identity
    | none => return false

/-- More than the depth of any tree of directories. -/
def deepestTree : Nat := 4096

/-- Copy files. -/
def cp (all : List Text) : Tool Unit := do
  let a ← arguments 1 false "abdfHilLnpPrRst:TuvxZ" [long "recursive" 'r' .nothing,
    long "archive" 'a' .nothing, long "force" 'f' .nothing, long "no-clobber" 'n' .nothing,
    long "verbose" 'v' .nothing, long "target-directory" 't' .value,
    long "no-target-directory" 'T' .nothing, long "preserve" 'p' .perhaps, long "link" 'l' .nothing,
    long "interactive" 'i' .nothing, long "update" 'u' .perhaps] all
  let g ← goal a
  let m : CopyMode := ⟨(a.last? "arR").isSome, a.has 'n', a.has 'v', a.has 'l'⟩
  for source in g.sources do copyTree m deepestTree source (g.of source)

/-- Move files. -/
def mv (all : List Text) : Tool Unit := do
  let a ← arguments 1 false "bfint:TuvZ" [long "force" 'f' .nothing, long "no-clobber" 'n' .nothing,
    long "verbose" 'v' .nothing, long "target-directory" 't' .value,
    long "no-target-directory" 'T' .nothing, long "interactive" 'i' .nothing] all
  let g ← goal a
  for source in g.sources do
    let target := g.of source
    match ← call (.facts source) with
    | .error e => fault ("cannot stat ".toList ++ quoted source ++ ": ".toList ++ reason e)
    | .ok f =>
      let old? ← facts? target
      let isDirectory := f.kind == .directory
      if old?.any (·.identity == f.identity) && !isDirectory then
        fault (quoted source ++ " and ".toList ++ quoted target ++ " are the same file".toList)
      else if !isDirectory && old?.any (·.kind == .directory) then
        fault ("cannot overwrite directory ".toList ++ quoted target ++ " with non-directory".toList)
      else if isDirectory && old?.any (·.kind != .directory) then
        fault ("cannot overwrite non-directory ".toList ++ quoted target ++ " with directory ".toList
          ++ quoted source)
      else if a.has 'n' && old?.isSome then pure ()
      else
        match ← call (.edit (.rename source target)) with
        | .ok _ =>
          if a.has 'v' then
            printLine ("renamed ".toList ++ quoted source ++ " -> ".toList ++ quoted target)
        | .error .invalidArgument =>
          fault ("cannot move ".toList ++ quoted source ++ " to a subdirectory of itself, ".toList ++
            quoted target)
        | .error e =>
          fault ("cannot move ".toList ++ quoted source ++ " to ".toList ++ quoted target ++
            ": ".toList ++ reason e)

/-- Give files more names. -/
def ln (all : List Text) : Tool Unit := do
  let a ← arguments 1 false "bdfFiLnPrst:Tv" [long "symbolic" 's' .nothing, long "force" 'f' .nothing,
    long "verbose" 'v' .nothing, long "target-directory" 't' .value,
    long "no-target-directory" 'T' .nothing, long "no-dereference" 'n' .nothing] all
  let a := match a.operands with
    | [word] => if a.has 't' then a else { a with operands := [word, ['.']] }
    | _ => a
  let g ← goal a
  let isSymbolic := a.has 's'
  for source in g.sources do
    let target := g.of source
    -- A symbolic link is followed from where it stands.
    let actual :=
      if isSymbolic && source.head? != some '/' then inside (parentName target) source else source
    let what := if isSymbolic then "symbolic link " else "hard link "
    match ← facts? actual with
    | none =>
      if !isSymbolic then
        fault ("failed to access ".toList ++ quoted source ++ ": ".toList ++ reason .notFound)
    | some f =>
      if f.kind == .directory && !isSymbolic then
        fault (quotedIfNeeded source ++ ": hard link not allowed for directory".toList)
      else
        if a.has 'f' && (← facts? target).any fun old => old.identity != f.identity then
          let _ ← call (.edit (.remove target))
        match ← call (.edit (.link actual target)) with
        | .ok _ =>
          if a.has 'v' then
            let arrow := if isSymbolic then " -> " else " => "
            printLine (quoted target ++ arrow.toList ++ quoted source)
        | .error .alreadyExists =>
          if !a.has 'f' then
            fault ("failed to create ".toList ++ what.toList ++ quoted target ++ ": ".toList ++
              reason .alreadyExists)
        | .error e =>
          let arrow := if isSymbolic then [] else " => ".toList ++ quoted source
          fault ("failed to create ".toList ++ what.toList ++ quoted target ++ arrow ++ ": ".toList ++
            reason e)

/-! ### Removing -/

/-- Remove a directory with all that is in it, or a file. -/
def removeTree (isForced tells : Bool) : Nat → Text → Tool Unit
  | 0, _ => return
  | n + 1, path => do
    let refuse (e : IoError) : Tool Unit :=
      fault ("cannot remove ".toList ++ quoted path ++ ": ".toList ++ reason e)
    match ← call (.facts path) with
    | .error e => if !(isForced && (e == .notFound || e == .notADirectory)) then refuse e
    | .ok f =>
      if f.kind == .directory then
        for name in ← namesIn path do removeTree isForced tells n (inside path name)
        match ← call (.edit (.removeDirectory path)) with
        | .ok _ => if tells then printLine ("removed directory ".toList ++ quoted path)
        | .error e => refuse e
      else
        match ← call (.edit (.remove path)) with
        | .ok _ => if tells then printLine ("removed ".toList ++ quoted path)
        | .error e => refuse e

/-- Remove files. -/
def rm (all : List Text) : Tool Unit := do
  let a ← arguments 1 false "dfiIrRv" [long "recursive" 'r' .nothing, long "force" 'f' .nothing,
    long "verbose" 'v' .nothing, long "dir" 'd' .nothing] all
  let isForced := a.has 'f'
  if a.operands.isEmpty && !isForced then missingOperand []
  for path in a.operands do
    let refuse (e : IoError) : Tool Unit :=
      fault ("cannot remove ".toList ++ quoted path ++ ": ".toList ++ reason e)
    let isRecursive := a.has 'r' || a.has 'R'
    let name := lastName path
    if isRecursive && (name == ['.'] || name == ['.', '.']) then
      fault ("refusing to remove '.' or '..' directory: skipping ".toList ++ quoted path)
    else if isRecursive then removeTree isForced (a.has 'v') deepestTree path
    else
      match ← call (.facts path) with
      | .error e => if !(isForced && (e == .notFound || e == .notADirectory)) then refuse e
      | .ok f =>
        if f.kind == .directory && !a.has 'd' then refuse .isADirectory
        else if f.kind == .directory then
          match ← call (.edit (.removeDirectory path)) with
          | .ok _ =>
            if a.has 'v' then printLine ("removed directory ".toList ++ quoted path)
          | .error e => refuse e
        else
          match ← call (.edit (.remove path)) with
          | .ok _ => if a.has 'v' then printLine ("removed ".toList ++ quoted path)
          | .error e => refuse e

/-- Remove empty directories. -/
def rmdir (all : List Text) : Tool Unit := do
  let a ← arguments 1 false "pv" [long "parents" 'p' .nothing, long "verbose" 'v' .nothing,
    long "ignore-fail-on-non-empty" 'I' .nothing] all
  if a.operands.isEmpty then missingOperand []
  for path in a.operands do
    let rec go : Nat → Text → Tool Unit
      | 0, _ => return
      | n + 1, path => do
        if a.has 'v' then printLine ("rmdir: removing directory, ".toList ++ quoted path)
        match ← call (.edit (.removeDirectory path)) with
        | .error e =>
          if !(a.has 'I' && e == .notEmpty) then
            fault ("failed to remove ".toList ++ quoted path ++ ": ".toList ++ reason e)
        | .ok _ =>
          let parent := parentName path
          if a.has 'p' && parent != ['.'] && parent != ['/'] then go n parent
    go deepestTree path

/-! ### Making -/

/-- The directories on the way to a path, and the path itself. -/
def pathsOnWay (path : Text) : List Text :=
  let rec go : Nat → Text → List Text → List Text
    | 0, _, acc => acc
    | n + 1, path, acc =>
      let parent := parentName path
      if parent == ['.'] || parent == ['/'] || parent == path then path :: acc
      else go n parent (path :: acc)
  go deepestTree path []

/-- Make directories. -/
def mkdir (all : List Text) : Tool Unit := do
  let a ← arguments 1 false "m:pvZ" [long "parents" 'p' .nothing, long "mode" 'm' .value,
    long "verbose" 'v' .nothing] all
  if a.operands.isEmpty then missingOperand []
  let refuse (path : Text) (e : IoError) : Tool Unit :=
    fault ("cannot create directory ".toList ++ quoted path ++ ": ".toList ++ reason e)
  let tell (path : Text) : Tool Unit := do
    if a.has 'v' then printLine ("mkdir: created directory ".toList ++ quoted path)
  for path in a.operands do
    if a.has 'p' && !path.isEmpty then
      let rec go : List Text → Tool Unit
        | [] => return
        | step :: rest => do
          if ← isDirectory step then go rest
          else
            match ← call (.edit (.makeDirectory step)) with
            | .ok _ =>
              tell step
              go rest
            | .error e =>
              refuse step (if e == .alreadyExists && !rest.isEmpty then .notADirectory else e)
      go (pathsOnWay path)
    else
      match ← call (.edit (.makeDirectory path)) with
      | .ok _ => tell path
      | .error e => refuse path e

/-- Make files, or note that they have been changed now. -/
def touch (all : List Text) : Tool Unit := do
  let a ← arguments 1 false "acd:fhmr:t:" [long "no-create" 'c' .nothing, long "date" 'd' .value,
    long "reference" 'r' .value] all
  if a.operands.isEmpty then misuse 1 "missing file operand".toList
  for path in a.operands do
    match ← facts? path with
    | some _ =>
      let _ ← call (.edit (.touch path))
    | none =>
      if !a.has 'c' then
        match ← call (.openFile path { Machine.Opening.output with clears := false }) with
        | .ok fd => closeInput fd
        | .error e => fault ("cannot touch ".toList ++ quoted path ++ ": ".toList ++ reason e)

/-- The permissions after changes that are written with letters or as a number. -/
def changedMode? (isDirectory : Bool) (word : Text) (mode : Nat) : Option Nat :=
  if !word.isEmpty && word.all (Text.isDigitOf 8) then
    let n := Text.valueOf 8 word
    if n < 4096 then some (n % 512) else none
  else
    (Text.splitBy (· == ',') word).foldlM (fun mode clause =>
      let who := clause.takeWhile "ugoa".toList.contains
      let actions := clause.drop who.length
      if actions.isEmpty then none else act who (clause.length + 1) actions mode) mode
where
  act (who : Text) : Nat → Text → Nat → Option Nat
    | 0, _, _ => none
    | _, [], mode => some mode
    | n + 1, operator :: rest, mode => do
      let letters := rest.takeWhile "rwxXstugo".toList.contains
      let part (c : Char) : Nat :=
        match c with
        | 'r' => 4
        | 'w' => 2
        | 'x' => 1
        | 'X' => if isDirectory || mode % 2 = 1 || mode / 8 % 2 = 1 || mode / 64 % 2 = 1 then 1 else 0
        | 'u' => mode / 64
        | 'g' => mode / 8 % 8
        | 'o' => mode % 8
        | _ => 0
      let bits := letters.foldl (fun bits c => bits ||| part c) 0
      -- Without a letter for whom, what new files may not have is left out.
      let allowed (c : Char) : Nat := if who.isEmpty && c != 'u' then bits - (bits &&& 2) else bits
      let has (c : Char) : Bool := who.isEmpty || who.contains 'a' || who.contains c
      let change (c : Char) (old : Nat) : Option Nat :=
        if !has c then some old
        else
          match operator with
          | '=' => some (allowed c)
          | '+' => some (old ||| allowed c)
          | '-' => some (old - (old &&& allowed c))
          | _ => none
      let u ← change 'u' (mode / 64)
      let g ← change 'g' (mode / 8 % 8)
      let o ← change 'o' (mode % 8)
      act who n (rest.drop letters.length) (u * 64 + g * 8 + o)

/-- The permissions of a file. -/
def modeOf (f : Machine.FileFacts) : Nat := if f.isExecutable then 493 else 420

/-- The letters of permissions. -/
def modeText (mode : Nat) : Text :=
  [mode / 64, mode / 8 % 8, mode % 8].flatMap fun k =>
    [if k / 4 % 2 = 1 then 'r' else '-', if k / 2 % 2 = 1 then 'w' else '-',
      if k % 2 = 1 then 'x' else '-']

/-- A path and all paths below it. -/
def treePaths : Nat → Text → Tool (List Text)
  | 0, path => return [path]
  | n + 1, path => do
    if ← isDirectory path then
      let below ← (← namesIn path).mapM fun name => treePaths n (inside path name)
      return path :: below.flatten
    else return [path]

/-- Change the permissions of files. -/
def chmod (all : List Text) : Tool Unit := do
  let isMode (w : Text) : Bool :=
    match w with
    | '-' :: c :: rest => (c :: rest).all "rwxXst,=+-ugoa01234567".toList.contains && c != '-'
    | _ => false
  let modes := all.filter isMode
  let a ← arguments 1 false "cfRv" [long "recursive" 'R' .nothing, long "verbose" 'v' .nothing,
    long "quiet" 'f' .nothing, long "silent" 'f' .nothing, long "changes" 'c' .nothing]
    (all.filter (!isMode ·))
  match modes ++ a.operands with
  | [] => missingOperand []
  | [word] => misuse 1 ("missing operand after ".toList ++ quoted word)
  | word :: paths =>
    if (changedMode? false word 0).isNone then misuse 1 ("invalid mode: ".toList ++ quoted word)
    let paths ← if a.has 'R' then do
        pure (← paths.mapM (treePaths deepestTree)).flatten
      else pure paths
    for path in paths do
      match ← call (.facts path) with
      | .error e =>
        if a.has 'f' then setStatus 1
        else fault ("cannot access ".toList ++ quoted path ++ ": ".toList ++ reason e)
      | .ok f =>
        let old := modeOf f
        let new := (changedMode? (f.kind == .directory) word old).getD old
        let isExecutable := new % 2 = 1 || new / 8 % 2 = 1 || new / 64 % 2 = 1
        if isExecutable != f.isExecutable && f.kind == .regular then
          let _ ← call (.edit (.setExecutable path isExecutable))
        let octal (m : Nat) : Text :=
          let ds := Text.numeral 8 m
          List.replicate (4 - ds.length) '0' ++ ds
        if a.has 'v' || (a.has 'c' && old ≠ new) then
          let lead := "mode of ".toList ++ quoted path
          let now := octal new ++ " (".toList ++ modeText new ++ [')']
          if old = new then printLine (lead ++ " retained as ".toList ++ now)
          else
            printLine (lead ++ " changed from ".toList ++ octal old ++ " (".toList ++ modeText old ++
              ") to ".toList ++ now)

/-- Make files longer or shorter. -/
def truncate (all : List Text) : Tool Unit := do
  let a ← arguments 1 false "cor:s:" [long "size" 's' .value, long "no-create" 'c' .nothing,
    long "reference" 'r' .value] all
  let given? := (a.value? 's').map fun t => t.dropWhile Text.isSpace
  if given?.isNone && !a.has 'r' then
    misuse 1 "you must specify either '--size' or '--reference'".toList
  if a.operands.isEmpty then misuse 1 "missing file operand".toList
  let base ←
    match a.value? 'r' with
    | none => pure 0
    | some path =>
      match ← call (.facts path) with
      | .ok f => pure f.size
      | .error e => die 1 ("cannot stat ".toList ++ quoted path ++ ": ".toList ++ reason e)
  let (operator?, amount) ←
    match given? with
    | none => pure (none, base)
    | some t =>
      let (operator?, t) : Option Char × Text :=
        match t with
        | c :: rest => if "+-<>/%".toList.contains c then (some c, rest) else (none, t)
        | [] => (none, t)
      match size? t with
      | some (_, n) => pure (operator?, n)
      | none => die 1 ("Invalid number: ".toList ++ quoted ((a.value? 's').getD []))
  for path in a.operands do
    let old? ← facts? path
    if old?.isSome || !a.has 'c' then
      match ← call (.openFile path { Machine.Opening.output with clears := false }) with
      | .error e =>
        fault ("cannot open ".toList ++ quoted path ++ " for writing: ".toList ++ reason e)
      | .ok fd =>
        closeInput fd
        let old := if a.has 'r' then base else old?.elim 0 (·.size)
        let size :=
          match operator? with
          | some '+' => old + amount
          | some '-' => old - amount
          | some '<' => min old amount
          | some '>' => max old amount
          | some '/' => if amount = 0 then old else old / amount * amount
          | some _ => if amount = 0 then old else (old + amount - 1) / amount * amount
          | none => amount
        match ← call (.edit (.resize path size)) with
        | .ok _ => pure ()
        | .error e =>
          fault ("failed to truncate ".toList ++ quoted path ++ " at ".toList ++ Text.decimal size ++
            " bytes: ".toList ++ reason e)

/-- Make a file or directory with a name that is not used. -/
def mktemp (all : List Text) : Tool Unit := do
  let a ← arguments 1 false "dp:qtu" [long "directory" 'd' .nothing, long "dry-run" 'u' .nothing,
    long "tmpdir" 'p' .perhaps, long "quiet" 'q' .nothing, long "suffix" 'S' .value] all
  let template := a.operands.headD "tmp.XXXXXXXXXX".toList
  let configured? := ((← get).environment.find? (·.1 == "TMPDIR".toList)).map (·.2)
  let directory? : Option Text :=
    if a.operands.isEmpty || a.has 't' || a.has 'p' then
      let named := (a.value? 'p').getD []
      some (if named.isEmpty then configured?.getD "/tmp".toList else named)
    else none
  let ending := (template.reverse.dropWhile (· != 'X')).length
  let tail := template.drop ending ++ (a.value? 'S').getD []
  let stem := template.take ending
  let xs := (stem.reverse.takeWhile (· == 'X')).length
  if xs < 3 then die 1 ("too few X's in template ".toList ++ quoted template)
  let stem := stem.take (stem.length - xs)
  let (pid, _) : Nat × Nat ← call .identity
  let path (k : Nat) : Text :=
    let digits := Text.numeral 36 (Nat.pow 36 (xs - 1) * 10 + pid * 7919 + k)
    let name := stem ++ (digits.drop (digits.length - xs)) ++ tail
    match directory? with
    | some d => inside d name
    | none => name
  let rec go : Nat → Nat → Tool Unit
    | 0, _ => return
    | n + 1, k => do
      let p := path k
      if (← facts? p).isSome then go n (k + 1)
      else if a.has 'u' then printLine p
      else
        let made : Except IoError Unit ←
          if a.has 'd' then call (.edit (.makeDirectory p))
          else
            match ← call (.openFile p .fresh) with
            | .ok fd => do
              closeInput fd
              pure (.ok ())
            | .error e => pure (.error e)
        match made with
        | .ok _ => printLine p
        | .error e =>
          let kind := if a.has 'd' then "directory" else "file"
          die 1 ("failed to create ".toList ++ kind.toList ++ " via template ".toList ++
            quoted ((directory?.elim [] fun d => inside d []) ++ template) ++ ": ".toList ++ reason e)
  go 1000 0

/-! ### Describing -/

/-- The path from the root that a path leads to, where the last name need not exist. -/
def canonical? (mustExist : Bool) (path : Text) : Tool (Except IoError Text) := do
  match ← call (.facts path) with
  | .ok f => if f.kind == .directory then return .ok (absolute f.identity) else plain
  | .error .notFound => if mustExist then return .error .notFound else plain
  | .error e => return .error e
where
  absolute (identity : Text) : Text := '/' :: identity.dropWhile (· == '/')
  plain : Tool (Except IoError Text) := do
    match ← call (.facts (parentName path)) with
    | .ok f =>
      if f.kind == .directory then return .ok (inside (absolute f.identity) (lastName path))
      else return .error .notADirectory
    | .error e => return .error e

/-- Print what symbolic links lead to; there are none, but a path may be made a canonical one. -/
def readlink (all : List Text) : Tool Unit := do
  let a ← arguments 1 false "efmnqsvz" [long "canonicalize" 'f' .nothing] all
  if a.operands.isEmpty then missingOperand []
  for path in a.operands do
    if (a.last? "efm").isSome then
      match ← canonical? (a.has 'e') path with
      | .ok t => print (t ++ if a.has 'n' then [] else ['\n'])
      | .error _ => setStatus 1
    else setStatus 1

/-- Print the canonical paths of paths. -/
def realpath (all : List Text) : Tool Unit := do
  let a ← arguments 1 false "eEmLPqsz" [long "canonicalize-existing" 'e' .nothing] all
  if a.operands.isEmpty then missingOperand []
  for path in a.operands do
    match ← canonical? (a.has 'e') path with
    | .ok t => printLine t
    | .error e => if a.has 'q' then setStatus 1 else fault (quotedIfNeeded path ++ ": ".toList ++ reason e)

/-- Print what is known about files, as a format says. -/
def stat (all : List Text) : Tool Unit := do
  let a ← arguments 1 false "c:Lft" [long "format" 'c' .value, long "printf" 'P' .value,
    long "dereference" 'L' .nothing] all
  if a.operands.isEmpty then missingOperand []
  let (form, ending) : Text × Text :=
    match a.value? 'P' with
    | some f => (unescaped f, [])
    | none => ((a.value? 'c').getD "%n".toList, ['\n'])
  for path in a.operands do
    match ← call (.facts path) with
    | .error e => fault ("cannot statx ".toList ++ quoted path ++ ": ".toList ++ reason e)
    | .ok f => print (filled path f form ++ ending)
where
  unescaped : Text → Text
    | '\\' :: 'n' :: t => '\n' :: unescaped t
    | '\\' :: 't' :: t => '\t' :: unescaped t
    | '\\' :: '\\' :: t => '\\' :: unescaped t
    | c :: t => c :: unescaped t
    | [] => []
  filled (path : Text) (f : Machine.FileFacts) : Text → Text
    | '%' :: c :: t =>
      let mode := if f.kind == .directory then 493 else modeOf f
      (match c with
      | 'n' => path
      | 'N' => quoted path
      | 's' => Text.decimal f.size
      | 'a' => Text.numeral 8 mode
      | 'A' => (if f.kind == .directory then 'd' else '-') :: modeText mode
      | 'u' | 'g' => ['0']
      | 'U' | 'G' => "root".toList
      | 'h' => ['1']
      | 'b' => Text.decimal ((f.size + 4095) / 4096 * 8)
      | 'B' => "512".toList
      | 'F' =>
        match f.kind with
        | .directory => "directory".toList
        | .regular => (if f.size = 0 then "regular empty file" else "regular file").toList
        | .device => "character special file".toList
        | .pipe => "fifo".toList
      | '%' => ['%']
      | _ => ['?']) ++ filled path f t
    | c :: t => c :: filled path f t
    | [] => []

/-- List what is in directories. -/
def ls (all : List Text) : Tool Unit := do
  let a ← arguments 2 false "aABbcCdfFgGhHiIklLmnNopqQrRsStuUvxX1" [long "all" 'a' .nothing,
    long "almost-all" 'A' .nothing, long "directory" 'd' .nothing, long "classify" 'F' .perhaps,
    long "recursive" 'R' .nothing, long "reverse" 'r' .nothing, long "color" 'K' .perhaps] all
  let describe (path name : Text) : Tool Text := do
    let isFolder ← isDirectory path
    let facts? ← facts? path
    let mark : Text :=
      if isFolder && (a.has 'F' || a.has 'p') then ['/']
      else if a.has 'F' && facts?.any (·.isExecutable) then ['*']
      else []
    let long : Text :=
      match facts? with
      | some f =>
        if a.has 'l' then
          let mode := if isFolder then 493 else modeOf f
          (if isFolder then 'd' else '-') :: modeText mode ++ " 1 root root ".toList ++
            Text.decimal f.size ++ " Jan  1 00:00 ".toList
        else []
      | none => []
    let size := if a.has 's' then "4 ".toList else []
    return size ++ long ++ (if a.has 'Q' then '"' :: name ++ ['"'] else name) ++ mark
  let ordered (paths : List (Text × Text)) : Tool (List (Text × Text)) := do
    let withFacts ← paths.mapM fun p => do return (p, ← facts? p.1)
    let byName := withFacts.mergeSort fun x y => Text.order x.1.2 y.1.2 != .gt
    let sorted :=
      if a.has 'S' then byName.mergeSort fun x y => y.2.elim 0 (·.size) ≤ x.2.elim 0 (·.size)
      else if a.has 't' then
        byName.mergeSort fun x y => y.2.elim 0 (·.changed) ≤ x.2.elim 0 (·.changed)
      else byName
    let sorted := if a.has 'r' then sorted.reverse else sorted
    return sorted.map (·.1)
  let show_ (entries : List (Text × Text)) : Tool Unit := do
    let lines ← entries.mapM fun (path, name) => describe path name
    if a.has 'm' then
      if !lines.isEmpty then printLine (Text.joinWith ", ".toList lines)
    else for line in lines do printLine line
  let rec directory : Nat → Bool → Bool → Text → Tool Unit
    | 0, _, _, _ => return
    | n + 1, isTitled, isFirst, path => do
      match ← call (.list path) with
      | .error e =>
        warn ("cannot open directory ".toList ++ quoted path ++ ": ".toList ++ reason e)
        setStatus 2
      | .ok names =>
        if isTitled then
          print ((if isFirst then [] else ['\n']) ++ quotedIfNeeded path ++ ":\n".toList)
        let names := if a.has 'a' then ['.'] :: ['.', '.'] :: names else names
        let visible := names.filter fun name =>
          name.head? != some '.' || a.has 'a' || a.has 'A'
        let entries ← ordered (visible.map fun name => (inside path name, name))
        if a.has 'l' || a.has 's' then printLine ("total ".toList ++ Text.decimal (4 * entries.length))
        show_ entries
        if a.has 'R' then
          for (below, name) in entries do
            if name != ['.'] && name != ['.', '.'] then
              if ← isDirectory below then directory n true false below
  let words := if a.operands.isEmpty then [['.']] else a.operands
  let mut files := []
  let mut directories := []
  for word in words do
    match ← call (.facts word) with
    | .error e =>
      warn ("cannot access ".toList ++ quoted word ++ ": ".toList ++ reason e)
      setStatus 2
    | .ok f =>
      if f.kind == .directory && !a.has 'd' then directories := directories ++ [(word, word)]
      else files := files ++ [(word, word)]
  show_ (← ordered files)
  let isTitled := 1 < words.length || a.has 'R'
  let mut isFirst := files.isEmpty
  for (path, _) in ← ordered directories do
    directory deepestTree isTitled isFirst path
    isFirst := false

/-! ### Comparing -/

/-- Compare two files byte by byte. -/
def cmp (all : List Text) : Tool Unit := do
  let a ← arguments 2 false "bi:ln:s" [long "silent" 's' .nothing, long "quiet" 's' .nothing,
    long "verbose" 'l' .nothing] all
  match a.operands with
  | [] =>
    warn ("missing operand after ".toList ++ quoted (← get).name)
    warn ("Try '".toList ++ (← get).name ++ " --help' for more information.".toList)
    quit 2
  | words =>
    let (x, y) := (words.headD [], (words[1]?).getD ['-'])
    let contents (word : Text) : Tool Text := do
      match ← openInput word with
      | .error e =>
        if a.has 's' then quit 2 else die 2 (word ++ ": ".toList ++ reason e)
      | .ok fd =>
        let (t, e?) ← readAll fd
        closeInput fd
        match e? with
        | some e => die 2 (word ++ ": ".toList ++ reason e)
        | none => return t
    match ← facts? x, ← facts? y with
    | some f, some g =>
      if f.identity == g.identity && f.kind != .device && x != ['-'] && y != ['-'] then quit 0
    | _, _ => pure ()
    let s ← contents x
    let t ← contents y
    let differences := ((s.zip t).zipIdx.filter fun ((c, d), _) => c != d)
    let shorter? : Option (Text × Nat) :=
      if s.length < t.length then some (x, s.length)
      else if t.length < s.length then some (y, t.length)
      else none
    let octal (c : Char) : Text := rightAligned 3 (Text.numeral 8 c.toNat)
    let ends (which : Text) (n : Nat) : Tool Unit := do
      let lines := (s.take n).count '\n'
      let place : Text :=
        if n = 0 then " which is empty".toList
        else
          let line := if (s.take n).getLast? == some '\n' then ", line ".toList ++ Text.decimal lines
            else ", in line ".toList ++ Text.decimal (lines + 1)
          " after byte ".toList ++ Text.decimal n ++ (if a.has 'l' then [] else line)
      warn ("EOF on ".toList ++ which ++ place)
    if a.has 's' then quit (if s == t then 0 else 1)
    if a.has 'l' then
      for ((c, d), i) in differences do
        printLine (Text.decimal (i + 1) ++ ' ' :: octal c ++ ' ' :: octal d)
    else
      match differences with
      | (_, i) :: _ =>
        let line := (s.take i).count '\n' + 1
        printLine (x ++ ' ' :: y ++ " differ: char ".toList ++ Text.decimal (i + 1) ++
          ", line ".toList ++ Text.decimal line)
        quit 1
      | [] => pure ()
    match shorter? with
    | some (which, n) => ends which n
    | none => pure ()
    quit (if s == t then 0 else 1)

end RuleSets.Utility.Tool
