import RuleSets.Shell.Expand

/-!
# Redirections

Where the descriptors of a command lead.  The shell itself redirects its own descriptors for a
command that it carries out, keeps what they were above those that scripts can name, and restores
them afterwards.
-/

namespace RuleSets.Shell.Sh

open Machine (Opening)

/-- A redirection whose words have been expanded. -/
inductive Route where
  | file (descriptor : Nat) (access : Access) (path : Text)
  | copy (descriptor : Nat) (source? : Option Nat)
  | document (descriptor : Nat) (number : Nat)

/-- The descriptor that is redirected. -/
def Route.descriptor : Route → Nat
  | file d _ _ | copy d _ | document d _ => d

/-- Expand the words of redirections. -/
def expandRedirects (run : Command → Sh Text) (redirects : List Redirect) : Sh (List Route) :=
  redirects.mapM fun
    | .file d access w => return .file d access (← expandText run .single w)
    | .duplicate d w => do
      match ← expandText run .single w with
      | ['-'] => return .copy d none
      | [c] =>
        if c.isDigit then return .copy d (some (Text.digitValue c))
        else fail "Syntax error: Bad fd number".toList
      | _ => fail "Syntax error: Bad fd number".toList
    | .document d number => return .document d number

/-- The least descriptor at which others are kept. -/
def keptDescriptors : Nat := 10

/-- Open a file for a redirection. -/
def openFor (access : Access) (path : Text) : Sh Nat := do
  let opening (how : Opening) : Sh Nat := do
    let creates := how.creates
    match ← call (.openFile path how) with
    | .ok fd => return fd
    | .error e =>
      let why : Text :=
        match e, creates with
        | .notFound, false | .notADirectory, false => "No such file".toList
        | .notFound, true | .notADirectory, true => "Directory nonexistent".toList
        | .alreadyExists, _ => "File exists".toList
        | e, _ => reason e
      let what := if creates then "cannot create " else "cannot open "
      fail (what.toList ++ path ++ ": ".toList ++ why)
  match access with
  | .input => opening .input
  | .both => opening .both
  | .append => opening .appending
  | .overwrite => opening .output
  | .output =>
    if ← hasOption 'C' then
      match ← call (.facts path) with
      | .error _ => opening .fresh
      | .ok f => opening (if f.kind == .regular then .fresh else { Opening.output with clears := false })
    else opening .output

/-- How much text is put into a pipe at once. -/
def pipedAtOnce : Nat := 4096

/-- A descriptor from which a text can be read. -/
def openText (t : Text) : Sh Nat := do
  let (source, drain) : Nat × Nat ← call .pipe
  if t.length ≤ pipedAtOnce then
    let _ ← call (.write drain t)
  else
    let _ ← forkAction do
      let _ ← Machine.ask (.close source)
      let _ ← Machine.ask (.write drain t)
      return 0
  let _ ← call (.close drain)
  return source

/-- The text of a document. -/
def documentOf (run : Command → Sh Text) (number : Nat) : Sh Text := do
  match (← get).documents.find? (·.1 == number) with
  | some (_, w) => expandText run .quoted w
  | none => return []

/-- Note where a descriptor is kept that is about to be redirected, unless it is kept already. -/
def keepDescriptor (d : Nat) : Sh Unit := do
  match (← get).redirections with
  | [] => return
  | kept :: rest =>
    if kept.any (·.1 == d) then return
    let place? : Option Nat ←
      match ← call (.duplicate d keptDescriptors) with
      | .ok place => pure (some place)
      | .error _ => pure none
    modify ({ · with redirections := ((d, place?) :: kept) :: rest })

/-- Redirect descriptors.  What they lead to is kept if `keeps`. -/
def redirect (run : Command → Sh Text) (keeps : Bool) (routes : List Route) : Sh Unit := do
  for route in routes do
    let d := route.descriptor
    let keepIt : Sh Unit := do if keeps then keepDescriptor d
    let move (source : Nat) : Sh Unit := do
      if source ≠ d then
        keepIt
        let _ ← call (.connect d source)
        let _ ← call (.close source)
      else if keeps then
        modify fun s =>
          match s.redirections with
          | kept :: rest =>
            if kept.any (·.1 == d) then s
            else { s with redirections := ((d, none) :: kept) :: rest }
          | [] => s
    match route with
    | .file _ access path => move (← openFor access path)
    | .document _ number => move (← openText (← documentOf run number))
    | .copy _ none =>
      keepIt
      let _ ← call (.close d)
    | .copy _ (some source) =>
      if source ≠ d then
        keepIt
        match ← call (.connect d source) with
        | .ok _ => pure ()
        | .error e => fail (Text.decimal source ++ ": ".toList ++ reason e)

/-- Begin to keep descriptors. -/
def pushRedirections : Sh Unit := modify fun s => { s with redirections := [] :: s.redirections }

/-- Restore the descriptors that have been kept, or only forget them. -/
def popRedirections (restores : Bool) : Sh Unit := do
  match (← get).redirections with
  | [] => return
  | kept :: rest =>
    modify ({ · with redirections := rest })
    for (d, place?) in kept do
      match place? with
      | some place =>
        if restores then
          let _ ← call (.connect d place)
        let _ ← call (.close place)
      | none =>
        if restores then
          let _ ← call (.close d)

end RuleSets.Shell.Sh
