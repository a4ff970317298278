import RuleSets.Failure
import RuleSets.OrderedMap
import RuleSets.Path
import RuleSets.Text.Utf8

/-!
# File systems

A file system maps locations to directories and files.  A path is followed name by name from the
root or from the working directory, and everything before its last name must be a directory.  Every
operation either leaves the file system as it is and reports an error, or gives the file system
after it.
-/

namespace RuleSets

/-- A place in the file system: the names on the way from the root. -/
abbrev Location := List Text

/-- What is at a location. -/
inductive Entry where
  | directory
  | file (contents : Bytes) (executable : Bool)
deriving DecidableEq, Repr

/-- The entries of a file system other than its root. -/
abbrev FileSystem := OrderedMap Location Entry

namespace FileSystem

/-- What is at a location; the root is always a directory. -/
def at? (fs : FileSystem) : Location → Option Entry
  | [] => some .directory
  | loc => fs.get? loc

/-- The number of bytes that a name may have. -/
def maxName : Nat := 255

/-- The number of bytes that a path may have. -/
def maxPath : Nat := 4095

/-- Where one name leads from a location. -/
def step (fs : FileSystem) (loc : Location) (name : Text) : Except IoError Location :=
  match fs.at? loc with
  | none => .error .notFound
  | some (.file _ _) => .error .notADirectory
  | some .directory =>
    if name = ['.'] then .ok loc
    else if name = ['.', '.'] then .ok loc.dropLast
    else if maxName < (Utf8.encode name).length then .error .nameTooLong
    else .ok (loc ++ [name])

/-- The names of a path, in turn.  Some spellings lead nowhere. -/
def namesOf (p : Path) : Except IoError (List Text) :=
  if p.text.contains '\x00' then .error .nulInPath
  else if p.text.isEmpty then .error .notFound
  else if maxPath < (Utf8.encode p.text).length then .error .nameTooLong
  else .ok (p.pieces.filter fun s => !s.isEmpty)

/-- Whether a path ends in a slash. -/
def isSlashed (p : Path) : Bool := p.text.getLast? == some '/'

/-- Follow names from the root or from the working directory. -/
def follow (fs : FileSystem) (cwd : Location) (p : Path) (names : List Text) :
    Except IoError Location :=
  names.foldlM fs.step (if p.isAbsolute then [] else cwd)

/-- Where a path leads.  The entry at the last name need not exist, unless a slash or a dot
follows it. -/
def resolve (fs : FileSystem) (cwd : Location) (p : Path) : Except IoError Location := do
  let names ← namesOf p
  fs.follow cwd p (if isSlashed p then names ++ [['.']] else names)

/-- The location of the very entry that a path names, whether or not a slash follows; a dot names
none. -/
def entryOf (fs : FileSystem) (cwd : Location) (p : Path) : Except IoError Location := do
  let names ← namesOf p
  let loc ← fs.follow cwd p names
  match names.getLast? with
  | none | some ['.'] | some ['.', '.'] => .error .busy
  | some _ => .ok loc

/-- The entry that a path leads to. -/
def lookup (fs : FileSystem) (cwd : Location) (p : Path) : Except IoError (Location × Entry) := do
  let loc ← fs.resolve cwd p
  match fs.at? loc with
  | some e => .ok (loc, e)
  | none => .error .notFound

/-- Whether a path leads to a file. -/
def isFile (fs : FileSystem) (cwd : Location) (p : Path) : Bool :=
  match fs.lookup cwd p with
  | .ok (_, .file _ _) => true
  | _ => false

/-- Whether a path leads to a directory. -/
def isDirectory (fs : FileSystem) (cwd : Location) (p : Path) : Bool :=
  match fs.lookup cwd p with
  | .ok (_, .directory) => true
  | _ => false

/-- The contents of a file. -/
def read (fs : FileSystem) (cwd : Location) (p : Path) : Except IoError Bytes := do
  match ← fs.lookup cwd p with
  | (_, .file contents _) => .ok contents
  | (_, .directory) => .error .isADirectory

/-- The size that is reported for a directory. -/
def directorySize : Nat := 4096

/-- The size of what a path leads to. -/
def size (fs : FileSystem) (cwd : Location) (p : Path) : Except IoError Nat := do
  match ← fs.lookup cwd p with
  | (_, .file contents _) => .ok contents.length
  | (_, .directory) => .ok directorySize

/-- Where a path leads, and what is there now, if anything. -/
def place (fs : FileSystem) (cwd : Location) (p : Path) :
    Except IoError (Location × Option Entry) := do
  let loc ← fs.resolve cwd p
  return (loc, fs.at? loc)

/-- Where a path leads at which a file may be made.  A slash behind it demands a directory, which is
no file. -/
def filePlace (fs : FileSystem) (cwd : Location) (p : Path) :
    Except IoError (Location × Option Entry) :=
  if isSlashed p then
    match fs.entryOf cwd p with
    | .ok _ | .error .busy => .error .isADirectory
    | .error e => .error e
  else
    match fs.place cwd p with
    | .ok (_, some .directory) => .error .isADirectory
    | r => r

/-- Make a file with the given contents, or replace the contents of a file. -/
def write (fs : FileSystem) (cwd : Location) (p : Path) (contents : Bytes) :
    Except IoError FileSystem := do
  match ← fs.filePlace cwd p with
  | (loc, some (.file _ executable)) => .ok (fs.insert loc (.file contents executable))
  | (loc, _) => .ok (fs.insert loc (.file contents false))

/-- Delete a file. -/
def remove (fs : FileSystem) (cwd : Location) (p : Path) : Except IoError FileSystem := do
  match ← fs.lookup cwd p with
  | (loc, .file _ _) => .ok (fs.erase loc)
  | (_, .directory) => .error .isADirectory

/-- Delete a file if there is one. -/
def removeIfPresent (fs : FileSystem) (cwd : Location) (p : Path) : Except IoError FileSystem :=
  match fs.remove cwd p with
  | .error .notFound => .ok fs
  | r => r

/-- Delete a file if that can be done. -/
def discard (fs : FileSystem) (cwd : Location) (p : Path) : FileSystem :=
  match fs.remove cwd p with
  | .ok fs' => fs'
  | .error _ => fs

/-- The path without the slashes at its end. -/
def withoutSlashes (p : Path) : Path :=
  match p.text.reverse.dropWhile (· == '/') with
  | [] => ⟨p.text.take 1⟩
  | s => ⟨s.reverse⟩

/-- Make one directory.  Slashes at the end of its path name nothing, but count for its length. -/
def makeDirectory (fs : FileSystem) (cwd : Location) (p : Path) : Except IoError FileSystem := do
  let _ ← namesOf p
  match ← fs.place cwd (withoutSlashes p) with
  | (_, some _) => .error .alreadyExists
  | (loc, none) => .ok (fs.insert loc .directory)

/-- The names in a directory. -/
def names (fs : FileSystem) (loc : Location) : List Text :=
  fs.keys.filterMap fun k => if k.dropLast = loc then k.getLast? else none

/-- The names in the directory that a path leads to. -/
def list (fs : FileSystem) (cwd : Location) (p : Path) : Except IoError (List Text) := do
  match ← fs.lookup cwd p with
  | (loc, .directory) => .ok (fs.names loc)
  | (_, .file _ _) => .error .notADirectory

/-- Move the entries at and below `a` to `b`. -/
def moveTree (fs : FileSystem) (a b : Location) : FileSystem :=
  let moved := fs.filter fun k _ => a.isPrefixOf k
  let rest := fs.filter fun k _ => !a.isPrefixOf k
  moved.toList.foldl (fun m e => m.insert (b ++ e.1.drop a.length) e.2) rest

/-- Give the entry at `p` the place `q`.  A file replaces a file, and a directory an empty directory.
A slash behind either path demands a directory. -/
def rename (fs : FileSystem) (cwd : Location) (p q : Path) : Except IoError FileSystem := do
  let a ← fs.entryOf cwd p
  let b ← fs.entryOf cwd q
  match fs.at? a, fs.at? b with
  | none, _ => .error .notFound
  | some (.file contents executable), present =>
    if isSlashed p || isSlashed q then .error .notADirectory
    else if present = some .directory then .error .isADirectory
    else .ok ((fs.erase a).insert b (.file contents executable))
  | some .directory, present =>
    if a = b then .ok fs
    else if a.isPrefixOf b then .error .invalidArgument
    else
      match present with
      | some (.file _ _) => .error .notADirectory
      | some .directory => if (fs.names b).isEmpty then .ok (fs.moveTree a b) else .error .notEmpty
      | none => .ok (fs.moveTree a b)

/-- The end of an attempt to make a directory: a directory that was there will do. -/
def orPresent (fs : FileSystem) (cwd : Location) (p : Path) :
    Except IoError FileSystem → FileSystem × Except IoError Unit
  | .ok fs' => (fs', .ok ())
  | .error e => (fs, if fs.isDirectory cwd p then .ok () else .error e)

/-- Make a directory, after its parents if it cannot be made without them; `depth` bounds
how many. -/
def makeDirectoriesWithin (cwd : Location) :
    Nat → Path → FileSystem → FileSystem × Except IoError Unit
  | depth, p, fs =>
    if p.text.isEmpty then (fs, .ok ())
    else
      match depth, p.parent?, fs.makeDirectory cwd p with
      | depth + 1, some parent, .error .notFound =>
        match makeDirectoriesWithin cwd depth parent fs with
        | (fs, .ok ()) => fs.orPresent cwd p (fs.makeDirectory cwd p)
        | failed => failed
      | _, _, made => fs.orPresent cwd p made

/-- Make a directory and those on the way to it.  Directories that were made before an
error stay. -/
def makeDirectories (fs : FileSystem) (cwd : Location) (p : Path) :
    FileSystem × Except IoError Unit :=
  makeDirectoriesWithin cwd p.components.length p fs

end FileSystem
end RuleSets
