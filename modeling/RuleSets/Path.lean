import RuleSets.Text.Basic

/-!
# Paths

A path is a text; its components are the names between its slashes.  Nothing here looks at files:
`..` is a component like any other, and only the file system can say where it leads.
-/

namespace RuleSets

/-- The spelling of a path. -/
structure Path where
  text : Text
deriving DecidableEq, Repr, Inhabited

namespace Path

/-- A component of a path. -/
inductive Component where
  | root
  | current
  | parent
  | name (s : Text)
deriving DecidableEq, Repr

/-- The component between two slashes; nothing and a single dot count only at the start of
a path. -/
def component? : Text → Option Component
  | [] => none
  | ['.'] => none
  | ['.', '.'] => some .parent
  | s => some (.name s)

/-- The texts between the slashes of a path. -/
def pieces (p : Path) : List Text := Text.splitBy (· == '/') p.text

/-- The first component of a path, if it is one of those that only stand at the start. -/
def start? : Path → Option Component
  | ⟨'/' :: _⟩ => some .root
  | ⟨['.']⟩ => some .current
  | ⟨'.' :: '/' :: _⟩ => some .current
  | _ => none

/-- The components of a path. -/
def components (p : Path) : List Component := p.start?.toList ++ p.pieces.filterMap component?

/-- Whether a path starts at the root. -/
def isAbsolute (p : Path) : Bool := p.text.head? == some '/'

/-- Put a slash behind a path that is not empty and does not end in one. -/
def asDirectory (p : Path) : Text :=
  match p.text.getLast? with
  | some c => if c = '/' then p.text else p.text ++ ['/']
  | none => []

/-- The path of `q` seen from `p`. -/
def join (p q : Path) : Path := if q.isAbsolute then q else ⟨p.asDirectory ++ q.text⟩

/-- The path with a text behind it. -/
def withTail (p : Path) (tail : Text) : Path := ⟨p.text ++ tail⟩

/-- Where a file is written before it takes its place. -/
def tmp (p : Path) : Path := p.withTail ".tmp".toList

/-- The spelling of a component. -/
def Component.text : Component → Text
  | root => []
  | current => ['.']
  | parent => ['.', '.']
  | name s => s

/-- The path with the given components. -/
def ofComponents : List Component → Path
  | [.root] => ⟨['/']⟩
  | cs => ⟨Text.joinWith ['/'] (cs.map Component.text)⟩

/-- The path without its last component; a path that is empty or the root has none. -/
def parent? (p : Path) : Option Path :=
  match p.components.getLast? with
  | none | some .root => none
  | some _ => some (ofComponents p.components.dropLast)

/-- The last component of a path, if it is a name. -/
def fileName? (p : Path) : Option Text :=
  match p.components.getLast? with
  | some (.name s) => some s
  | _ => none

/-- What follows the last period of the file name; a name that is nothing but an extension
has none. -/
def extension? (p : Path) : Option Text :=
  match p.fileName? with
  | none => none
  | some name =>
    let ext := name.reverse.takeWhile (· != '.')
    match name.reverse.dropWhile (· != '.') with
    | [] | ['.'] => none
    | _ => some ext.reverse

/-- Whether two paths have the same components. -/
def same (p q : Path) : Bool := p.components == q.components

end Path
end RuleSets
