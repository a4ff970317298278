import RuleSets.Failure
import RuleSets.OrderedSet
import RuleSets.Source.Format

/-!
# Manifests

A manifest lists the sources to build: an object each, with a name, an address and perhaps a format.
Entries that are not valid are passed over, and of several with one name the first counts; a
manifest without any valid entry is an error.
-/

namespace RuleSets

/-- A source to build. -/
structure Source where
  name : Text
  url : Text
  hint : Hint
deriving DecidableEq, Repr

namespace Manifest

/-- Why a manifest cannot be used. -/
inductive Fault where
  | unreadable (path : Text) (error : IoError)
  | invalidJson
  | invalidYaml
  | notAList
  | empty
  | noValidEntry
  | unknownFormat (name : Text)
deriving DecidableEq, Repr

/-- The wording of a fault.  What a parser has to say about a text that it cannot read, which
follows behind a colon, is left out. -/
def Fault.message : Fault → Text
  | unreadable path error =>
    "Failed to read manifest '".toList ++ path ++ "': ".toList ++ error.message
  | invalidJson => "Invalid manifest JSON".toList
  | invalidYaml => "Invalid manifest YAML".toList
  | notAList => "Manifest must be a list".toList
  | empty => "Manifest is empty".toList
  | noValidEntry => "Manifest has no valid entries".toList
  | unknownFormat name => "Unknown format: ".toList ++ name

/-- A fault as it is reported. -/
def Fault.toFailure (f : Fault) : Failure := .manifest f.message

/-- The hint that a text names, or the fault that it names none. -/
def hint (s : Text) : Except Fault Hint :=
  match Hint.ofName? s with
  | some h => .ok h
  | none => .error (.unknownFormat s)

/-- Whether a name can be used for files: it has no separators and is not hidden. -/
def isSafeName (s : Text) : Bool :=
  !s.isEmpty && s.head? != some '.' && !s.any fun c => c == '/' || c == '\\' || c == '\x00'

/-- The trimmed string of a field, unless it is blank or no string. -/
def stringField? (key : Text) (fields : List (Text × Value)) : Option Text :=
  match (Value.field? key fields).bind Value.string? with
  | some s => if (Text.trim s).isEmpty then none else some (Text.trim s)
  | none => none

/-- The source that an entry describes, if the entry is valid. -/
def entry? : Value → Option Source
  | .object fields => do
    let name ← stringField? "name".toList fields
    let url ← stringField? "url".toList fields
    if isSafeName name then
      match stringField? "format".toList fields with
      | some f => (Hint.ofName? f).map fun h => ⟨name, url, h⟩
      | none => some ⟨name, url, .auto⟩
    else none
  | _ => none

/-- Keep the first source of every name. -/
def firstOfName : List Source → List Source
  | [] => []
  | s :: rest => s :: (firstOfName rest).filter (·.name != s.name)

/-- The sources of a manifest's value. -/
def ofValue : Value → Except Fault (List Source)
  | .list [] => .error .empty
  | .list items =>
    match firstOfName (items.filterMap entry?) with
    | [] => .error .noValidEntry
    | sources => .ok sources
  | _ => .error .notAList

/-- The sources of a manifest's text. -/
def parse (s : Text) (yaml : Bool) : Except Fault (List Source) :=
  match (if yaml then Yaml.parse? s else Json.parse? s) with
  | some v => ofValue v
  | none => .error (if yaml then .invalidYaml else .invalidJson)

end Manifest
end RuleSets
