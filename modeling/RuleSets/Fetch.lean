import RuleSets.FileSystem

/-!
# Fetching

A fetcher answers an address with the text behind it.  Bytes that are not UTF-8 are replaced and do
not make a fetch fail.
-/

namespace RuleSets

/-- What is behind an address, as the files are at the moment. -/
abbrev Fetcher := FileSystem → Text → Except Failure Text

namespace Fetcher

/-- Texts held in memory by their addresses; others are not found. -/
def memory (bodies : OrderedMap Text Text) : Fetcher := fun _ url =>
  match bodies.get? url with
  | some text => .ok text
  | none => .error (.fetch url "not found".toList)

/-- What addresses of files begin with. -/
def fileScheme : Text := "file://".toList

/-- The time that a fetch over the network may take, in seconds. -/
def defaultTimeout : Nat := 60

/-- The failure of an address that leads to no file where there is no network. -/
def unreachable (url : Text) : Failure := .fetch url "no network".toList

/-- Files by addresses that begin with `file://`; all others are asked of `remote`. -/
def files (cwd : Location) (remote : Text → Except Failure Text) : Fetcher := fun fs url =>
  match Text.afterPrefix? fileScheme url with
  | some path =>
    match fs.read cwd ⟨path⟩ with
    | .ok contents => .ok (Utf8.decodeLossy contents)
    | .error e => .error (.fetch url e.message)
  | none => remote url

end Fetcher
end RuleSets
