import RuleSets.Pipeline.Options
import RuleSets.Fetch
import RuleSets.Text.Numeral

/-!
# Arguments

What a command line asks for.  A setting is given by an argument, else by an environment variable,
else it has its default; a flag is given by an argument only.  Neither may be given twice.
-/

namespace RuleSets.CommandLine

/-- How log lines are written. -/
inductive LogFormat where
  | text
  | json
deriving DecidableEq, Repr

/-- What a run is asked to do.  Times are seconds. -/
structure Settings where
  manifest : Path := ⟨"remote-rules.json".toList⟩
  singBoxProgram : Path := ⟨"sing-box".toList⟩
  mihomoProgram : Path := ⟨"mihomo".toList⟩
  singBoxDir : Path := ⟨"dist/singbox".toList⟩
  mihomoDir : Path := ⟨"dist/mihomo".toList⟩
  workDir : Path := ⟨".work".toList⟩
  compileTimeout : Nat := 120
  fetchTimeout : Nat := Fetcher.defaultTimeout
  version : Nat := Target.defaultVersion
  strict : Bool := true
  keepSources : Bool := false
  skipSingBox : Bool := false
  skipMihomo : Bool := false
  logLevel : Text := "info".toList
  logFormat : LogFormat := .text
deriving DecidableEq, Repr

/-- The settings that take a value. -/
inductive Setting where
  | manifest
  | singBoxProgram
  | mihomoProgram
  | singBoxDir
  | mihomoDir
  | workDir
  | compileTimeout
  | fetchTimeout
  | version
  | logLevel
  | logFormat
deriving DecidableEq, Repr

/-- The settings that are switched on. -/
inductive Flag where
  | noStrict
  | keepSources
  | skipSingBox
  | skipMihomo
deriving DecidableEq, Repr

/-- A number below a bound, in decimal digits after at most one plus sign. -/
def unsigned? (bound : Nat) (s : Text) : Option Nat :=
  let ds := if s.head? = some '+' then s.drop 1 else s
  let n := Text.valueOf 10 ds
  if ds.isEmpty || !ds.all Char.isDigit || bound ≤ n then none else some n

/-- A number below a bound, where zero may also have a minus sign. -/
def signed? (bound : Nat) : Text → Option Nat
  | '-' :: '+' :: _ => none
  | '-' :: ds => unsigned? 1 ds
  | s => unsigned? bound s

/-- A path that is not empty. -/
def path? (s : Text) : Option Path := if s.isEmpty then none else some ⟨s⟩

namespace Setting

/-- Every setting that takes a value. -/
def all : List Setting :=
  [manifest, singBoxProgram, mihomoProgram, singBoxDir, mihomoDir, workDir, compileTimeout,
    fetchTimeout, version, logLevel, logFormat]

/-- The name of a setting behind two hyphens. -/
def name : Setting → Text
  | manifest => "manifest".toList
  | singBoxProgram => "singbox-bin".toList
  | mihomoProgram => "mihomo-bin".toList
  | singBoxDir => "singbox-dir".toList
  | mihomoDir => "mihomo-dir".toList
  | workDir => "work-dir".toList
  | compileTimeout => "compile-timeout".toList
  | fetchTimeout => "fetch-timeout".toList
  | version => "ruleset-version".toList
  | logLevel => "log-level".toList
  | logFormat => "log-format".toList

/-- The environment variable of a setting. -/
def environmentName? : Setting → Option Text
  | manifest => some "RULES_MANIFEST".toList
  | singBoxProgram => some "SINGBOX_BIN".toList
  | mihomoProgram => some "MIHOMO_BIN".toList
  | singBoxDir => some "SINGBOX_DIR".toList
  | mihomoDir => some "MIHOMO_DIR".toList
  | workDir => some "WORK_DIR".toList
  | compileTimeout => some "COMPILE_TIMEOUT".toList
  | fetchTimeout => some "FETCH_TIMEOUT".toList
  | version => some "RULESET_VERSION".toList
  | logLevel | logFormat => none

/-- Give a setting a value, if the value is well-formed. -/
def apply (o : Setting) (value : Text) (s : Settings) : Option Settings :=
  match o with
  | manifest => (path? value).map fun p => { s with manifest := p }
  | singBoxProgram => (path? value).map fun p => { s with singBoxProgram := p }
  | mihomoProgram => (path? value).map fun p => { s with mihomoProgram := p }
  | singBoxDir => (path? value).map fun p => { s with singBoxDir := p }
  | mihomoDir => (path? value).map fun p => { s with mihomoDir := p }
  | workDir => (path? value).map fun p => { s with workDir := p }
  | compileTimeout => (unsigned? (Nat.pow 2 64) value).map fun n => { s with compileTimeout := n }
  | fetchTimeout => (unsigned? (Nat.pow 2 64) value).map fun n => { s with fetchTimeout := n }
  | version => (signed? (Nat.pow 2 32) value).map fun n => { s with version := n }
  | logLevel => some { s with logLevel := value }
  | logFormat =>
    if value = "text".toList then some { s with logFormat := .text }
    else if value = "json".toList then some { s with logFormat := .json }
    else none

end Setting

namespace Flag

/-- Every flag. -/
def all : List Flag := [noStrict, keepSources, skipSingBox, skipMihomo]

/-- The name of a flag behind two hyphens. -/
def name : Flag → Text
  | noStrict => "no-strict".toList
  | keepSources => "keep-sources".toList
  | skipSingBox => "skip-singbox".toList
  | skipMihomo => "skip-mihomo".toList

/-- Switch a flag on. -/
def apply (f : Flag) (s : Settings) : Settings :=
  match f with
  | noStrict => { s with strict := false }
  | keepSources => { s with keepSources := true }
  | skipSingBox => { s with skipSingBox := true }
  | skipMihomo => { s with skipMihomo := true }

end Flag

/-- What a command line asks for. -/
inductive Request where
  | run (settings : Settings)
  | version
  | help
deriving DecidableEq, Repr

/-- What the arguments so far have given. -/
structure Given where
  settings : Settings
  valued : List Setting
  flags : List Flag

namespace Given

/-- Nothing given. -/
def nothing : Given := ⟨{}, [], []⟩

/-- Give a setting a value, unless it has been given one. -/
def setValue (g : Given) (o : Setting) (value : Text) : Option Given :=
  if g.valued.contains o then none
  else (o.apply value g.settings).map fun s => { g with settings := s, valued := o :: g.valued }

/-- Switch a flag on, unless it has been. -/
def setFlag (g : Given) (f : Flag) : Option Given :=
  if g.flags.contains f then none
  else some { g with settings := f.apply g.settings, flags := f :: g.flags }

/-- Take the settings that no argument has given from the environment. -/
def complete (g : Given) (environment : Text → Option Text) : Option Settings :=
  Setting.all.foldlM (fun s o =>
    if g.valued.contains o then some s
    else
      match o.environmentName?.bind environment with
      | some value => o.apply value s
      | none => some s) g.settings

end Given

/-- Whether an argument cannot be a value: it begins with a hyphen, and is more than that. -/
def isHyphened : Text → Bool
  | '-' :: _ :: _ => true
  | _ => false

/-- The name and the value around the first equals sign of an argument. -/
def splitArgument (s : Text) : Text × Option Text :=
  match s.dropWhile (· != '=') with
  | _ :: value => (s.takeWhile (· != '='), some value)
  | [] => (s, none)

/-- Read arguments, one after the other; nothing comes of a command line that is not understood. -/
def readArguments (environment : Text → Option Text) : Given → List Text → Option Request
  | g, [] => (g.complete environment).map Request.run
  | g, ['-', '-'] :: rest => if rest.isEmpty then (g.complete environment).map Request.run else none
  | g, ('-' :: '-' :: argument) :: rest =>
    let (name, value?) := splitArgument argument
    match Setting.all.find? (·.name == name) with
    | some o =>
      match value?, rest with
      | some value, rest => (g.setValue o value).bind (readArguments environment · rest)
      | none, value :: rest =>
        if isHyphened value then none
        else (g.setValue o value).bind (readArguments environment · rest)
      | none, [] => none
    | none =>
      if value?.isSome then none
      else if name = "version".toList then some .version
      else if name = "help".toList then some .help
      else
        match Flag.all.find? (·.name == name) with
        | some f => (g.setFlag f).bind (readArguments environment · rest)
        | none => none
  | _, ('-' :: 'V' :: _) :: _ => some .version
  | _, ('-' :: 'h' :: _) :: _ => some .help
  | _, _ :: _ => none

/-- What a command line asks for, given its arguments and the environment. -/
def parse (arguments : List Text) (environment : Text → Option Text) : Option Request :=
  readArguments environment .nothing arguments

end RuleSets.CommandLine
