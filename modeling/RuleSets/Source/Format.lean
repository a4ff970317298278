import RuleSets.Network
import RuleSets.Rule.Kind
import RuleSets.Source.Document

/-!
# Source formats

The four formats of rule lists and how a text's format is recognised.  A hint decides if it names a
format.  Otherwise the structure decides, then the first line, then how many of the first lines look
like networks or like domain names; if nothing does, the format is clash.
-/

namespace RuleSets

/-- A format of rule lists. -/
inductive Format where
  | clash
  | domainText
  | ipText
  | singboxJson
deriving DecidableEq, Repr

namespace Format

/-- Every format. -/
def all : List Format := [clash, domainText, ipText, singboxJson]

/-- The name of a format. -/
def name : Format → Text
  | clash => "clash".toList
  | domainText => "domain-text".toList
  | ipText => "ip-text".toList
  | singboxJson => "singbox-json".toList

end Format

/-- What is known about a source's format beforehand. -/
inductive Hint where
  | auto
  | fixed (format : Format)
deriving DecidableEq, Repr

namespace Hint

/-- The printed form of a hint. -/
def name : Hint → Text
  | auto => "auto".toList
  | fixed f => f.name

/-- The hint that a text names, in any case, with underscores or hyphens and white space around it.
An empty text names none in particular. -/
def ofName? (s : Text) : Option Hint :=
  let s := (Text.asciiLower (Text.trim s)).map fun c => if c = '_' then '-' else c
  if s.isEmpty || s == "auto".toList then some auto
  else (Format.all.find? fun f => f.name == s).map fixed

end Hint

/-- A rule line whose type is the keyword of an extracted kind. -/
def Kind.splitRule? (line : Text) : Option (Kind × Text) :=
  match Text.splitRule? line with
  | some (keyword, value) => (Kind.ofKeyword? keyword).map fun k => (k, value)
  | none => none

namespace Format

/-- Whether a line is a network with its prefix length. -/
def looksLikeNetwork (s : Text) : Bool := s.contains '/' && (Network.parseSlash? s).isSome

/-- Whether a line could be a domain name: it has a period, and no white space, comma or slash. -/
def looksLikeDomain (s : Text) : Bool :=
  s.contains '.' && !s.any fun c => Text.isBlank c || c == ',' || c == '/'

/-- The content lines of a text, cleaned, except those that are empty then. -/
def cleanLines (s : Text) : List Text :=
  ((Text.contentLines s).map Text.cleanItem).filter fun l => !l.isEmpty

/-- How many lines are looked at. -/
def sampleSize : Nat := 50

/-- The least number of lines that must agree. -/
def minHits : Nat := 3

/-- The least share of lines that must agree, in percent. -/
def minPercent : Nat := 60

/-- Whether enough of the sampled lines agree. -/
def isShare (hits sampled : Nat) : Bool := minHits ≤ hits && sampled * minPercent ≤ hits * 100

/-- The format that a sample of lines suggests. -/
def ofSample (sample : List Text) : Format :=
  let networks := sample.countP looksLikeNetwork
  let domains := sample.countP fun l => !looksLikeNetwork l && looksLikeDomain l
  if isShare networks sample.length then ipText
  else if isShare domains sample.length then domainText
  else clash

/-- The format that lines suggest: clash if the first is a rule line, else what a
sample suggests. -/
def ofLines (lines : List Text) : Format :=
  if lines.head?.any fun l => (Kind.splitRule? l).isSome then clash
  else ofSample (lines.take sampleSize)

/-- The format of a text whose structure is known. -/
def ofDocument (hint : Hint) (doc : Document) (s : Text) : Format :=
  match hint, doc with
  | .fixed f, _ => f
  | .auto, .ruleSet _ _ => singboxJson
  | .auto, .keyed _ _ => clash
  | .auto, _ => ofLines (cleanLines s)

/-- The format of a text. -/
def detect (hint : Hint) (s : Text) : Format := ofDocument hint (Document.parse s) s

end Format
end RuleSets
