import RuleSets.Text.Basic

/-!
# Kinds of rules

A rule matches a connection by one property: a domain name, an address, a process and so on.  Each
kind has two spellings, the keyword of `TYPE,VALUE` lines and the field name of rule-set documents.
-/

namespace RuleSets

/-- What a rule matches on, in the canonical order. -/
inductive Kind where
  | domain
  | domainSuffix
  | domainKeyword
  | domainRegex
  | ipCidr
  | ipCidr6
  | processName
  | processPath
  | ipAsn
  | geoIp
  | geoSite
deriving DecidableEq, Repr, Inhabited

namespace Kind

/-- Every kind, in the canonical order. -/
def all : List Kind :=
  [domain, domainSuffix, domainKeyword, domainRegex, ipCidr, ipCidr6, processName, processPath,
    ipAsn, geoIp, geoSite]

/-- The kinds that are read from sources.  The others can be stored and written only. -/
def extracted : List Kind :=
  [domain, domainSuffix, domainKeyword, domainRegex, ipCidr, ipCidr6, processName]

/-- The position of a kind in the canonical order. -/
def index : Kind → Nat
  | domain => 0
  | domainSuffix => 1
  | domainKeyword => 2
  | domainRegex => 3
  | ipCidr => 4
  | ipCidr6 => 5
  | processName => 6
  | processPath => 7
  | ipAsn => 8
  | geoIp => 9
  | geoSite => 10

/-- The type keyword of rule lines. -/
def keyword : Kind → Text
  | domain => "DOMAIN".toList
  | domainSuffix => "DOMAIN-SUFFIX".toList
  | domainKeyword => "DOMAIN-KEYWORD".toList
  | domainRegex => "DOMAIN-REGEX".toList
  | ipCidr => "IP-CIDR".toList
  | ipCidr6 => "IP-CIDR6".toList
  | processName => "PROCESS-NAME".toList
  | processPath => "PROCESS-PATH".toList
  | ipAsn => "IP-ASN".toList
  | geoIp => "GEOIP".toList
  | geoSite => "GEOSITE".toList

/-- The field name of rule-set documents. -/
def fieldName : Kind → Text
  | domain => "domain".toList
  | domainSuffix => "domain_suffix".toList
  | domainKeyword => "domain_keyword".toList
  | domainRegex => "domain_regex".toList
  | ipCidr => "ip_cidr".toList
  | ipCidr6 => "ip_cidr6".toList
  | processName => "process_name".toList
  | processPath => "process_path".toList
  | ipAsn => "ip_asn".toList
  | geoIp => "geoip".toList
  | geoSite => "geosite".toList

/-- Whether values of the kind are networks. -/
def isCidr : Kind → Bool
  | ipCidr | ipCidr6 => true
  | _ => false

/-- The extracted kind with a type keyword, in any case and with white space around it. -/
def ofKeyword? (s : Text) : Option Kind :=
  extracted.find? fun k => Text.eqIgnoringAsciiCase k.keyword (Text.trim s)

/-- The extracted kind with a field name, spelled exactly. -/
def ofFieldName? (s : Text) : Option Kind :=
  extracted.find? fun k => k.fieldName == s

theorem mem_all (k : Kind) : k ∈ all := by cases k <;> decide

theorem index_injective {j k : Kind} (h : j.index = k.index) : j = k := by
  cases j <;> cases k <;> first | rfl | (exact absurd h (by decide))

end Kind
end RuleSets
