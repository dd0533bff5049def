/-!
# Kinds of rules

What a rule does with the addresses it applies to, and sets of kinds.  The
order of `RuleKind.all` is the one in which kinds are listed and in which their
markers are tried when a rule is read.
-/

namespace RecipientRewriting

inductive RuleKind
  /-- Replaces the whole address by what a pattern makes of it. -/
  | regex
  /-- The source domain is another name of the target domain. -/
  | domainAlias
  /-- Replaces the domain and keeps the local part. -/
  | domain
  /-- Rejects the address. -/
  | error
  /-- Sends a copy on behalf of the address. -/
  | forward
  /-- The target is one member of a group. -/
  | group
  /-- The target stands in for the address. -/
  | userAlias
  deriving DecidableEq, Repr, Inhabited

namespace RuleKind

def all : List RuleKind :=
  [regex, domainAlias, domain, error, forward, group, userAlias]

/-- The name of a kind in configurations and diagnostics. -/
def name : RuleKind → String
  | regex => "Regex"
  | domainAlias => "DomainAlias"
  | domain => "Domain"
  | error => "Error"
  | forward => "Forward"
  | group => "Group"
  | userAlias => "Alias"

/-- What a written rule of a kind starts with. -/
def marker : RuleKind → String
  | regex => "regex:"
  | domainAlias => "domainAlias:"
  | domain => "domain:"
  | error => "error:"
  | forward => "forward:"
  | group => "group:"
  | userAlias => "alias:"

/-- Whether a rule of this kind names its target directly, so that a target
equal to the address it applies to keeps that address. -/
def keepsIdentity : RuleKind → Bool
  | userAlias | group | forward => true
  | regex | domainAlias | domain | error => false

theorem mem_all (kind : RuleKind) : kind ∈ all := by
  cases kind <;> decide

end RuleKind

/-- A set of kinds, given by its members. -/
structure KindSet where
  contains : RuleKind → Bool

namespace KindSet

def all : KindSet :=
  ⟨fun _ => true⟩

def none : KindSet :=
  ⟨fun _ => false⟩

def only (kind : RuleKind) : KindSet :=
  ⟨fun other => other = kind⟩

def including (kinds : KindSet) (kind : RuleKind) : KindSet :=
  ⟨fun other => other = kind || kinds.contains other⟩

def excluding (kinds : KindSet) (kind : RuleKind) : KindSet :=
  ⟨fun other => other ≠ kind && kinds.contains other⟩

def ofList (members : List RuleKind) : KindSet :=
  members.foldl including none

/-- The members in the order of listings. -/
def toList (kinds : KindSet) : List RuleKind :=
  RuleKind.all.filter kinds.contains

/-- The names of the members in braces. -/
def describe (kinds : KindSet) : String :=
  "\x7b" ++ ", ".intercalate (kinds.toList.map RuleKind.name) ++ "\x7d"

@[simp]
theorem mem_toList {kinds : KindSet} {kind : RuleKind} :
    kind ∈ kinds.toList ↔ kinds.contains kind = true := by
  simp [toList, RuleKind.mem_all]

end KindSet

end RecipientRewriting
