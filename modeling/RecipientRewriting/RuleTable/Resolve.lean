import RecipientRewriting.Pattern.Basic
import RecipientRewriting.Rule.Basic
import RecipientRewriting.RuleTable.Basic

/-!
# Following rules

What the rules of a table make of an address.  `targetOf` is one step: where one
rule sends one address.  `resolveAddress` follows such steps until it reaches
addresses that no rule leads away from, and answers with rules that name them.
The number of addresses that may still be looked up is its recursion argument,
so every chain ends; running out of it rejects the address, as an error rule
anywhere on the way does.
-/

namespace RecipientRewriting

/-!
## Failed lookups

A lookup fails when something it depends on does: the store of rules, the list
of domains, or a stored rule that cannot be made sense of.  An address that its
rules reject is not a failed lookup but an answer.
-/

inductive LookupError
  /-- The store of rules cannot be read. -/
  | store (problem : String)
  /-- A target lacks a domain and there is none to complete it with. -/
  | noDefaultDomain
  /-- The list of domains cannot be read. -/
  | domainList (problem : String)
  /-- A source is no address. -/
  | invalidRule (invalid : InvalidRule)
  /-- The pattern of a regex rule is none. -/
  | invalidPattern (pattern : String)
  /-- The answer did not come within the given seconds. -/
  | timeout (seconds : Nat)
  deriving DecidableEq, Repr

namespace LookupError

/-- A number of whole seconds; no time at all is counted in nanoseconds. -/
def secondsText (seconds : Nat) : String :=
  if seconds = 0 then "0ns" else toString seconds ++ "s"

def message : LookupError → String
  | store problem => "Mapping store error: " ++ problem
  | noDefaultDomain => "No default domain configured"
  | domainList problem => "Domain list error: " ++ problem
  | invalidRule invalid => invalid.message
  | invalidPattern pattern => "Invalid regex mapping '" ++ pattern ++ "'"
  | timeout seconds => "Mapping lookup timed out after " ++ secondsText seconds

end LookupError

/-! ## Answers -/

/-- What the rules make of a source. -/
inductive Resolution
  /-- The rules that name where mail goes; none if the address stays. -/
  | success (rules : RuleList)
  /-- The address is rejected for a reason. -/
  | rejected (reason : String)
  deriving DecidableEq, Repr

namespace RuleTable

def limitReason : String :=
  "554 Too many mappings to process"

/-! ## One step -/

/-- Where a regex rule sends an address, if its pattern matches the whole of it
and the filled-in replacement is an address. -/
def applyPattern (table : RuleTable) (rule : Rule) (address : Address) :
    Except LookupError (Option Address) :=
  match rule.patternParts? with
  | none => .ok none
  | some (source, replacement) =>
      match Pattern.compileWhole? source with
      | none => .error (.invalidPattern source)
      | some pattern =>
          match pattern.search? address.text with
          | none => .ok none
          | some captures =>
              let expanded := Template.expand captures replacement
              match table.defaultDomain with
              | some domain =>
                  if expanded.toList.contains '@' then .ok (Address.parse? expanded)
                  else .ok (Address.parse? (expanded ++ "@" ++ domain.text))
              | none => .ok (Address.parse? expanded)

/-- The address that a rule sends mail for `address` to. -/
def targetOf (table : RuleTable) (rule : Rule) (address : Address) :
    Except LookupError (Option Address) :=
  match rule.kind with
  | .userAlias | .group | .forward =>
      match table.defaultDomain with
      | some domain => .ok (rule.completeWith domain).address?
      | none => .ok rule.address?
  | .domain | .domainAlias =>
      .ok (Address.ofParts address.localPart (.ofString rule.target)).toOption
  | .regex => table.applyPattern rule address
  | .error => .ok none

/-- Whether a rule lacks a domain that the table cannot supply either. -/
def lacksDomain (table : RuleTable) (rule : Rule) : Bool :=
  rule.needsDomain && table.defaultDomain.isNone

/-- The kind under which the result of a rule is answered.  A rule that
computes an address resolves to a plain alias of it. -/
def answerKind (kind : RuleKind) : RuleKind :=
  if kind.keepsIdentity then kind else .userAlias

/-! ## Chains of steps -/

/-- What one rule contributes to the answer for an address, where `follow`
resolves the address it leads to. -/
def followRule (table : RuleTable) (follow : Address → Except LookupError Resolution)
    (address : Address) (rule : Rule) : Except LookupError Resolution :=
  if table.lacksDomain rule then
    .ok (.success [rule])
  else
    match table.targetOf rule address with
    | .error failure => .error failure
    | .ok none => .ok (.success [])
    | .ok (some target) =>
        let arrival : Rule := .forAddress (answerKind rule.kind) target
        if !table.recursive then
          .ok (.success [arrival])
        else if target = address then
          .ok (.success (if rule.kind.keepsIdentity then [arrival] else []))
        else
          match follow target with
          | .error failure => .error failure
          | .ok (.rejected reason) => .ok (.rejected reason)
          | .ok (.success []) => .ok (.success [arrival])
          | .ok (.success reached) => .ok (.success reached)

/-- The contributions of several rules behind what has been found already.  The
first failure or rejection ends it. -/
def gather (contribution : Rule → Except LookupError Resolution) :
    RuleList → RuleList → Except LookupError Resolution
  | found, [] => .ok (.success found)
  | found, rule :: rest =>
      match contribution rule with
      | .error failure => .error failure
      | .ok (.rejected reason) => .ok (.rejected reason)
      | .ok (.success reached) => gather contribution (UniqueList.addAll found reached) rest

/-- What the rules make of an address while `remaining` addresses may still be
looked up.  An error rule rejects it whichever kinds are asked for. -/
def resolveAddress (table : RuleTable) (kinds : KindSet) :
    Nat → Address → Except LookupError Resolution
  | 0, _ => .ok (.rejected limitReason)
  | remaining + 1, address =>
      let rules := table.effectiveRules address
      match RuleList.rejection? rules with
      | some reason => .ok (.rejected reason)
      | none =>
          gather (table.followRule (table.resolveAddress kinds remaining) address) []
            (RuleList.select rules kinds)

/-- What the rules make of a source.  The rules of a whole domain are answered
as they are stored. -/
def resolve (table : RuleTable) (source : Source) (kinds : KindSet) :
    Except LookupError Resolution :=
  match source with
  | .user localPart domain =>
      match Address.ofParts localPart domain with
      | .error fault => .error (.invalidRule ⟨source.text, .address fault⟩)
      | .ok address => table.resolveAddress kinds table.mappingLimit address
  | .anyone _ =>
      let rules := table.stored source
      match RuleList.rejection? rules with
      | some reason => .ok (.rejected reason)
      | none => .ok (.success (RuleList.select rules kinds))

end RuleTable

end RecipientRewriting
