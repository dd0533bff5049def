import RecipientRewriting.Audit
import RecipientRewriting.Formats
import RecipientRewriting.Locality
import RecipientRewriting.Processing.Basic
import RecipientRewriting.RuleTable.Basic

/-!
# Configurations

A configuration is one record of records: how mails are processed, by which
rules, for which domains, and what is recorded about it.  A setting that is not
stated has its default.
-/

namespace RecipientRewriting

open Notation

/-! ## Settings -/

def Configuration.maxNumber : Nat :=
  0xFFFFFFFFFFFFFFFF

def ProcessorSettings.format : Format ProcessorSettings :=
  .record "ProcessorConfig" .default
    [.of "rewrite_sender_upon_forward" .bool ProcessorSettings.forwardSeparately
      fun forwardSeparately settings => { settings with forwardSeparately },
     .of "forward_auto_submitted_emails" .bool ProcessorSettings.forwardAutoReplies
      fun forwardAutoReplies settings => { settings with forwardAutoReplies },
     .of "error_processor" ProcessingState.format ProcessorSettings.errorState
      fun errorState settings => { settings with errorState },
     .of "lookup_timeout_secs" (.option (.nat Configuration.maxNumber))
      ProcessorSettings.lookupTimeout
      fun lookupTimeout settings => { settings with lookupTimeout }]

def AuditSettings.format : Format AuditSettings :=
  .record "AuditConfig" .default
    [.of "enabled" .bool AuditSettings.enabled
      fun enabled settings => { settings with enabled },
     .of "redact_sender" .bool AuditSettings.redactSender
      fun redactSender settings => { settings with redactSender },
     .of "redact_recipients" .bool AuditSettings.redactRecipients
      fun redactRecipients settings => { settings with redactRecipients }]

/-! ## Rules -/

/-- A rule table as a configuration states it. -/
structure TableSettings where
  recursive : Bool
  mappingLimit : Nat
  mappings : OrderedMap Source RuleList
  deriving DecidableEq, Repr

namespace TableSettings

def default : TableSettings :=
  ⟨true, RuleTable.defaultMappingLimit, .empty⟩

def format : Format TableSettings :=
  .record "TableConfig" .default
    [.of "recursive" .bool TableSettings.recursive
      fun recursive settings => { settings with recursive },
     .of "mapping_limit" (.nat Configuration.maxNumber) TableSettings.mappingLimit
      fun mappingLimit settings => { settings with mappingLimit },
     .of "mappings" (.orderedMap Source.format RuleList.format) TableSettings.mappings
      fun mappings settings => { settings with mappings }]

/-- The table that is described, with the domain that completes its targets. -/
def toTable (settings : TableSettings) (defaultDomain : Option Domain) : RuleTable :=
  settings.mappings.entries.foldl (fun table (source, rules) => table.addRules source rules)
    { RuleTable.empty with
      recursive := settings.recursive
      mappingLimit := settings.mappingLimit
      defaultDomain := defaultDomain }

/-- The settings of the table are those that are stated. -/
theorem exists_toTable_eq (settings : TableSettings) (defaultDomain : Option Domain) :
    ∃ stored, settings.toTable defaultDomain =
      ⟨stored, settings.recursive, settings.mappingLimit, defaultDomain⟩ := by
  have kept (entries : List (Source × RuleList)) (table : RuleTable) :
      ∃ stored, entries.foldl (fun table (source, rules) => table.addRules source rules) table =
        { table with rules := stored } := by
    induction entries generalizing table with
    | nil => exact ⟨table.rules, rfl⟩
    | cons entry rest inductionHypothesis =>
        obtain ⟨first, sameFirst⟩ := table.exists_addRules_eq entry.1 entry.2
        obtain ⟨stored, same⟩ := inductionHypothesis (table.addRules entry.1 entry.2)
        refine ⟨stored, ?_⟩
        rw [List.foldl_cons, same, sameFirst]
  obtain ⟨stored, same⟩ := kept settings.mappings.entries _
  exact ⟨stored, same⟩

@[simp]
theorem toTable_recursive (settings : TableSettings) (defaultDomain : Option Domain) :
    (settings.toTable defaultDomain).recursive = settings.recursive := by
  obtain ⟨stored, same⟩ := settings.exists_toTable_eq defaultDomain
  rw [same]

@[simp]
theorem toTable_defaultDomain (settings : TableSettings) (defaultDomain : Option Domain) :
    (settings.toTable defaultDomain).defaultDomain = defaultDomain := by
  obtain ⟨stored, same⟩ := settings.exists_toTable_eq defaultDomain
  rw [same]

end TableSettings

/-! ## Domains -/

/-- The local domains as a configuration states them. -/
structure DomainSettings where
  defaultDomain : Option Domain
  localDomains : List Domain
  deriving DecidableEq, Repr

namespace DomainSettings

def default : DomainSettings :=
  ⟨none, []⟩

def format : Format DomainSettings :=
  .record "DomainListConfig" .default
    [.of "default_domain" (.option Domain.format) DomainSettings.defaultDomain
      fun defaultDomain settings => { settings with defaultDomain },
     .of "local_domains" (.list Domain.format) DomainSettings.localDomains
      fun localDomains settings => { settings with localDomains }]

def toDomainList (settings : DomainSettings) : DomainList :=
  .make settings.localDomains settings.defaultDomain

end DomainSettings

/-! ## Everything together -/

/-- Everything that can be configured. -/
structure Configuration where
  processor : ProcessorSettings
  table : TableSettings
  domains : DomainSettings
  audit : AuditSettings
  deriving DecidableEq, Repr

namespace Configuration

def default : Configuration :=
  ⟨.default, .default, .default, .default⟩

/-- The form of a configuration.  The rules and the domains go by two names
each. -/
def format : Format Configuration :=
  .record "Switchyard" .default
    [.of "processor" ProcessorSettings.format Configuration.processor
      fun processor configuration => { configuration with processor },
     .orNamed "rrt" (.of "table" TableSettings.format Configuration.table
      fun table configuration => { configuration with table }),
     .orNamed "domain_list" (.of "domains" DomainSettings.format Configuration.domains
      fun domains configuration => { configuration with domains }),
     .of "audit" AuditSettings.format Configuration.audit
      fun audit configuration => { configuration with audit }]

end Configuration

end RecipientRewriting
