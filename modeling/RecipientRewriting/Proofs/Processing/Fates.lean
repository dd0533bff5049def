import RecipientRewriting.Proofs.Partition
import RecipientRewriting.Proofs.Processing.Phases
import RecipientRewriting.Proofs.Resolution.Targets

/-!
# Fates of recipients

The rules of a table keep a recipient, reject it, or replace it by the addresses
that the answer for it names.  Where the table and the list of local domains
agree on the default domain, a pass decides on every recipient as its fate
demands: no rule of an answer is dropped on the way, so what replaces a
recipient is never empty.
-/

namespace RecipientRewriting

inductive Fate
  /-- It stays as it is: its rules say nothing, or it cannot have any. -/
  | kept
  /-- It is rejected. -/
  | rejected
  /-- What these rules name takes its place. -/
  | replaced (rules : RuleList)
  deriving DecidableEq, Repr

namespace RuleTable

/-- The fate of a recipient, unless the lookup of its rules fails. -/
def fate? (table : RuleTable) (kinds : KindSet) (recipient : Address) : Option Fate :=
  match Source.ofAddress? recipient with
  | none => some .kept
  | some source =>
      match table.resolve source kinds with
      | .error _ => none
      | .ok (.rejected _) => some .rejected
      | .ok (.success []) => some .kept
      | .ok (.success rules) => some (.replaced rules)

/-- The addresses that take the place of a recipient; none if it is kept or
rejected. -/
def replacements (table : RuleTable) (kinds : KindSet) (recipient : Address) : List Address :=
  match table.fate? kinds recipient with
  | some (.replaced rules) => RuleList.addresses rules
  | _ => []

def remoteReplacements (table : RuleTable) (domains : DomainList) (kinds : KindSet)
    (recipient : Address) : List Address :=
  (table.replacements kinds recipient).filter fun target => !domains.isLocal target.domain

/-- Mail for a recipient is delivered here to `address`. -/
def GoesOnTo (table : RuleTable) (domains : DomainList) (kinds : KindSet)
    (recipient address : Address) : Prop :=
  (table.fate? kinds recipient = some .kept ∧ address = recipient) ∨
    (address ∈ table.replacements kinds recipient ∧ domains.isLocal address.domain = true)

variable {table : RuleTable} {domains : DomainList} {kinds : KindSet} {recipient : Address}

theorem replacements_of_kept
    (kept : table.fate? kinds recipient = some .kept) :
    table.replacements kinds recipient = [] := by
  rw [replacements, kept]

theorem replacements_of_rejected
    (rejected : table.fate? kinds recipient = some .rejected) :
    table.replacements kinds recipient = [] := by
  rw [replacements, rejected]

theorem replacements_of_replaced
    {rules : RuleList}
    (replaced : table.fate? kinds recipient = some (.replaced rules)) :
    table.replacements kinds recipient = RuleList.addresses rules := by
  rw [replacements, replaced]

theorem fate_of_unnamed
    (unnamed : Source.ofAddress? recipient = none) :
    table.fate? kinds recipient = some .kept := by
  rw [fate?, unnamed]

theorem fate_of_unmapped
    {source : Source}
    (named : Source.ofAddress? recipient = some source)
    (answered : table.resolve source kinds = .ok (.success [])) :
    table.fate? kinds recipient = some .kept := by
  simp only [fate?, named, answered]

theorem fate_of_mapped
    {source : Source} {rules : RuleList}
    (named : Source.ofAddress? recipient = some source)
    (answered : table.resolve source kinds = .ok (.success rules))
    (nonempty : rules ≠ []) :
    table.fate? kinds recipient = some (.replaced rules) := by
  cases rules with
  | nil => exact absurd rfl nonempty
  | cons rule rest => simp only [fate?, named, answered]

end RuleTable

/-! ## Rules that name addresses -/

def RuleList.AllName (rules : RuleList) : Prop :=
  ∀ rule ∈ rules, ∃ target, rule.address? = some target

theorem RuleList.addresses_ne_nil
    {rules : RuleList}
    (nonempty : rules ≠ [])
    (allName : rules.AllName) :
    RuleList.addresses rules ≠ [] := by
  obtain ⟨rule, member⟩ := List.exists_mem_of_ne_nil rules nonempty
  obtain ⟨target, names⟩ := allName rule member
  exact List.ne_nil_of_mem (RuleList.mem_addresses.2 ⟨rule, member, names⟩)

/-- Rules stay as they are if there is no domain for those that need one. -/
theorem Directory.whole_of_completes
    {world : Type} {directory : Directory world} {rules completed : RuleList}
    (completes : List.Forall₂ directory.Completes rules completed)
    (unsupplied : ∀ rule ∈ rules, rule.needsDomain = true →
      ∀ domain, ¬ directory.Supplies domain) :
    (∀ rule ∈ rules, rule.needsDomain = false) ∧ completed = rules := by
  induction completes with
  | nil => exact ⟨by simp, rfl⟩
  | @cons rule _ rest _ first _ inductionHypothesis =>
      obtain ⟨restWhole, rfl⟩ := inductionHypothesis fun other member =>
        unsupplied other (List.mem_cons_of_mem rule member)
      cases first with
      | whole complete => exact ⟨List.forall_mem_cons.2 ⟨complete, restWhole⟩, rfl⟩
      | supplied needs supplies =>
          exact absurd supplies (unsupplied rule List.mem_cons_self needs _)

theorem Directory.supplies_ofTable_iff
    {table : RuleTable} {domains : DomainList} {domain : Domain} :
    (ofTable table domains).Supplies domain ↔ domains.defaultDomain = some domain := by
  cases default : domains.defaultDomain with
  | none => simp [Supplies, ofTable, DomainList.requireDefault, default]
  | some supplied => simp [Supplies, ofTable, DomainList.requireDefault, default]

/-! ## Decisions -/

/-- A decision does with a recipient what its fate demands. -/
inductive Fate.Demands (table : RuleTable) (domains : DomainList) (kinds : KindSet)
    (recipient : Address) : Decision → Prop
  | kept :
      table.fate? kinds recipient = some .kept →
      Fate.Demands table domains kinds recipient (.passThrough recipient)
  | rejected :
      table.fate? kinds recipient = some .rejected →
      Fate.Demands table domains kinds recipient (.reject recipient)
  | replaced {rules : RuleList} {onSite remote : List Address} :
      table.fate? kinds recipient = some (.replaced rules) →
      rules ≠ [] →
      rules.AllName →
      onSite.Perm ((RuleList.addresses rules).filter fun target =>
        domains.isLocal target.domain) →
      remote.Perm ((RuleList.addresses rules).filter fun target =>
        !domains.isLocal target.domain) →
      Fate.Demands table domains kinds recipient ⟨recipient, .success onSite, remote⟩

/-- In a table that has the default domain of its list, an answer that a pass can
complete needs no completion. -/
theorem RuleTable.whole_of_answered
    {table : RuleTable} {domains : DomainList} {kinds : KindSet} {recipient : Address}
    {source : Source} {rules completed : RuleList}
    (shared : table.defaultDomain = domains.defaultDomain)
    (named : Source.ofAddress? recipient = some source)
    (answered : table.resolve source kinds = .ok (.success rules))
    (completes : List.Forall₂ (Directory.ofTable table domains).Completes rules completed) :
    rules.AllName ∧ completed = rules := by
  have origin := resolve_origin named answered
  have unsupplied : ∀ rule ∈ rules, rule.needsDomain = true →
      ∀ domain, ¬ (Directory.ofTable table domains).Supplies domain := by
    intro rule member needs domain supplies
    rw [Directory.supplies_ofTable_iff, ← shared] at supplies
    rcases (origin rule member).lacksDomain_or_names with lacking | ⟨complete, _⟩
    · simp [lacksDomain, supplies] at lacking
    · simp [complete] at needs
  obtain ⟨whole, same⟩ := Directory.whole_of_completes completes unsupplied
  refine ⟨?_, same⟩
  intro rule member
  rcases (origin rule member).lacksDomain_or_names with lacking | ⟨_, names⟩
  · simp [lacksDomain, whole rule member] at lacking
  · exact names

/-- A pass over a table and its list of domains decides as fates demand. -/
theorem Processor.Decides.demands
    {transportWorld : Type} {processor : Processor Unit transportWorld} {table : RuleTable}
    {domains : DomainList} {recipient : Address} {decision : Decision}
    (decides : processor.Decides recipient decision)
    (directory : processor.directory = .ofTable table domains)
    (shared : table.defaultDomain = domains.defaultDomain) :
    Fate.Demands table domains processor.settings.kinds recipient decision := by
  cases decides with
  | unnamed unnamed => exact .kept (table.fate_of_unnamed unnamed)
  | unmapped named answered =>
      rw [directory] at answered
      replace answered : table.resolve _ processor.settings.kinds = _ := answered
      exact .kept (table.fate_of_unmapped named answered)
  | rejected named answered =>
      rw [directory] at answered
      replace answered : table.resolve _ processor.settings.kinds = _ := answered
      apply Fate.Demands.rejected
      simp only [RuleTable.fate?, named, answered]
  | @replaced source now rules completed groupAnswers named answered nonempty completes groups
      located =>
      rw [directory] at answered completes located
      replace answered : table.resolve source processor.settings.kinds = .ok (.success rules) :=
        answered
      obtain ⟨allName, rfl⟩ := table.whole_of_answered shared named answered completes
      have fate := table.fate_of_mapped named answered nonempty
      have answers : ∀ entry ∈ groupAnswers, entry.2 = domains.isLocal entry.1.domain := by
        intro entry member
        obtain ⟨_, answer⟩ := located entry member
        exact answer.symm
      obtain ⟨onSite, remote⟩ := Partition.ofAnswers_perm_filter groups answers
      exact .replaced fate nonempty allName onSite remote

namespace Fate.Demands

variable {table : RuleTable} {domains : DomainList} {kinds : KindSet} {recipient : Address}
  {decision : Decision}

theorem mem_newRecipients_iff
    (demands : Fate.Demands table domains kinds recipient decision) (address : Address) :
    address ∈ decision.newRecipients ↔ table.GoesOnTo domains kinds recipient address := by
  cases demands with
  | kept fate =>
      simp [RuleTable.GoesOnTo, fate, RuleTable.replacements_of_kept fate, Decision.passThrough,
        Decision.newRecipients, Outcome.newRecipients]
  | rejected fate =>
      simp [RuleTable.GoesOnTo, fate, RuleTable.replacements_of_rejected fate, Decision.reject,
        Decision.newRecipients, Outcome.newRecipients]
  | replaced fate _ _ onSite _ =>
      simp [RuleTable.GoesOnTo, fate, RuleTable.replacements_of_replaced fate,
        Decision.newRecipients, Outcome.newRecipients, onSite.mem_iff]

theorem outcome_eq_rejected_iff
    (demands : Fate.Demands table domains kinds recipient decision) (address : Address) :
    decision.outcome = .rejected address ↔
      recipient = address ∧ table.fate? kinds recipient = some .rejected := by
  cases demands with
  | kept fate => simp [fate, Decision.passThrough]
  | rejected fate => simp [fate, Decision.reject]
  | replaced fate => simp [fate]

theorem remote_perm
    (demands : Fate.Demands table domains kinds recipient decision) :
    decision.remote.Perm (table.remoteReplacements domains kinds recipient) := by
  cases demands with
  | kept fate =>
      simp [RuleTable.remoteReplacements, RuleTable.replacements_of_kept fate,
        Decision.passThrough]
  | rejected fate =>
      simp [RuleTable.remoteReplacements, RuleTable.replacements_of_rejected fate,
        Decision.reject]
  | replaced fate _ _ _ remote =>
      rw [RuleTable.remoteReplacements, RuleTable.replacements_of_replaced fate]
      exact remote

end Fate.Demands

end RecipientRewriting
