import Mathlib.Data.List.Forall2
import RecipientRewriting.Proofs.Processing.Deciding
import RecipientRewriting.Proofs.Processing.Yields

/-!
# Decisions and the answers behind them

What a pass decides on a recipient follows from what the directory answers about
it.  Each function of a pass that asks something is described once here, by the
answers that its result comes from.
-/

namespace RecipientRewriting

/-- A rule as a pass completes it: a target without a domain gets a default
domain of the directory, and every other target stays as it is. -/
inductive Directory.Completes {world : Type} (directory : Directory world) : Rule → Rule → Prop
  | whole {rule : Rule} :
      rule.needsDomain = false →
      directory.Completes rule rule
  | supplied {rule : Rule} {domain : Domain} :
      rule.needsDomain = true →
      directory.Supplies domain →
      directory.Completes rule (rule.completeWith domain)

/-- The groups are answered by the directory, each at some time. -/
def Directory.Locates {world : Type} (directory : Directory world)
    (answered : List (Partition.Group × Bool)) : Prop :=
  ∀ entry ∈ answered, ∃ now, (directory.isLocal entry.1.domain now).1 = entry.2

def RuleList.addresses (rules : RuleList) : List Address :=
  UniqueList.ofList (rules.filterMap Rule.address?)

theorem RuleList.mem_addresses
    {rules : RuleList} {target : Address} :
    target ∈ RuleList.addresses rules ↔ ∃ rule ∈ rules, rule.address? = some target := by
  rw [RuleList.addresses, UniqueList.mem_ofList, List.mem_filterMap]

namespace Processor

variable {directoryWorld transportWorld : Type}

/-- What may be decided on a recipient, by what the directory answers. -/
inductive Decides (processor : Processor directoryWorld transportWorld) (recipient : Address) :
    Decision → Prop
  | unnamed :
      Source.ofAddress? recipient = none →
      processor.Decides recipient (.passThrough recipient)
  | unmapped {source : Source} {now : directoryWorld} :
      Source.ofAddress? recipient = some source →
      (processor.directory.resolve source processor.settings.kinds now).1.answer =
        .ok (.success []) →
      processor.Decides recipient (.passThrough recipient)
  | rejected {source : Source} {now : directoryWorld} {reason : String} :
      Source.ofAddress? recipient = some source →
      (processor.directory.resolve source processor.settings.kinds now).1.answer =
        .ok (.rejected reason) →
      processor.Decides recipient (.reject recipient)
  | replaced {source : Source} {now : directoryWorld} {rules completed : RuleList}
      {answered : List (Partition.Group × Bool)} :
      Source.ofAddress? recipient = some source →
      (processor.directory.resolve source processor.settings.kinds now).1.answer =
        .ok (.success rules) →
      rules ≠ [] →
      List.Forall₂ processor.directory.Completes rules completed →
      answered.map Prod.fst = Partition.groupByDomain (RuleList.addresses completed) →
      processor.directory.Locates answered →
      processor.Decides recipient
        ⟨recipient, .success (Partition.ofAnswers answered).onSite,
          (Partition.ofAnswers answered).remote⟩

theorem Decides.recipient_eq
    {processor : Processor directoryWorld transportWorld} {recipient : Address}
    {decision : Decision}
    (decides : processor.Decides recipient decision) :
    decision.recipient = recipient := by
  cases decides <;> rfl

variable (processor : Processor directoryWorld transportWorld)

/-! ## Lookups -/

/-- A lookup with a time limit yields what the directory has answered with. -/
theorem timedLookup_yields
    {answer : Type} (settings : ProcessorSettings) {directory : Directory directoryWorld}
    (question : directoryWorld → Timed answer × directoryWorld)
    (written : Except LookupError answer → Effect) :
    (do let timed ← Pass.consult question
        Pass.note (written (withinLimit settings timed))
        Pass.require (withinLimit settings timed) :
      Pass directoryWorld transportWorld answer).Yields directory fun value =>
        ∃ now, (question now).1.answer = .ok value := by
  refine Pass.yields_bind (Pass.consult_yields question) ?_
  intro timed consulted
  obtain ⟨now, rfl⟩ := consulted
  refine (Pass.lookup_yields _ _).mono ?_
  intro value inTime
  exact ⟨now, answer_of_withinLimit inTime⟩

theorem resolve_yields (source : Source) :
    (processor.resolve source).Yields processor.directory fun resolution =>
      ∃ now, (processor.directory.resolve source processor.settings.kinds now).1.answer =
        .ok resolution :=
  timedLookup_yields processor.settings _ (.resolved source)

theorem findForwards_yields (source : Source) :
    (processor.findForwards source).Yields processor.directory fun rules =>
      ∃ now, (processor.directory.forwardRules source now).1.answer = .ok rules :=
  timedLookup_yields processor.settings _ (.foundForwards source)

theorem isLocal_yields (domain : Domain) :
    (processor.isLocal domain).Yields processor.directory fun answer =>
      ∃ now, (processor.directory.isLocal domain now).1 = answer := by
  refine Pass.yields_bind (Pass.consult_yields _) ?_
  intro reply consulted
  exact Pass.yields_bind (Pass.note_yields _) fun _ _ => Pass.yields_pure consulted

/-! ## Targets -/

theorem complete_yields (rule : Rule) :
    (processor.complete rule).Yields processor.directory
      (processor.directory.Completes rule) := by
  unfold complete
  by_cases needs : rule.needsDomain = true
  · rw [if_pos needs]
    refine Pass.yields_bind processor.defaultDomain_yields ?_
    intro domain supplies
    exact Pass.yields_pure (.supplied needs supplies)
  · rw [if_neg needs]
    exact Pass.yields_pure (.whole (by simpa using needs))

theorem addTargets_yields (found : List Address) (rules : RuleList) :
    (processor.addTargets found rules).Yields processor.directory fun addresses =>
      ∃ completed, List.Forall₂ processor.directory.Completes rules completed ∧
        addresses = UniqueList.addAll found (completed.filterMap Rule.address?) := by
  induction rules generalizing found with
  | nil => exact Pass.yields_pure ⟨[], .nil, rfl⟩
  | cons rule rest inductionHypothesis =>
      refine Pass.yields_bind (processor.complete_yields rule) ?_
      intro first completes
      refine (inductionHypothesis _).mono ?_
      intro addresses restYields
      obtain ⟨completed, restCompletes, rfl⟩ := restYields
      refine ⟨first :: completed, .cons completes restCompletes, ?_⟩
      cases named : first.address? with
      | none => simp [named]
      | some address => simp [named]

theorem targets_yields (rules : RuleList) :
    (processor.targets rules).Yields processor.directory fun addresses =>
      ∃ completed, List.Forall₂ processor.directory.Completes rules completed ∧
        addresses = RuleList.addresses completed :=
  processor.addTargets_yields [] rules

/-! ## Decisions -/

theorem askAll_yields (groups : List Partition.Group) :
    (Partition.askAll processor.isLocal groups).Yields processor.directory fun answered =>
      answered.map Prod.fst = groups ∧ processor.directory.Locates answered := by
  induction groups with
  | nil => exact Pass.yields_pure ⟨rfl, by simp [Directory.Locates]⟩
  | cons group rest inductionHypothesis =>
      refine Pass.yields_bind (processor.isLocal_yields group.domain) ?_
      intro answer asked
      refine Pass.yields_bind inductionHypothesis ?_
      intro others restYields
      obtain ⟨rfl, located⟩ := restYields
      refine Pass.yields_pure ⟨rfl, ?_⟩
      intro entry member
      rcases List.mem_cons.1 member with rfl | later
      · exact asked
      · exact located entry later

/-- A partition comes from answers about every group of the addresses. -/
theorem ofAddresses_yields (addresses : List Address) :
    (Partition.ofAddresses processor.isLocal addresses).Yields processor.directory fun split =>
      ∃ answered, split = Partition.ofAnswers answered ∧
        answered.map Prod.fst = Partition.groupByDomain addresses ∧
        processor.directory.Locates answered := by
  refine Pass.yields_bind (processor.askAll_yields _) ?_
  intro answered asked
  exact Pass.yields_pure ⟨answered, rfl, asked⟩

theorem decide_yields (recipient : Address) :
    (processor.decide recipient).Yields processor.directory (processor.Decides recipient) := by
  unfold decide
  cases named : Source.ofAddress? recipient with
  | none => exact Pass.yields_pure (.unnamed named)
  | some source =>
      refine Pass.yields_bind (processor.resolve_yields source) ?_
      intro resolution resolves
      obtain ⟨now, answered⟩ := resolves
      cases resolution with
      | rejected reason => exact Pass.yields_pure (.rejected named answered)
      | success rules =>
          cases rules with
          | nil => exact Pass.yields_pure (.unmapped named answered)
          | cons rule rest =>
              refine Pass.yields_bind (processor.targets_yields (rule :: rest)) ?_
              intro addresses found
              obtain ⟨completed, completes, rfl⟩ := found
              refine Pass.yields_bind (processor.ofAddresses_yields _) ?_
              intro split outcome
              obtain ⟨groupAnswers, rfl, groups, located⟩ := outcome
              exact Pass.yields_pure
                (.replaced named answered (List.cons_ne_nil rule rest) completes groups located)

/-- Every recipient is decided on, in order, by what the directory answers about
it. -/
theorem decideAll_yields (recipients : List Address) :
    (processor.decideAll recipients).Yields processor.directory fun decisions =>
      decisions.map Decision.recipient = recipients ∧
        ∀ decision ∈ decisions, processor.Decides decision.recipient decision := by
  induction recipients with
  | nil => exact Pass.yields_pure ⟨rfl, by simp⟩
  | cons recipient rest inductionHypothesis =>
      refine Pass.yields_bind (processor.decide_yields recipient) ?_
      intro decision decides
      obtain rfl := decides.recipient_eq
      refine Pass.yields_bind inductionHypothesis ?_
      intro others othersYield
      obtain ⟨rfl, othersDecided⟩ := othersYield
      refine Pass.yields_pure ⟨rfl, ?_⟩
      intro other member
      rcases List.mem_cons.1 member with rfl | later
      · exact decides
      · exact othersDecided other later

/-! ## Forwarding -/

/-- What forwarding may do about a recipient, by what the directory answers. -/
inductive Acts (processor : Processor directoryWorld transportWorld) (ledger : Ledger)
    (recipient : Address) : List ForwardAction → Prop
  | nothing :
      processor.Acts ledger recipient []
  | decided {source : Source} {now : directoryWorld} {rules completed : RuleList} :
      Source.ofAddress? recipient = some source →
      (processor.directory.forwardRules source now).1.answer = .ok rules →
      rules ≠ [] →
      List.Forall₂ processor.directory.Completes rules completed →
      processor.Acts ledger recipient
        (ForwardAction.decide recipient (RuleList.addresses completed) ledger)

theorem forwardActions_yields (ledger : Ledger) (recipient : Address) :
    (processor.forwardActions ledger recipient).Yields processor.directory
      (processor.Acts ledger recipient) := by
  unfold forwardActions
  cases named : Source.ofAddress? recipient with
  | none => exact Pass.yields_pure .nothing
  | some source =>
      refine Pass.yields_bind (processor.findForwards_yields source) ?_
      intro rules found
      obtain ⟨now, answered⟩ := found
      cases rules with
      | nil => exact Pass.yields_pure .nothing
      | cons rule rest =>
          refine Pass.yields_bind (processor.targets_yields (rule :: rest)) ?_
          intro addresses targets
          obtain ⟨completed, completes, rfl⟩ := targets
          exact Pass.yields_pure
            (.decided named answered (List.cons_ne_nil rule rest) completes)

/-- What forwarding may do about several recipients: each action is one of those
about some recipient, and none of these is left out. -/
def ActsOnEach (processor : Processor directoryWorld transportWorld) (ledger : Ledger)
    (actions : List ForwardAction) : Prop :=
  ∀ action ∈ actions, ∃ recipient part, processor.Acts ledger recipient part ∧
    action ∈ part ∧ part ⊆ actions

theorem allForwardActions_yields (ledger : Ledger) (recipients : List Address) :
    (processor.allForwardActions ledger recipients).Yields processor.directory
      (processor.ActsOnEach ledger) := by
  induction recipients with
  | nil => exact Pass.yields_pure (by simp [ActsOnEach])
  | cons recipient rest inductionHypothesis =>
      refine Pass.yields_bind (processor.forwardActions_yields ledger recipient) ?_
      intro actions acts
      refine Pass.yields_bind inductionHypothesis ?_
      intro others othersAct
      refine Pass.yields_pure ?_
      intro action member
      rcases List.mem_append.1 member with first | later
      · exact ⟨recipient, actions, acts, first, List.subset_append_left actions others⟩
      · obtain ⟨other, part, otherActs, inPart, subset⟩ := othersAct action later
        exact ⟨other, part, otherActs, inPart, List.subset_append_of_subset_right actions subset⟩

end Processor

end RecipientRewriting
