import RecipientRewriting.Processing.Forwards

/-!
# Computations that only ask

Both phases decide before they do anything.  What decides is put together from
questions to the directory, one after the other, and from nothing else; so a
property of computations that every question has, and that carries over from two
computations to their sequence, is one of all decisions.
-/

namespace RecipientRewriting.Processor

variable {directoryWorld transportWorld : Type}

/-- The computation is put together from questions that the processor asks. -/
inductive OnlyAsks (processor : Processor directoryWorld transportWorld) :
    {alpha : Type} → Pass directoryWorld transportWorld alpha → Prop
  | done {alpha : Type} (value : alpha) :
      OnlyAsks processor (pure value)
  | next {alpha beta : Type} {first : Pass directoryWorld transportWorld alpha}
      {later : alpha → Pass directoryWorld transportWorld beta} :
      OnlyAsks processor first →
      (∀ value, OnlyAsks processor (later value)) →
      OnlyAsks processor (first >>= later)
  | resolve (source : Source) : OnlyAsks processor (processor.resolve source)
  | findForwards (source : Source) : OnlyAsks processor (processor.findForwards source)
  | defaultDomain : OnlyAsks processor processor.defaultDomain
  | isLocal (domain : Domain) : OnlyAsks processor (processor.isLocal domain)

variable (processor : Processor directoryWorld transportWorld)

theorem complete_onlyAsks (rule : Rule) : processor.OnlyAsks (processor.complete rule) := by
  unfold complete
  split
  · exact .next .defaultDomain fun domain => .done _
  · exact .done rule

theorem addTargets_onlyAsks (found : List Address) (rules : RuleList) :
    processor.OnlyAsks (processor.addTargets found rules) := by
  induction rules generalizing found with
  | nil => exact .done found
  | cons rule rest inductionHypothesis =>
      exact .next (processor.complete_onlyAsks rule) fun completed => inductionHypothesis _

theorem askAll_onlyAsks (groups : List Partition.Group) :
    processor.OnlyAsks (Partition.askAll processor.isLocal groups) := by
  induction groups with
  | nil => exact .done []
  | cons group rest inductionHypothesis =>
      refine .next (.isLocal group.domain) fun answer => ?_
      exact .next inductionHypothesis fun others => .done _

/-! ## Decisions -/

theorem decide_onlyAsks (recipient : Address) :
    processor.OnlyAsks (processor.decide recipient) := by
  unfold decide
  cases Source.ofAddress? recipient with
  | none => exact .done _
  | some source =>
      refine .next (.resolve source) fun resolution => ?_
      cases resolution with
      | rejected reason => exact .done _
      | success rules =>
          cases rules with
          | nil => exact .done _
          | cons rule rest =>
              refine .next (processor.addTargets_onlyAsks [] (rule :: rest)) fun addresses => ?_
              refine .next (.next (processor.askAll_onlyAsks _) fun answered => .done _) ?_
              exact fun split => .done _

theorem decideAll_onlyAsks (recipients : List Address) :
    processor.OnlyAsks (processor.decideAll recipients) := by
  induction recipients with
  | nil => exact .done []
  | cons recipient rest inductionHypothesis =>
      refine .next (processor.decide_onlyAsks recipient) fun decision => ?_
      exact .next inductionHypothesis fun others => .done _

theorem forwardActions_onlyAsks (ledger : Ledger) (recipient : Address) :
    processor.OnlyAsks (processor.forwardActions ledger recipient) := by
  unfold forwardActions
  cases Source.ofAddress? recipient with
  | none => exact .done []
  | some source =>
      refine .next (.findForwards source) fun rules => ?_
      cases rules with
      | nil => exact .done []
      | cons rule rest =>
          exact .next (processor.addTargets_onlyAsks [] (rule :: rest)) fun addresses => .done _

theorem allForwardActions_onlyAsks (ledger : Ledger) (recipients : List Address) :
    processor.OnlyAsks (processor.allForwardActions ledger recipients) := by
  induction recipients with
  | nil => exact .done []
  | cons recipient rest inductionHypothesis =>
      refine .next (processor.forwardActions_onlyAsks ledger recipient) fun actions => ?_
      exact .next inductionHypothesis fun others => .done _

end RecipientRewriting.Processor
