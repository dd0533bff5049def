import RecipientRewriting.Proofs.Forwarding.Removal
import RecipientRewriting.Proofs.Processing.Stages

/-!
# The default domain of a pass

A pass asks for the default domain at most once, and does so if one of the rules
it finds leaves a domain out.  Both phases complete targets with the one answer,
and if there is none, the pass fails for that reason.  Nothing of it is left to
the next pass.
-/

namespace RecipientRewriting

theorem Rule.needsDomain_iff {rule : Rule} :
    rule.needsDomain = true ↔
      (rule.kind = .userAlias ∨ rule.kind = .group ∨ rule.kind = .forward) ∧
        '@' ∉ rule.target.toList := by
  unfold needsDomain
  cases rule.kind <;> simp [RuleKind.keepsIdentity]

def PassState.suppliedDomain? {directoryWorld transportWorld : Type}
    (state : PassState directoryWorld transportWorld) : Option Domain :=
  state.trace.findSome? Effect.suppliedDomain?

theorem PassState.suppliedDomain?_eq
    {directoryWorld transportWorld : Type} (state : PassState directoryWorld transportWorld) :
    state.suppliedDomain? = recallDomain none state.trace := by
  simp [suppliedDomain?, recallDomain]

namespace Processor

variable {directoryWorld transportWorld : Type}
  {processor : Processor directoryWorld transportWorld} {mail : Mail}

/-! ## Requests of a pass -/

/-- How a pass that has come to a decision uses the default domain. -/
structure AsksOnce (processor : Processor directoryWorld transportWorld) (mail : Mail)
    (decision : Except ProcessingError (List Decision))
    (processed : Processed directoryWorld transportWorld) : Prop where
  /-- It is asked for at most once. -/
  atMostOnce : processed.state.defaultDomainRequests ≤ 1
  /-- It is asked for if some rule that has been found leaves it out. -/
  onDemand : processed.state.defaultDomainRequests = 1 ↔
    ∃ effect ∈ processed.state.trace, ∃ rule ∈ effect.foundRules,
      (rule.kind = .userAlias ∨ rule.kind = .group ∨ rule.kind = .forward) ∧
        '@' ∉ rule.target.toList
  /-- Without it the pass fails. -/
  failing : ∀ failure, .askedDefaultDomain (.error failure) ∈ processed.state.trace →
    processed.result = .error (.lookup failure)
  /-- The targets of recipients are completed with it. -/
  deciding : ∀ decisions, decision = .ok decisions →
    List.Forall₂ (fun recipient decision => decision.FollowsFrom
      processed.state.suppliedDomain? processed.state.trace recipient) mail.recipients decisions
  /-- The targets of forwarding rules are completed with it. -/
  forwarding : ∀ decisions, decision = .ok decisions → processed.result = .ok () →
    forwards processor.settings (rewrittenBy mail decisions) = true →
    ∃ actions found,
      ForwardAction.Settle processed.state.suppliedDomain?
        (Ledger.ofMail (rewrittenBy mail decisions)) (rewrittenBy mail decisions).recipients
        processed.state.trace actions found ∧
      attempts processed.state.trace =
        (PlannedCopy.plan decisions).map (PlannedCopy.attempt processor.settings mail) ++
          actions.filterMap (ForwardAction.copy? processor.settings (rewrittenBy mail decisions)
            (Ledger.ofMail (rewrittenBy mail decisions))) ∧
      processed.mail = withoutRemoved (rewrittenBy mail decisions) actions

namespace Stages

variable {surroundings : Surroundings directoryWorld transportWorld}
  {processed : Processed directoryWorld transportWorld}

theorem asksOnDemand (stages : processor.Stages mail surroundings processed) :
    AsksOnDemand false none processed.state.trace := by
  cases stages with
  | unfinished _ first => exact first.asksOnDemand
  | @rewritten decisions outcome added middle last _ _ first second trace =>
      -- the first phase comes to its end, which a failed lookup would have prevented
      have complete : failedLookups middle.trace = [] := by
        refine List.eq_nil_iff_forall_not_mem.2 ?_
        intro cause failed
        have impossible := first.outcome_of_failed failed
        simp at impossible
      dsimp only
      rw [trace]
      exact first.asksOnDemand.append complete second.asksOnDemand

/-- A pass fails over the first lookup that does. -/
theorem result_of_failed
    {cause : LookupError}
    (stages : processor.Stages mail surroundings processed)
    (failed : cause ∈ failedLookups processed.state.trace) :
    processed.result = .error (.lookup cause) := by
  cases stages with
  | unfinished _ first => simpa using first.outcome_of_failed failed
  | rewritten _ _ first second trace =>
      dsimp only at failed ⊢
      rw [trace, failedLookups_append] at failed
      rcases List.mem_append.1 failed with early | late
      · have impossible := first.outcome_of_failed early
        simp at impossible
      · rw [second.outcome_of_failed late]
        rfl

/-- Decisions follow from what is known at the end of the pass. -/
theorem follows
    {decisions : List Decision}
    (stages : processor.Stages mail surroundings processed)
    (decided : (processor.decided mail surroundings).1 = .ok decisions) :
    List.Forall₂ (fun recipient decision => decision.FollowsFrom
      processed.state.suppliedDomain? processed.state.trace recipient)
      mail.recipients decisions := by
  rw [PassState.suppliedDomain?_eq]
  cases stages with
  | unfinished _ first =>
      rw [decided] at first
      simpa using first.follows []
  | rewritten _ decision first _ trace =>
      rw [decided] at decision
      cases decision
      dsimp only
      rw [trace]
      exact first.follows _

/-- So do the actions of the second phase, if it applies. -/
theorem exists_settle
    {decisions : List Decision}
    (stages : processor.Stages mail surroundings processed)
    (decided : (processor.decided mail surroundings).1 = .ok decisions)
    (succeeds : processed.result = .ok ())
    (applies : forwards processor.settings (rewrittenBy mail decisions) = true) :
    ∃ actions found,
      ForwardAction.Settle processed.state.suppliedDomain?
        (Ledger.ofMail (rewrittenBy mail decisions)) (rewrittenBy mail decisions).recipients
        processed.state.trace actions found ∧
      attempts processed.state.trace =
        (PlannedCopy.plan decisions).map (PlannedCopy.attempt processor.settings mail) ++
          actions.filterMap (ForwardAction.copy? processor.settings (rewrittenBy mail decisions)
            (Ledger.ofMail (rewrittenBy mail decisions))) ∧
      processed.mail = withoutRemoved (rewrittenBy mail decisions) actions := by
  rw [PassState.suppliedDomain?_eq]
  cases stages with
  | unfinished => simp at succeeds
  | @rewritten _ outcome added middle _ _ decision first second trace =>
      rw [decided] at decision
      cases decision
      cases outcome with
      | error failure => simp [Except.map] at succeeds
      | ok changed =>
          obtain ⟨actions, found, settled, attempted, rfl⟩ := second.exists_settle applies
          rw [← recallDomain_append] at settled
          dsimp only
          rw [trace]
          refine ⟨actions, found, settled.preceded first.forwardRules_eq_nil, ?_, rfl⟩
          rw [attempts_append, first.attempts_eq, attempted]

theorem asksOnce (stages : processor.Stages mail surroundings processed) :
    processor.AsksOnce mail (processor.decided mail surroundings).1 processed := by
  have requests := stages.asksOnDemand
  unfold AsksOnDemand at requests
  refine ⟨?_, ?_, ?_, fun _ => stages.follows, fun _ => stages.exists_settle⟩
  · rw [PassState.defaultDomainRequests, requests]
    split <;> simp
  · rw [PassState.defaultDomainRequests, requests]
    simp [Effect.leavesOutDomain, ← Rule.needsDomain_iff]
  · intro failure asked
    exact stages.result_of_failed (List.mem_filterMap.2 ⟨_, asked, rfl⟩)

end Stages

/-- Whatever the directory answers, a pass asks for the default domain at most
once, namely if some rule it finds leaves one out, completes every target with the
answer, and fails if there is none.  A pass behind it, in the surroundings it
leaves, asks anew. -/
theorem defaultDomain_asked_once
    (processor : Processor directoryWorld transportWorld) (mail : Mail)
    (surroundings : Surroundings directoryWorld transportWorld) :
    let processed := processor.processMail mail surroundings
    processor.AsksOnce mail (processor.decided mail surroundings).1 processed ∧
    ∀ next, processor.AsksOnce next
      (processor.decided next processed.state.toSurroundings).1
      (processor.processMail next processed.state.toSurroundings) := by
  intro processed
  constructor
  · exact (stages_processMail processor mail surroundings).1.asksOnce
  · intro next
    exact (stages_processMail processor next processed.state.toSurroundings).1.asksOnce

/-- A directory that names another default domain whenever it is asked. -/
def driftingDirectory : Directory Nat where
  resolve _ _ now := (⟨.ok (.success [⟨.userAlias, "b"⟩]), 0⟩, now)
  forwardRules _ now := (⟨.ok [⟨.forward, "c"⟩], 0⟩, now)
  defaultDomain now := (.ok (.ofString (if now = 0 then "x.org" else "y.org")), now + 1)
  isLocal _ now := (true, now)

def drifting : Processor Nat Recorder :=
  ⟨⟨true, true, .error, none⟩, .default, driftingDirectory, Recorder.transport⟩

/-- An alias and a forwarding rule both leave the domain out; the pass asks once,
and the copy goes to the domain that completes the alias.  The next pass asks once
at most as well. -/
theorem drifting_asks_once :
    (drifting.processMail forwardedMail ⟨0, .empty, ⟨1⟩⟩).state.defaultDomainRequests = 1 ∧
      copyRecipients .forward (drifting.processMail forwardedMail ⟨0, .empty, ⟨1⟩⟩).state.trace =
        [[⟨"c", .ofString "x.org"⟩]] ∧
      ∀ next, (drifting.processMail next (drifting.processMail forwardedMail
        ⟨0, .empty, ⟨1⟩⟩).state.toSurroundings).state.defaultDomainRequests ≤ 1 := by
  obtain ⟨once, onceMore⟩ := drifting.defaultDomain_asked_once forwardedMail ⟨0, .empty, ⟨1⟩⟩
  have leavesOut : (drifting.processMail forwardedMail
      ⟨0, .empty, ⟨1⟩⟩).state.trace.any Effect.leavesOutDomain = true := by
    decide +kernel
  refine ⟨once.onDemand.2 ?_, by decide +kernel, fun next => (onceMore next).atMostOnce⟩
  simpa [Effect.leavesOutDomain, Rule.needsDomain_iff] using leavesOut

end Processor

end RecipientRewriting
