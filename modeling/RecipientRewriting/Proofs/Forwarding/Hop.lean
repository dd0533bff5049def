import RecipientRewriting.Proofs.Aggregate
import RecipientRewriting.Proofs.Forwarding.Ledger
import RecipientRewriting.Proofs.Processing.Course

/-!
# Copies and their ledgers

Every copy that a pass hands over, whether the transport takes it or not, has
the ledger of the mail it was made from.  Only a copy that is forwarded has one
address more, which is that of its sender, and which was not there before.
-/

namespace RecipientRewriting

/-! ## Addresses of plans -/

theorem PlannedCopy.recipients_isParsed
    {planned : PlannedCopy} {decisions : List Decision}
    (parsed : ∀ decision ∈ decisions, decision.IsParsed)
    (member : planned ∈ plan decisions) :
    ∀ recipient ∈ planned.recipients, recipient.IsParsed := by
  rcases List.mem_append.1 member with redirected | bounced
  · obtain ⟨decision, inDecisions, rfl⟩ := List.mem_map.1 redirected
    exact (parsed decision (List.mem_filter.1 inDecisions).1).remote
  · unfold bounces at bounced
    split at bounced
    · simp at bounced
    · obtain rfl := List.mem_singleton.1 bounced
      intro recipient rejected
      obtain ⟨decision, inDecisions, outcome⟩ :=
        Aggregate.mem_rejectedRecipients_ofDecisions.1 rejected
      exact (parsed decision inDecisions).rejected recipient outcome

theorem PlannedCopy.recipients_injection
    {settings : ProcessorSettings} {mail : Mail} (planned : PlannedCopy) (name : MailName) :
    (planned.injection settings mail name).mail.recipients = planned.recipients := by
  obtain ⟨reason, recipients⟩ := planned
  cases reason <;> rfl

theorem PlannedCopy.ofMail_injection
    {settings : ProcessorSettings} {mail : Mail} (planned : PlannedCopy) (name : MailName) :
    Ledger.ofMail (planned.injection settings mail name).mail = Ledger.ofMail mail := by
  obtain ⟨reason, recipients⟩ := planned
  cases reason <;> simp [injection]

theorem Processor.ofMail_rewrittenBy (mail : Mail) (decisions : List Decision) :
    Ledger.ofMail (rewrittenBy mail decisions) = Ledger.ofMail mail :=
  rfl

theorem Processor.rewrittenBy_isParsed
    {decisions : List Decision}
    (mail : Mail)
    (parsed : ∀ decision ∈ decisions, decision.IsParsed) :
    ∀ recipient ∈ (rewrittenBy mail decisions).recipients, recipient.IsParsed := by
  intro recipient member
  obtain ⟨decision, inDecisions, accepted⟩ :=
    Aggregate.mem_newRecipients_ofDecisions.1 member
  exact (parsed decision inDecisions).accepted recipient accepted

/-! ## Hops -/

/-- A copy, and the mail that it was made from. -/
structure Hop where
  parent : Mail
  reason : CopyReason
  copy : Mail

namespace Hop

/-- The copy has been forwarded by `forwarder`, who has been added to its ledger
and was not there before, to addresses that have not forwarded it. -/
structure ForwardedBy (hop : Hop) (forwarder : Address) : Prop where
  sender : hop.copy.sender = some forwarder
  absent : forwarder ∉ (Ledger.ofMail hop.parent).addresses
  recorded : (Ledger.ofMail hop.copy).addresses =
    (Ledger.ofMail hop.parent).addresses ++ [forwarder]
  spared : ∀ recipient ∈ hop.copy.recipients,
    recipient ∉ (Ledger.ofMail hop.copy).addresses

/-- A copy accounts for whoever has forwarded it, and goes to addresses that can
be read. -/
structure IsSound {world : Type} (directory : Directory world) (hop : Hop) : Prop where
  forwards : hop.reason = .forward →
    ∃ forwarder, directory.Forwards forwarder ∧ hop.ForwardedBy forwarder
  keeps : hop.reason ≠ .forward → Ledger.ofMail hop.copy = Ledger.ofMail hop.parent
  parsed : ∀ recipient ∈ hop.copy.recipients, recipient.IsParsed

variable {directoryWorld transportWorld : Type}
  {processor : Processor directoryWorld transportWorld} {mail parent : Mail}
  {reason : CopyReason} {copy : Mail} {state : Option ProcessingState}
  {answer : Except TransportError Unit}

/-- A planned copy keeps the ledger. -/
theorem isSound_of_planned
    {decisions : List Decision} {planned : PlannedCopy}
    (processor : Processor directoryWorld transportWorld) (mail : Mail) (name : MailName)
    (parsed : ∀ decision ∈ decisions, decision.IsParsed)
    (member : planned ∈ PlannedCopy.plan decisions) :
    IsSound processor.directory ⟨mail, planned.reason,
      (planned.injection processor.settings mail name).mail⟩ := by
  refine ⟨?_, fun _ => PlannedCopy.ofMail_injection planned name, ?_⟩
  · intro forwarded
    dsimp only at forwarded
    have reasons := PlannedCopy.reason_of_mem_plan member
    rw [forwarded] at reasons
    simp at reasons
  · dsimp only
    rw [PlannedCopy.recipients_injection]
    exact PlannedCopy.recipients_isParsed parsed member

/-- What forwarding hands over keeps the ledger or adds its sender to it. -/
theorem isSound_of_performs
    {action : ForwardAction}
    (parsed : ∀ recipient ∈ mail.recipients, recipient.IsParsed)
    (sameLedger : Ledger.ofMail mail = Ledger.ofMail parent)
    (sound : action.IsSound processor.directory (Ledger.ofMail mail) mail.recipients)
    (performs : Performs processor.settings mail (Ledger.ofMail mail) action
      (.injected reason ⟨copy, state⟩ answer)) :
    IsSound processor.directory ⟨parent, reason, copy⟩ := by
  cases performs with
  | @sends sender targets name =>
      obtain ⟨inRecipients, forwards, absent, targetsSound⟩ := sound
      have wellFormed :=
        (Ledger.ofMail_wellFormed mail).add (parsed sender inRecipients)
      have ledger := Ledger.ofMail_recordOn wellFormed
        (((mail.duplicate name).withSender (some sender)).withRecipients targets)
      refine ⟨fun _ => ⟨sender, forwards, rfl, ?_, ?_, ?_⟩, by simp, ?_⟩
      · rwa [← sameLedger]
      · dsimp only
        rw [ledger, ← sameLedger]
        exact UniqueList.add_of_not_mem absent
      · intro target member
        dsimp only
        rw [ledger]
        exact (targetsSound target member).2
      · intro target member
        exact (targetsSound target member).1
  | @reports recipient name =>
      refine ⟨by simp, fun _ => sameLedger, ?_⟩
      intro other member
      obtain rfl := List.mem_singleton.1 member
      exact parsed other sound

/-- What a pass over a mail hands over is sound, however the pass ends. -/
theorem isSound_of_processMail
    {surroundings : Surroundings directoryWorld transportWorld}
    (parsed : ∀ recipient ∈ parent.recipients, recipient.IsParsed)
    (member : .injected reason ⟨copy, state⟩ answer ∈
      (processor.processMail parent surroundings).state.trace) :
    IsSound processor.directory ⟨parent, reason, copy⟩ := by
  obtain ⟨decisions, _, _, decisionsParsed, hands⟩ := Processor.exists_handsFor member
  cases hands with
  | @planned _ name _ inPlan same =>
      obtain ⟨rfl, sameInjection, _⟩ := Effect.injected.inj same
      have sound := isSound_of_planned processor parent name (decisionsParsed parsed) inPlan
      rwa [← sameInjection] at sound
  | performed sound performs =>
      have rewrittenParsed := Processor.rewrittenBy_isParsed parent (decisionsParsed parsed)
      exact isSound_of_performs rewrittenParsed (Processor.ofMail_rewrittenBy parent decisions)
        sound performs

/-- What forwarding on its own hands over is sound. -/
theorem isSound_of_processForwards
    {surroundings : Surroundings directoryWorld transportWorld}
    (parsed : ∀ recipient ∈ parent.recipients, recipient.IsParsed)
    (member : .injected reason ⟨copy, state⟩ answer ∈
      (processor.processForwards parent surroundings).state.trace) :
    IsSound processor.directory ⟨parent, reason, copy⟩ := by
  obtain ⟨result, remaining, last, added, phase, trace, forwarding, _⟩ :=
    Processor.handle_applyForwards processor parent (.start surroundings)
  have whole : processor.processForwards parent surroundings = ⟨result, remaining, last⟩ := phase
  rw [whole] at member
  dsimp only at member
  rw [trace] at member
  have inAdded : .injected reason ⟨copy, state⟩ answer ∈ added := by
    simpa [PassState.start] using member
  obtain ⟨action, sound, performs⟩ := Processor.Forwarding.exists_performs forwarding inAdded
  exact isSound_of_performs parsed rfl sound performs

end Hop

end RecipientRewriting
