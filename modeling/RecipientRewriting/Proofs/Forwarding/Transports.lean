import RecipientRewriting.Proofs.Forwarding.Removal
import RecipientRewriting.Proofs.Processing.DefaultDomain

/-!
# Forwarding and the transport

What forwarding does is decided before anything is handed over, and nothing that
the transport says is heeded.  So the same directory makes forwarding do the same
with any two transports.  The relation that carries over from one step to the next
is that the directory is in one state and that one domain is remembered; the rest
of the surroundings plays no part.
-/

namespace RecipientRewriting

/-! ## Two runs -/

/-- The directory is in the same state in both, and both remember the same default
domain. -/
structure PassState.Agrees {directoryWorld transportWorld otherWorld : Type}
    (state : PassState directoryWorld transportWorld)
    (other : PassState directoryWorld otherWorld) : Prop where
  directory : state.directory = other.directory
  defaultDomain : state.defaultDomain = other.defaultDomain

def Processor.withTransport {directoryWorld transportWorld otherWorld : Type}
    (processor : Processor directoryWorld transportWorld) (transport : Transport otherWorld) :
    Processor directoryWorld otherWorld :=
  ⟨processor.settings, processor.audit, processor.directory, transport⟩

namespace Pass

variable {directoryWorld transportWorld otherWorld alpha beta : Type}

/-- From states that agree, both computations return the same and lead to states
that agree. -/
def Mirrors (computation : Pass directoryWorld transportWorld alpha)
    (other : Pass directoryWorld otherWorld alpha) : Prop :=
  ∀ start otherStart, start.Agrees otherStart →
    (computation.run start).1 = (other.run otherStart).1 ∧
      (computation.run start).2.Agrees (other.run otherStart).2

theorem mirrors_pure (value : alpha) :
    Mirrors (pure value : Pass directoryWorld transportWorld alpha)
      (pure value : Pass directoryWorld otherWorld alpha) := fun _ _ agree =>
  ⟨rfl, agree⟩

theorem Mirrors.bind
    {first : Pass directoryWorld transportWorld alpha}
    {otherFirst : Pass directoryWorld otherWorld alpha}
    {next : alpha → Pass directoryWorld transportWorld beta}
    {otherNext : alpha → Pass directoryWorld otherWorld beta}
    (firstMirrors : first.Mirrors otherFirst)
    (nextMirrors : ∀ value, (next value).Mirrors (otherNext value)) :
    (first >>= next).Mirrors (otherFirst >>= otherNext) := by
  intro start otherStart agree
  obtain ⟨sameResult, agreeLater⟩ := firstMirrors start otherStart agree
  rw [run_bind, run_bind]
  cases outcome : first.run start with
  | mk result middle =>
      cases otherOutcome : otherFirst.run otherStart with
      | mk otherResult otherMiddle =>
          rw [outcome, otherOutcome] at sameResult agreeLater
          obtain rfl : result = otherResult := sameResult
          cases result with
          | error failure => exact ⟨rfl, agreeLater⟩
          | ok value => exact nextMirrors value middle otherMiddle agreeLater

theorem note_mirrors (effect : Effect) :
    Mirrors (note effect : Pass directoryWorld transportWorld Unit)
      (note effect : Pass directoryWorld otherWorld Unit) := fun _ _ agree =>
  ⟨rfl, agree.directory, agree.defaultDomain⟩

theorem require_mirrors (reply : Except LookupError alpha) :
    Mirrors (require reply : Pass directoryWorld transportWorld alpha)
      (require reply : Pass directoryWorld otherWorld alpha) := by
  intro start otherStart agree
  cases reply with
  | ok value => exact ⟨rfl, agree⟩
  | error failure => exact ⟨rfl, agree⟩

theorem consult_mirrors (question : directoryWorld → alpha × directoryWorld) :
    Mirrors (consult question : Pass directoryWorld transportWorld alpha)
      (consult question : Pass directoryWorld otherWorld alpha) := by
  intro start otherStart agree
  obtain ⟨sameDirectory, sameMemory⟩ := agree
  refine ⟨?_, ?_, sameMemory⟩
  · change Except.ok (question start.directory).1 = Except.ok (question otherStart.directory).1
    rw [sameDirectory]
  · change (question start.directory).2 = (question otherStart.directory).2
    rw [sameDirectory]

end Pass

namespace Processor

variable {directoryWorld transportWorld otherWorld : Type}
  (processor : Processor directoryWorld transportWorld) (transport : Transport otherWorld)

theorem findForwards_mirrors (source : Source) :
    (processor.findForwards source).Mirrors
      ((processor.withTransport transport).findForwards source) := by
  refine (Pass.consult_mirrors _).bind fun timed => ?_
  exact (Pass.note_mirrors _).bind fun _ => Pass.require_mirrors _

theorem defaultDomain_mirrors :
    processor.defaultDomain.Mirrors (processor.withTransport transport).defaultDomain := by
  intro start otherStart agree
  have sameMemory := agree.defaultDomain
  cases remembered : start.defaultDomain with
  | some domain =>
      rw [remembered] at sameMemory
      rw [processor.run_defaultDomain_of_some remembered,
        (processor.withTransport transport).run_defaultDomain_of_some sameMemory.symm]
      exact ⟨rfl, agree⟩
  | none =>
      rw [remembered] at sameMemory
      rw [processor.run_defaultDomain_of_none remembered,
        (processor.withTransport transport).run_defaultDomain_of_none sameMemory.symm,
        show (processor.withTransport transport).directory = processor.directory from rfl,
        ← agree.directory]
      exact ⟨rfl, rfl, rfl⟩

theorem complete_mirrors (rule : Rule) :
    (processor.complete rule).Mirrors ((processor.withTransport transport).complete rule) := by
  unfold complete
  split
  · exact (processor.defaultDomain_mirrors transport).bind fun domain => Pass.mirrors_pure _
  · exact Pass.mirrors_pure rule

theorem addTargets_mirrors (found : List Address) (rules : RuleList) :
    (processor.addTargets found rules).Mirrors
      ((processor.withTransport transport).addTargets found rules) := by
  induction rules generalizing found with
  | nil => exact Pass.mirrors_pure found
  | cons rule rest inductionHypothesis =>
      exact (processor.complete_mirrors transport rule).bind fun completed =>
        inductionHypothesis _

theorem forwardActions_mirrors (ledger : Ledger) (recipient : Address) :
    (processor.forwardActions ledger recipient).Mirrors
      ((processor.withTransport transport).forwardActions ledger recipient) := by
  unfold forwardActions
  cases Source.ofAddress? recipient with
  | none => exact Pass.mirrors_pure []
  | some source =>
      refine (processor.findForwards_mirrors transport source).bind fun rules => ?_
      cases rules with
      | nil => exact Pass.mirrors_pure []
      | cons rule rest =>
          exact (processor.addTargets_mirrors transport [] (rule :: rest)).bind fun addresses =>
            Pass.mirrors_pure _

/-- With any two transports, forwarding decides on the same. -/
theorem allForwardActions_mirrors (ledger : Ledger) (recipients : List Address) :
    (processor.allForwardActions ledger recipients).Mirrors
      ((processor.withTransport transport).allForwardActions ledger recipients) := by
  induction recipients with
  | nil => exact Pass.mirrors_pure []
  | cons recipient rest inductionHypothesis =>
      refine (processor.forwardActions_mirrors transport ledger recipient).bind fun actions => ?_
      exact inductionHypothesis.bind fun others => Pass.mirrors_pure _

/-! ## From decisions to deeds -/

/-- What forwarding returns and attempts is a function of what it decides on. -/
theorem forwardingOf_of_actions
    {mail : Mail} (applies : forwards processor.settings mail = true)
    (start : PassState directoryWorld transportWorld) :
    ∃ added, ((processor.forwardingOf mail).run start).2.trace = start.trace ++ added ∧
      ((processor.forwardingOf mail).run start).1 =
        ((processor.allForwardActions (Ledger.ofMail mail) mail.recipients).run start).1.map
          (withoutRemoved mail) ∧
      attempts added =
        (((processor.allForwardActions (Ledger.ofMail mail) mail.recipients).run
          start).1.toOption.getD []).filterMap
            (ForwardAction.copy? processor.settings mail (Ledger.ofMail mail)) := by
  obtain ⟨asked, askedTrace, questions, _⟩ :=
    processor.allForwardActions_asks (Ledger.ofMail mail) (fun _ member => member) start
  have silent := attempts_of_questions fun effect member => (questions effect member).isQuestion
  unfold forwardingOf
  rw [if_pos applies, Pass.run_bind]
  cases decided : (processor.allForwardActions (Ledger.ofMail mail) mail.recipients).run start with
  | mk result reached =>
      rw [decided] at askedTrace
      cases result with
      | error failure => exact ⟨asked, askedTrace, rfl, silent⟩
      | ok actions =>
          obtain ⟨performed, trace, done, finished, carried⟩ :=
            processor.carryOutAll_carriesOut mail (Ledger.ofMail mail) actions reached
          dsimp only
          rw [Pass.run_bind]
          cases outcome : (processor.carryOutAll mail (Ledger.ofMail mail) actions).run reached with
          | mk ending last =>
              rw [outcome] at trace finished
              obtain rfl : ending = .ok done := finished
              refine ⟨asked ++ performed, ?_, rfl, ?_⟩
              · rw [← List.append_assoc, ← askedTrace]
                exact trace
              · rw [attempts_append, silent, carried.attempts_eq]
                rfl

/-- With another transport and other names, forwarding returns the same, leaves
the same mail and attempts the same copies. -/
theorem processForwards_withTransport
    (mail : Mail) (surroundings : Surroundings directoryWorld transportWorld)
    (world : otherWorld) (names : NameSupply) :
    let one := processor.processForwards mail surroundings
    let other := (processor.withTransport transport).processForwards mail
      ⟨surroundings.directory, world, names⟩
    one.result = other.result ∧ one.mail = other.mail ∧
      attempts one.state.trace = attempts other.state.trace := by
  intro one other
  have oneIs : one = _ :=
    (processor.applyForwards_amounts mail).handle_eq (.start surroundings)
  have otherIs : other = _ :=
    ((processor.withTransport transport).applyForwards_amounts mail).handle_eq
      (.start ⟨surroundings.directory, world, names⟩)
  rw [oneIs, otherIs]
  by_cases applies : forwards processor.settings mail = true
  · obtain ⟨added, trace, result, tried⟩ :=
      processor.forwardingOf_of_actions applies (.start surroundings)
    obtain ⟨otherAdded, otherTrace, otherResult, otherTried⟩ :=
      (processor.withTransport transport).forwardingOf_of_actions applies
        (.start ⟨surroundings.directory, world, names⟩)
    obtain ⟨sameActions, _⟩ := processor.allForwardActions_mirrors transport (Ledger.ofMail mail)
      mail.recipients (.start surroundings) (.start ⟨surroundings.directory, world, names⟩)
      ⟨rfl, rfl⟩
    dsimp only
    rw [result, otherResult, trace, otherTrace, attempts_append, attempts_append, tried, otherTried,
      sameActions]
    exact ⟨rfl, rfl, rfl⟩
  · unfold forwardingOf
    rw [if_neg applies, if_neg (show ¬ forwards (processor.withTransport transport).settings
      mail = true from applies)]
    exact ⟨rfl, rfl, rfl⟩

end Processor

/-! ## Who stays -/

/-- Nothing that has been found takes a recipient off: it cannot have rules, it has
forwarded the mail before, or whatever was found for it is nothing or leads back
to it. -/
def ForwardAction.Stays (supplied : Option Domain) (ledger : Ledger)
    (found : List (Address × RuleList)) (recipient : Address) : Prop :=
  recipient.isQuoted = true ∨ recipient ∈ ledger.addresses ∨
    ∀ answer ∈ found, answer.1 = recipient →
      answer.2 = [] ∨ recipient ∈ answer.2.addressesWith supplied

instance ForwardAction.decidableStays (supplied : Option Domain) (ledger : Ledger)
    (found : List (Address × RuleList)) : DecidablePred (Stays supplied ledger found) := fun _ =>
  inferInstanceAs (Decidable (_ ∨ _ ∨ _))

namespace ForwardAction

variable {supplied : Option Domain} {ledger : Ledger} {recipients : List Address}
  {effects : List Effect} {actions : List ForwardAction} {found : List (Address × RuleList)}

theorem remove_mem_decideBy_iff {answer : Address × RuleList} {removed : Address} :
    .remove removed ∈ decideBy supplied ledger answer ↔
      answer.1 = removed ∧ removed ∉ ledger.addresses ∧ answer.2 ≠ [] ∧
        removed ∉ answer.2.addressesWith supplied := by
  obtain ⟨recipient, rules⟩ := answer
  cases rules with
  | nil => simp [decideBy]
  | cons rule rest =>
      simp only [decideBy, remove_mem_decide_iff]
      constructor
      · rintro ⟨rfl, unrecorded, elsewhere⟩
        exact ⟨rfl, unrecorded, List.cons_ne_nil rule rest, elsewhere⟩
      · rintro ⟨rfl, unrecorded, _, elsewhere⟩
        exact ⟨rfl, unrecorded, elsewhere⟩

theorem Settle.stays_iff
    {recipient : Address}
    (settle : Settle supplied ledger recipients effects actions found) :
    Stays supplied ledger found recipient ↔ .remove recipient ∉ actions := by
  rw [settle.actions]
  constructor
  · intro stays removes
    obtain ⟨answer, inFound, inPart⟩ := List.mem_flatMap.1 removes
    obtain ⟨rfl, unrecorded, nonempty, elsewhere⟩ := remove_mem_decideBy_iff.1 inPart
    rcases stays with quoted | recorded | kept
    · have chosen : answer.1 ∈ found.map Prod.fst := List.mem_map_of_mem inFound
      rw [settle.each] at chosen
      have unquoted := (List.mem_filter.1 chosen).2
      simp [quoted] at unquoted
    · exact unrecorded recorded
    · rcases kept answer inFound rfl with empty | back
      · exact nonempty empty
      · exact elsewhere back
  · intro remains
    by_cases recorded : recipient ∈ ledger.addresses
    · exact Or.inr (Or.inl recorded)
    · refine Or.inr (Or.inr fun answer inFound same => ?_)
      by_contra takenOff
      rw [not_or] at takenOff
      have removes : .remove recipient ∈ decideBy supplied ledger answer :=
        remove_mem_decideBy_iff.2 ⟨same, recorded, takenOff.1, takenOff.2⟩
      exact remains (List.mem_flatMap.2 ⟨answer, inFound, removes⟩)

theorem Settle.withoutRemoved_eq
    {mail : Mail} (settle : Settle supplied ledger recipients effects actions found) :
    Processor.withoutRemoved mail actions =
      mail.withRecipients (mail.recipients.filter fun recipient =>
        Stays supplied ledger found recipient) := by
  unfold Processor.withoutRemoved
  dsimp only
  have same : ∀ recipient ∈ mail.recipients,
      (!(actions.filterMap removed?).contains recipient) =
        Decidable.decide (Stays supplied ledger found recipient) := by
    intro recipient _
    rw [Bool.eq_iff_iff, decide_eq_true_iff, settle.stays_iff]
    have removed : recipient ∈ actions.filterMap removed? ↔ .remove recipient ∈ actions := by
      rw [List.mem_filterMap]
      constructor
      · rintro ⟨action, member, removes⟩
        cases action with
        | remove other =>
            cases removes
            exact member
        | sendCopy sender targets => cases removes
        | recordLoop other => cases removes
      · intro member
        exact ⟨_, member, rfl⟩
    simp [← removed]
  rw [List.filter_congr same]

end ForwardAction

/-! ## What is recorded -/

theorem Audit.reportsForwards_of_questions
    {effects : List Effect} (settings : AuditSettings)
    (questions : ∀ effect ∈ effects, effect.IsQuestion) :
    ReportsForwards settings effects := by
  refine reportsForwards_of_unforwarded settings ?_ (events_of_questions questions)
  refine List.filterMap_eq_nil_iff.2 ?_
  intro effect member
  have question := questions effect member
  cases effect <;> first | rfl | exact question.elim

namespace Processor

variable {directoryWorld transportWorld otherWorld : Type}
  {processor : Processor directoryWorld transportWorld} {mail : Mail}
  {surroundings : Surroundings directoryWorld transportWorld}

theorem stages_processForwards
    (processor : Processor directoryWorld transportWorld) (mail : Mail)
    (surroundings : Surroundings directoryWorld transportWorld) :
    ∃ outcome, processor.ForwardingStages mail none outcome
        (processor.processForwards mail surroundings).state.trace ∧
      (processor.processForwards mail surroundings).result = outcome.map (fun _ => ()) ∧
      (processor.processForwards mail surroundings).mail = outcome.toOption.getD mail := by
  obtain ⟨added, trace, _, stages⟩ := forwardingOf_stages processor mail (.start surroundings)
  have whole : processor.processForwards mail surroundings = _ :=
    (processor.applyForwards_amounts mail).handle_eq (.start surroundings)
  rw [whole]
  dsimp only
  rw [trace]
  exact ⟨_, stages, rfl, rfl⟩

theorem ForwardingStages.reportsForwards
    {remembered : Option Domain} {outcome : Except ProcessingError Mail} {added : List Effect}
    (stages : processor.ForwardingStages mail remembered outcome added) :
    Audit.ReportsForwards processor.audit added := by
  cases stages with
  | skipped => exact Audit.reportsForwards_of_unforwarded _ rfl rfl
  | undecided _ _ questions =>
      exact Audit.reportsForwards_of_questions _ fun effect member =>
        (questions effect member).isQuestion
  | forwarded _ _ questions _ _ carried =>
      have asks := Audit.reportsForwards_of_questions processor.audit fun effect member =>
        (questions effect member).isQuestion
      exact asks.append carried.reports

/-- If forwarding applies to a mail and comes to its end, what has been found settles
who stays. -/
theorem exists_settle_processForwards
    (applies : forwards processor.settings mail = true)
    (succeeds : (processor.processForwards mail surroundings).result = .ok ()) :
    ∃ actions found,
      ForwardAction.Settle (processor.processForwards mail surroundings).state.suppliedDomain?
        (Ledger.ofMail mail) mail.recipients
        (processor.processForwards mail surroundings).state.trace actions found ∧
      (processor.processForwards mail surroundings).mail = withoutRemoved mail actions := by
  obtain ⟨outcome, stages, result, remaining⟩ :=
    stages_processForwards processor mail surroundings
  rw [result] at succeeds
  rw [remaining, PassState.suppliedDomain?_eq]
  cases outcome with
  | error failure => simp [Except.map] at succeeds
  | ok changed =>
      obtain ⟨actions, found, settled, _, rfl⟩ := stages.exists_settle applies
      exact ⟨actions, found, settled, rfl⟩

/-- Forwarding returns the same, leaves the same mail and attempts the same copies
whichever transport takes or refuses them, under whatever names.  If it applies to
a mail and comes to its end, those stay on the mail, in order, who cannot have
forwarding rules, have forwarded the mail before, or for whom nothing was found or
something that leads back to them.  If events are recorded, they report the copies
that were taken. -/
theorem forwarding_independent
    (processor : Processor directoryWorld transportWorld) (mail : Mail)
    (surroundings : Surroundings directoryWorld transportWorld)
    (transport : Transport otherWorld) (world : otherWorld) (names : NameSupply) :
    let forwarded := processor.processForwards mail surroundings
    let other := (processor.withTransport transport).processForwards mail
      ⟨surroundings.directory, world, names⟩
    (forwarded.result = other.result ∧ forwarded.mail = other.mail ∧
      attempts forwarded.state.trace = attempts other.state.trace) ∧
    (processor.settings.forwardSeparately = true →
      (processor.settings.forwardAutoReplies = true ∨ mail.isAutoReply = false) →
      forwarded.result = .ok () → ∃ actions found,
        ForwardAction.Settle forwarded.state.suppliedDomain? (Ledger.ofMail mail) mail.recipients
          forwarded.state.trace actions found ∧
        forwarded.mail = mail.withRecipients (mail.recipients.filter fun recipient =>
          ForwardAction.Stays forwarded.state.suppliedDomain? (Ledger.ofMail mail) found
            recipient)) ∧
    (processor.audit.enabled = true →
      List.Forall₂ (Audit.Reports processor.audit)
        (forwarded.state.trace.filterMap Effect.forwarded?) forwarded.state.events) := by
  intro forwarded other
  refine ⟨processor.processForwards_withTransport transport mail surroundings world names, ?_, ?_⟩
  · intro separately unexempted succeeds
    have applies : forwards processor.settings mail = true := by
      rcases unexempted with always | written
      · simp [forwards, separately, always]
      · simp [forwards, separately, written]
    obtain ⟨actions, found, settled, remaining⟩ := exists_settle_processForwards applies succeeds
    exact ⟨actions, found, settled, remaining.trans settled.withoutRemoved_eq⟩
  · intro enabled
    obtain ⟨outcome, stages, _⟩ := stages_processForwards processor mail surroundings
    exact stages.reportsForwards.enabled enabled

/-- A recorder that refuses the copy makes no difference to the user whose copy it
is, who is taken off the mail all the same. -/
theorem refused_forward_ignored :
    ((forwarder "b@y.org").processForwards forwardedMail ⟨(), .empty, ⟨1⟩⟩).mail.recipients = [] ∧
      (((forwarder "b@y.org").withTransport Recorder.transport).processForwards forwardedMail
        ⟨(), Recorder.empty.setRefusing true, ⟨7⟩⟩).mail.recipients = [] ∧
      (∃ found, ¬ ForwardAction.Stays
        ((forwarder "b@y.org").processForwards forwardedMail
          ⟨(), .empty, ⟨1⟩⟩).state.suppliedDomain?
        (Ledger.ofMail forwardedMail) found forwardingUser) ∧
      ∃ copy event, Audit.Reports .default copy event ∧
        ((forwarder "b@y.org").processForwards forwardedMail
          ⟨(), .empty, ⟨1⟩⟩).state.events = [event] := by
  obtain ⟨⟨_, sameMail, _⟩, staying, recorded⟩ := (forwarder "b@y.org").forwarding_independent
    forwardedMail ⟨(), .empty, ⟨1⟩⟩ Recorder.transport (Recorder.empty.setRefusing true) ⟨7⟩
  have nobody : ((forwarder "b@y.org").processForwards forwardedMail
      ⟨(), .empty, ⟨1⟩⟩).mail.recipients = [] := by
    decide +kernel
  have succeeds : ((forwarder "b@y.org").processForwards forwardedMail
      ⟨(), .empty, ⟨1⟩⟩).result = .ok () := by
    decide +kernel
  have once : ((forwarder "b@y.org").processForwards forwardedMail
      ⟨(), .empty, ⟨1⟩⟩).state.events.length = 1 := by
    decide +kernel
  refine ⟨nobody, sameMail ▸ nobody, ?_, ?_⟩
  · obtain ⟨_, found, _, remaining⟩ := staying rfl (Or.inl rfl) succeeds
    refine ⟨found, fun stays => ?_⟩
    have remains : forwardingUser ∈ ((forwarder "b@y.org").processForwards forwardedMail
        ⟨(), .empty, ⟨1⟩⟩).mail.recipients := by
      rw [remaining]
      exact List.mem_filter.2 ⟨List.mem_cons_self, decide_eq_true stays⟩
    rw [nobody] at remains
    exact List.not_mem_nil remains
  · obtain ⟨event, single⟩ := List.length_eq_one_iff.1 once
    have reports := recorded rfl
    rw [single] at reports ⊢
    cases reports with
    | cons first _ => exact ⟨_, event, first, rfl⟩

end Processor

end RecipientRewriting
