import RecipientRewriting.Proofs.Processing.Attempts
import RecipientRewriting.Proofs.Processing.Findings
import RecipientRewriting.Proofs.Processing.Phases

/-!
# The stages of a pass

Each phase asks before it does anything.  `Course` tells where a pass ends; here
each stage is described exactly, by what has been found and by what is attempted
because of it.  A phase is described from any state, so that the second phase is
the same on its own and behind the first one.
-/

namespace RecipientRewriting

structure Decision.Reached (remembered : Option Domain) (recipients : List Address)
    (decisions : List Decision) (asked : List Effect) : Prop where
  onDemand : AsksOnDemand false remembered asked
  questions : ∀ effect ∈ asked, effect.DecidesRecipients
  complete : failedLookups asked = []
  follows : List.Forall₂
    (fun recipient decision => decision.FollowsFrom (recallDomain remembered asked) asked recipient)
    recipients decisions

namespace Processor

variable {directoryWorld transportWorld : Type}

/-! ## Stages of the phases -/

/-- The first phase over a mail, by what it decides and how it ends. -/
inductive RewritingStages (processor : Processor directoryWorld transportWorld) (mail : Mail)
    (remembered : Option Domain) :
    Except ProcessingError (List Decision) → Except ProcessingError Mail → List Effect → Prop
  | undecided {cause : LookupError} {asked : List Effect}
      (onDemand : AsksOnDemand false remembered asked)
      (questions : ∀ effect ∈ asked, effect.DecidesRecipients)
      (failed : failedLookups asked = [cause]) :
      RewritingStages processor mail remembered (.error (.lookup cause))
        (.error (.lookup cause)) asked
  | refused {decisions : List Decision} {failure : ProcessingError} {asked handed : List Effect}
      (reached : Decision.Reached remembered mail.recipients decisions asked)
      (hands : HandsOver processor.settings mail (PlannedCopy.plan decisions)
        (.error failure) handed) :
      RewritingStages processor mail remembered (.ok decisions) (.error failure)
        (asked ++ handed)
  | finished {decisions : List Decision} {asked handed : List Effect}
      (reached : Decision.Reached remembered mail.recipients decisions asked)
      (hands : HandsOver processor.settings mail (PlannedCopy.plan decisions) (.ok ()) handed) :
      RewritingStages processor mail remembered (.ok decisions) (.ok (rewrittenBy mail decisions))
        (asked ++ (handed ++ (Audit.recipientsRewritten processor.audit mail.recipients
          (rewrittenBy mail decisions)).map .audited))

/-- The second phase over a mail, by how it ends. -/
inductive ForwardingStages (processor : Processor directoryWorld transportWorld) (mail : Mail)
    (remembered : Option Domain) : Except ProcessingError Mail → List Effect → Prop
  | skipped (exempt : forwards processor.settings mail = false) :
      ForwardingStages processor mail remembered (.ok mail) []
  | undecided {cause : LookupError} {asked : List Effect}
      (applies : forwards processor.settings mail = true)
      (onDemand : AsksOnDemand false remembered asked)
      (questions : ∀ effect ∈ asked, effect.DecidesForwards)
      (failed : failedLookups asked = [cause]) :
      ForwardingStages processor mail remembered (.error (.lookup cause)) asked
  | forwarded {actions : List ForwardAction} {found : List (Address × RuleList)}
      {asked performed : List Effect}
      (applies : forwards processor.settings mail = true)
      (onDemand : AsksOnDemand false remembered asked)
      (questions : ∀ effect ∈ asked, effect.DecidesForwards)
      (complete : failedLookups asked = [])
      (settled : ForwardAction.Settle (recallDomain remembered asked) (Ledger.ofMail mail)
        mail.recipients asked actions found)
      (carried : ForwardAction.CarriedOut processor.settings processor.audit mail
        (Ledger.ofMail mail) actions performed) :
      ForwardingStages processor mail remembered (.ok (withoutRemoved mail actions))
        (asked ++ performed)

/-! ## What the stages of a phase amount to -/

namespace RewritingStages

variable {processor : Processor directoryWorld transportWorld} {mail : Mail}
  {remembered : Option Domain} {decision : Except ProcessingError (List Decision)}
  {outcome : Except ProcessingError Mail} {added : List Effect}

theorem exists_decisions
    {changed : Mail}
    (stages : processor.RewritingStages mail remembered decision (.ok changed) added) :
    ∃ decisions, decision = .ok decisions ∧ changed = rewrittenBy mail decisions := by
  cases stages with
  | finished => exact ⟨_, rfl, rfl⟩

/-- What the first phase does behind its questions. -/
theorem deeds_of_handsOver
    {decisions : List Decision} {result : Except ProcessingError Unit} {handed : List Effect}
    (hands : HandsOver processor.settings mail (PlannedCopy.plan decisions) result handed)
    (events : List AuditEvent) :
    ∀ effect ∈ handed ++ events.map .audited, effect.IsDeed := by
  intro effect member
  rcases List.mem_append.1 member with inHanded | recorded
  · exact hands.isDeed inHanded
  · obtain ⟨event, _, rfl⟩ := List.mem_map.1 recorded
    trivial

theorem asksOnDemand
    (stages : processor.RewritingStages mail remembered decision outcome added) :
    AsksOnDemand false remembered added := by
  cases stages with
  | undecided onDemand => exact onDemand
  | refused reached hands =>
      exact reached.onDemand.append reached.complete
        (asksOnDemand_of_deeds _ fun effect => hands.isDeed)
  | finished reached hands =>
      exact reached.onDemand.append reached.complete
        (asksOnDemand_of_deeds _ (deeds_of_handsOver hands _))

/-- The first phase fails over the first lookup that does. -/
theorem outcome_of_failed
    {cause : LookupError}
    (stages : processor.RewritingStages mail remembered decision outcome added)
    (failed : cause ∈ failedLookups added) :
    outcome = .error (.lookup cause) := by
  cases stages with
  | undecided _ _ onlyFailed =>
      rw [onlyFailed] at failed
      obtain rfl := List.mem_singleton.1 failed
      rfl
  | refused reached hands =>
      rw [failedLookups_append, reached.complete, hands.failedLookups_eq_nil] at failed
      simp at failed
  | finished reached hands =>
      rw [failedLookups_append, reached.complete,
        failedLookups_of_deeds (deeds_of_handsOver hands _)] at failed
      simp at failed

/-- Decisions follow from what is remembered later, too. -/
theorem follows
    {decisions : List Decision}
    (stages : processor.RewritingStages mail remembered (.ok decisions) outcome added)
    (behind : List Effect) :
    List.Forall₂ (fun recipient decision => decision.FollowsFrom
      (recallDomain remembered (added ++ behind)) (added ++ behind) recipient)
      mail.recipients decisions := by
  have extended {asked : List Effect} (more : List Effect)
      (reached : Decision.Reached remembered mail.recipients decisions asked) :
      List.Forall₂ (fun recipient decision => decision.FollowsFrom
        (recallDomain remembered (asked ++ more)) (asked ++ more) recipient)
        mail.recipients decisions := by
    refine reached.follows.imp ?_
    intro recipient decision follows
    exact follows.mono (fun domain recalled => recallDomain_append_of_some recalled more)
      (List.subset_append_left asked more)
  cases stages with
  | refused reached hands =>
      rw [List.append_assoc]
      exact extended _ reached
  | finished reached hands =>
      rw [List.append_assoc]
      exact extended _ reached

theorem exists_reached
    {decisions : List Decision}
    (stages : processor.RewritingStages mail remembered (.ok decisions) outcome added) :
    ∃ asked, Decision.Reached remembered mail.recipients decisions asked := by
  cases stages with
  | refused reached => exact ⟨_, reached⟩
  | finished reached => exact ⟨_, reached⟩

theorem forwardRules_eq_nil
    (stages : processor.RewritingStages mail remembered decision outcome added) :
    added.filterMap Effect.forwardRules? = [] := by
  apply RecipientRewriting.forwardRules_eq_nil
  cases stages with
  | undecided _ questions => exact fun effect member => Or.inl (questions effect member)
  | refused reached hands =>
      intro effect member
      rcases List.mem_append.1 member with question | inHanded
      · exact Or.inl (reached.questions effect question)
      · exact Or.inr (hands.isDeed inHanded)
  | finished reached hands =>
      intro effect member
      rcases List.mem_append.1 member with question | done
      · exact Or.inl (reached.questions effect question)
      · exact Or.inr (deeds_of_handsOver hands _ effect done)

theorem attempts_eq
    {decisions : List Decision} {changed : Mail}
    (stages : processor.RewritingStages mail remembered (.ok decisions) (.ok changed) added) :
    attempts added = (PlannedCopy.plan decisions).map
      (PlannedCopy.attempt processor.settings mail) := by
  cases stages with
  | finished reached hands =>
      rw [attempts_append, attempts_append, attempts_of_events, hands.attempts_eq,
        attempts_of_questions fun effect member => (reached.questions effect member).isQuestion]
      simp

end RewritingStages

namespace ForwardingStages

variable {processor : Processor directoryWorld transportWorld} {mail : Mail}
  {remembered : Option Domain} {outcome : Except ProcessingError Mail}
  {added : List Effect}

theorem asksOnDemand
    (stages : processor.ForwardingStages mail remembered outcome added) :
    AsksOnDemand false remembered added := by
  cases stages with
  | skipped => simp [AsksOnDemand]
  | undecided _ onDemand => exact onDemand
  | forwarded _ onDemand _ complete _ carried =>
      exact onDemand.append complete (asksOnDemand_of_deeds _ carried.deeds)

theorem outcome_of_failed
    {cause : LookupError}
    (stages : processor.ForwardingStages mail remembered outcome added)
    (failed : cause ∈ failedLookups added) :
    outcome = .error (.lookup cause) := by
  cases stages with
  | skipped => simp [failedLookups] at failed
  | undecided _ _ _ onlyFailed =>
      rw [onlyFailed] at failed
      obtain rfl := List.mem_singleton.1 failed
      rfl
  | forwarded _ _ _ complete _ carried =>
      rw [failedLookups_append, complete, failedLookups_of_deeds carried.deeds] at failed
      simp at failed

/-- Behind the second phase, what has been found settles which actions were taken. -/
theorem exists_settle
    {changed : Mail}
    (stages : processor.ForwardingStages mail remembered (.ok changed) added)
    (applies : forwards processor.settings mail = true) :
    ∃ actions found,
      ForwardAction.Settle (recallDomain remembered added) (Ledger.ofMail mail) mail.recipients
        added actions found ∧
      attempts added = actions.filterMap
        (ForwardAction.copy? processor.settings mail (Ledger.ofMail mail)) ∧
      changed = withoutRemoved mail actions := by
  cases stages with
  | skipped exempt => simp [applies] at exempt
  | @forwarded actions found asked performed _ _ questions _ settled carried =>
      have others : performed.filterMap Effect.forwardRules? = [] :=
        forwardRules_eq_nil fun effect member => Or.inr (carried.deeds effect member)
      have silent := attempts_of_questions fun effect member =>
        (questions effect member).isQuestion
      refine ⟨actions, found, ?_, ?_, rfl⟩
      · refine (settled.mono ?_).followed others
        intro domain recalled
        exact recallDomain_append_of_some recalled performed
      · rw [attempts_append, silent, carried.attempts_eq, List.nil_append]

end ForwardingStages

/-! ## Every phase runs through its stages -/

variable (processor : Processor directoryWorld transportWorld)

theorem rewriteBy_recalls (mail : Mail) (decisions : List Decision) :
    (processor.rewriteBy mail decisions).Recalls fun _ result added =>
      match result with
      | .ok rewritten => rewritten = rewrittenBy mail decisions ∧ ∃ handed,
          HandsOver processor.settings mail (PlannedCopy.plan decisions) (.ok ()) handed ∧
            added = handed ++ (Audit.recipientsRewritten processor.audit mail.recipients
              (rewrittenBy mail decisions)).map .audited
      | .error failure =>
          HandsOver processor.settings mail (PlannedCopy.plan decisions)
            (.error failure) added := by
  refine (rewriteBy_ensures processor mail decisions).recalls ?_ ?_
  · refine Pass.remembers_bind (processor.redirect_remembers mail decisions) fun _ => ?_
    refine Pass.remembers_bind (processor.bounce_remembers mail _) fun _ => ?_
    exact Pass.remembers_bind (Pass.audit_remembers _) fun _ => Pass.remembers_pure _
  · intro result added rewrote effect member
    have deed : effect.IsDeed := by
      cases result with
      | error failure => exact HandsOver.isDeed rewrote member
      | ok rewritten =>
          obtain ⟨_, handed, hands, rfl⟩ := rewrote
          rcases List.mem_append.1 member with inHanded | recorded
          · exact hands.isDeed inHanded
          · obtain ⟨event, _, rfl⟩ := List.mem_map.1 recorded
            trivial
    exact deed.suppliedDomain?_eq_none

theorem decideAll_reaches (recipients : List Address) :
    (processor.decideAll recipients).Recalls fun remembered result added =>
      match result with
      | .ok decisions => Decision.Reached remembered recipients decisions added
      | .error failure => AsksOnDemand false remembered added ∧
          (∀ effect ∈ added, effect.DecidesRecipients) ∧
          ∃ cause, failure = .lookup cause ∧ failedLookups added = [cause] := by
  refine Pass.Recalls.mono
    ((processor.decideAll_inquires recipients).and (processor.decideAll_asks recipients)) ?_
  intro remembered result added both
  obtain ⟨⟨onDemand, outcome⟩, questions, _⟩ := both
  cases result with
  | ok decisions => exact ⟨onDemand, questions, outcome.1, outcome.2⟩
  | error failure => exact ⟨onDemand, questions, outcome⟩

/-- The first phase runs through its stages from wherever it starts. -/
theorem rewritingOf_stages
    (processor : Processor directoryWorld transportWorld) (mail : Mail)
    (start : PassState directoryWorld transportWorld) :
    ∃ added, ((processor.rewritingOf mail).run start).2.trace = start.trace ++ added ∧
      ((processor.rewritingOf mail).run start).2.defaultDomain =
        recallDomain start.defaultDomain added ∧
      processor.RewritingStages mail start.defaultDomain
        ((processor.decideAll mail.recipients).run start).1
        ((processor.rewritingOf mail).run start).1 added := by
  obtain ⟨asked, askedTrace, askedMemory, outcome⟩ :=
    processor.decideAll_reaches mail.recipients start
  rw [rewritingOf, Pass.run_bind]
  cases decision : (processor.decideAll mail.recipients).run start with
  | mk result reached =>
      rw [decision] at askedTrace askedMemory outcome
      cases result with
      | error failure =>
          obtain ⟨onDemand, questions, cause, rfl, failed⟩ := outcome
          exact ⟨asked, askedTrace, askedMemory, .undecided onDemand questions failed⟩
      | ok decisions =>
          obtain ⟨added, trace, memory, rewrote⟩ :=
            processor.rewriteBy_recalls mail decisions reached
          refine ⟨asked ++ added, ?_, ?_, ?_⟩
          · rw [trace, askedTrace, List.append_assoc]
          · rw [memory, askedMemory, recallDomain_append]
          · dsimp only
            generalize ((processor.rewriteBy mail decisions).run reached).1 = ending at rewrote
            cases ending with
            | error failure => exact .refused outcome rewrote
            | ok rewritten =>
                obtain ⟨rfl, handed, hands, rfl⟩ := rewrote
                exact .finished outcome hands

theorem carryOutAll_recalls (mail : Mail) (ledger : Ledger) (actions : List ForwardAction) :
    (processor.carryOutAll mail ledger actions).Recalls fun _ result added =>
      ∃ done, result = .ok done ∧ ForwardAction.CarriedOut processor.settings processor.audit mail
        ledger actions added := by
  refine Pass.Ensures.recalls (processor.carryOutAll_carriesOut mail ledger actions)
    (processor.carryOutAll_remembers mail ledger actions) ?_
  intro result added carried effect member
  obtain ⟨done, _, carried⟩ := carried
  exact (carried.deeds effect member).suppliedDomain?_eq_none

/-- The second phase runs through its stages from wherever it starts. -/
theorem forwardingOf_stages
    (processor : Processor directoryWorld transportWorld) (mail : Mail) :
    (processor.forwardingOf mail).Recalls (processor.ForwardingStages mail) := by
  unfold forwardingOf
  by_cases applies : forwards processor.settings mail = true
  · rw [if_pos applies]
    refine Pass.recalls_bind
      ((processor.allForwardActions_inquires (Ledger.ofMail mail) mail.recipients).and
        (processor.allForwardActions_asks (Ledger.ofMail mail) fun _ member => member)) ?_ ?_
    · intro remembered failure asked failed
      obtain ⟨⟨onDemand, cause, rfl, failed⟩, questions, _⟩ := failed
      exact .undecided applies onDemand questions failed
    · intro remembered actions asked decided
      obtain ⟨⟨onDemand, complete, found, settled⟩, questions, _⟩ := decided
      refine Pass.recalls_bind
        (processor.carryOutAll_recalls mail (Ledger.ofMail mail) actions) ?_ ?_
      · intro _ failure performed carried
        obtain ⟨done, impossible, _⟩ := carried
        simp at impossible
      · intro _ done performed carried
        obtain ⟨_, _, carried⟩ := carried
        refine Pass.recalls_pure ?_
        intro _ _ _
        rw [List.append_nil]
        exact .forwarded applies onDemand questions complete settled carried
  · rw [if_neg applies]
    refine Pass.recalls_pure ?_
    intro remembered
    exact .skipped (by simpa using applies)

/-! ## Stages of a whole pass -/

/-- A pass over a mail, by how far it gets. -/
inductive Stages (processor : Processor directoryWorld transportWorld) (mail : Mail)
    (surroundings : Surroundings directoryWorld transportWorld) :
    Processed directoryWorld transportWorld → Prop
  | unfinished {failure : ProcessingError} {last : PassState directoryWorld transportWorld}
      (phase : processor.rewriting mail surroundings = ⟨.error failure, mail, last⟩)
      (first : processor.RewritingStages mail none (processor.decided mail surroundings).1
        (.error failure) last.trace) :
      Stages processor mail surroundings ⟨.error failure, mail, last⟩
  | rewritten {decisions : List Decision} {outcome : Except ProcessingError Mail}
      {added : List Effect} {middle last : PassState directoryWorld transportWorld}
      (phase : processor.rewriting mail surroundings =
        ⟨.ok (), rewrittenBy mail decisions, middle⟩)
      (decision : (processor.decided mail surroundings).1 = .ok decisions)
      (first : processor.RewritingStages mail none (.ok decisions)
        (.ok (rewrittenBy mail decisions)) middle.trace)
      (second : processor.ForwardingStages (rewrittenBy mail decisions)
        (recallDomain none middle.trace) outcome added)
      (trace : last.trace = middle.trace ++ added) :
      Stages processor mail surroundings
        ⟨outcome.map fun _ => (), outcome.toOption.getD (rewrittenBy mail decisions), last⟩

/-- Every pass runs through the stages, and remembers at its end what it has
found out on the way. -/
theorem stages_processMail
    (processor : Processor directoryWorld transportWorld) (mail : Mail)
    (surroundings : Surroundings directoryWorld transportWorld) :
    processor.Stages mail surroundings (processor.processMail mail surroundings) ∧
      (processor.processMail mail surroundings).state.defaultDomain =
        recallDomain none (processor.processMail mail surroundings).state.trace := by
  obtain ⟨before, firstTrace, firstMemory, first⟩ :=
    rewritingOf_stages processor mail (.start surroundings)
  have phase : processor.rewriting mail surroundings = _ :=
    (processor.replaceRecipients_amounts mail).handle_eq (.start surroundings)
  rw [show ((processor.decideAll mail.recipients).run (.start surroundings)).1 =
    (processor.decided mail surroundings).1 from rfl] at first
  generalize decided : (processor.decided mail surroundings).1 = decision at first
  cases outcome : (processor.rewritingOf mail).run (.start surroundings) with
  | mk result middle =>
      rw [outcome] at phase firstTrace firstMemory first
      obtain rfl : middle.trace = before := by simpa [PassState.start] using firstTrace
      have remembered : middle.defaultDomain = recallDomain none middle.trace := firstMemory
      cases result with
      | error failure =>
          have failed : (processor.rewriting mail surroundings).result = .error failure := by
            rw [phase]
            rfl
          rw [processMail_of_error failed, phase]
          exact ⟨.unfinished phase (decided ▸ first), remembered⟩
      | ok changed =>
          obtain ⟨decisions, rfl, rfl⟩ := first.exists_decisions
          have succeeds : (processor.rewriting mail surroundings).result = .ok () := by
            rw [phase]
            rfl
          obtain ⟨added, trace, memory, second⟩ :=
            forwardingOf_stages processor (rewrittenBy mail decisions) middle
          rw [remembered] at memory second
          rw [processMail_of_ok succeeds,
            (processor.applyForwards_amounts _).handle_eq, phase]
          refine ⟨.rewritten phase decided first second trace, ?_⟩
          dsimp only [Option.getD, Except.toOption]
          rw [trace, memory, recallDomain_append]

end Processor

end RecipientRewriting
