import RecipientRewriting.Proofs.Processing.Copies

/-!
# The course of a pass

A pass over a mail ends at one of three points: before every recipient has been
decided on, at a copy that the transport refuses, or in its second phase.  Up to
there it has done what it was to do, in order, and nothing else.
-/

namespace RecipientRewriting.Processor

variable {directoryWorld transportWorld : Type}
  {processor : Processor directoryWorld transportWorld} {mail : Mail}

/-- The first phase of a pass up to the point where every recipient has been
decided on. -/
def decided (processor : Processor directoryWorld transportWorld) (mail : Mail)
    (surroundings : Surroundings directoryWorld transportWorld) :
    Except ProcessingError (List Decision) × PassState directoryWorld transportWorld :=
  (processor.decideAll mail.recipients).run (.start surroundings)

/-- The courses of a pass over `mail`, by where it ends. -/
inductive Course (processor : Processor directoryWorld transportWorld) (mail : Mail)
    (surroundings : Surroundings directoryWorld transportWorld) :
    Processed directoryWorld transportWorld → Prop
  /-- A lookup fails before every recipient has been decided on. -/
  | undecided {cause : LookupError} {asked : PassState directoryWorld transportWorld}
      (decision : processor.decided mail surroundings = (.error (.lookup cause), asked))
      (questions : ∀ effect ∈ asked.trace, effect.DecidesRecipients)
      (failed : failedLookups asked.trace = [cause]) :
      Course processor mail surroundings ⟨.error (.lookup cause), mail, asked⟩
  /-- The transport refuses a planned copy. -/
  | refused {decisions : List Decision} {failure : ProcessingError} {handed : List Effect}
      {asked last : PassState directoryWorld transportWorld}
      (decision : processor.decided mail surroundings = (.ok decisions, asked))
      (questions : ∀ effect ∈ asked.trace, effect.DecidesRecipients)
      (complete : failedLookups asked.trace = [])
      (each : decisions.map Decision.recipient = mail.recipients)
      (parsed : (∀ recipient ∈ mail.recipients, recipient.IsParsed) →
        ∀ decision ∈ decisions, decision.IsParsed)
      (hands : HandsOver processor.settings mail (PlannedCopy.plan decisions)
        (.error failure) handed)
      (trace : last.trace = asked.trace ++ handed) :
      Course processor mail surroundings ⟨.error failure, mail, last⟩
  /-- Every planned copy is taken, and the second phase begins. -/
  | rewritten {decisions : List Decision} {result : Except ProcessingError Unit}
      {handed added : List Effect} {remaining : Mail}
      {asked last : PassState directoryWorld transportWorld}
      (decision : processor.decided mail surroundings = (.ok decisions, asked))
      (questions : ∀ effect ∈ asked.trace, effect.DecidesRecipients)
      (complete : failedLookups asked.trace = [])
      (each : decisions.map Decision.recipient = mail.recipients)
      (parsed : (∀ recipient ∈ mail.recipients, recipient.IsParsed) →
        ∀ decision ∈ decisions, decision.IsParsed)
      (hands : HandsOver processor.settings mail (PlannedCopy.plan decisions) (.ok ()) handed)
      (forwarding : processor.Forwarding (rewrittenBy mail decisions) result added)
      (kept : ∀ failure, result = .error failure → remaining = rewrittenBy mail decisions)
      (trace : last.trace = asked.trace ++ handed ++
        (Audit.recipientsRewritten processor.audit mail.recipients
          (rewrittenBy mail decisions)).map .audited ++ added) :
      Course processor mail surroundings ⟨result, remaining, last⟩

/-! ## Phases -/

/-- Handing over the planned copies of a mail. -/
theorem redirectAndBounce_ensures (mail : Mail) (decisions : List Decision) :
    (do processor.redirect mail decisions
        processor.bounce mail (Aggregate.ofDecisions decisions).rejectedRecipients).Ensures
      (HandsOver processor.settings mail (PlannedCopy.plan decisions)) := by
  refine Pass.ensures_bind (processor.redirect_ensures mail decisions) ?_ ?_
  · intro failure added redirected
    exact redirected.append_of_error _
  · intro value before redirected
    refine (processor.bounce_ensures mail _).mono ?_
    intro result added bounced
    exact redirected.append bounced

/-- What the first phase does once every recipient has been decided on. -/
theorem rewriteBy_ensures
    (processor : Processor directoryWorld transportWorld) (mail : Mail)
    (decisions : List Decision) :
    (processor.rewriteBy mail decisions).Ensures fun result added =>
      match result with
      | .ok rewritten => rewritten = rewrittenBy mail decisions ∧ ∃ handed,
          HandsOver processor.settings mail (PlannedCopy.plan decisions) (.ok ()) handed ∧
            added = handed ++ (Audit.recipientsRewritten processor.audit mail.recipients
              (rewrittenBy mail decisions)).map .audited
      | .error failure =>
          HandsOver processor.settings mail (PlannedCopy.plan decisions)
            (.error failure) added := by
  unfold rewriteBy
  rw [← bind_assoc]
  refine Pass.ensures_bind (redirectAndBounce_ensures mail decisions) ?_ ?_
  · intro failure added hands
    exact hands
  · intro value handed hands
    refine (Pass.audit_succeeds _).bind ?_
    intro recorded before events
    obtain rfl := events
    exact Pass.ensures_pure ⟨rfl, handed, hands, by simp⟩

/-- A second phase leaves the mail alone if it ends early. -/
theorem handle_applyForwards
    (processor : Processor directoryWorld transportWorld) (mail : Mail)
    (start : PassState directoryWorld transportWorld) :
    ∃ result remaining last added,
      handle processor.applyForwards mail start = ⟨result, remaining, last⟩ ∧
        last.trace = start.trace ++ added ∧ processor.Forwarding mail result added ∧
        ∀ failure, result = .error failure → remaining = mail := by
  have amounts := processor.applyForwards_amounts mail
  obtain ⟨added, trace, forwarding⟩ := processor.forwardingOf_ensures mail start
  cases outcome : (processor.forwardingOf mail).run start with
  | mk result last =>
      rw [outcome] at trace forwarding
      cases result with
      | ok changed =>
          exact ⟨.ok (), changed, last, added, amounts.handle_of_ok outcome, trace, forwarding,
            by simp⟩
      | error failure =>
          exact ⟨.error failure, mail, last, added, amounts.handle_of_error outcome, trace,
            forwarding, fun _ _ => rfl⟩

/-- Every pass takes one of the three courses. -/
theorem course_processMail
    (processor : Processor directoryWorld transportWorld) (mail : Mail)
    (surroundings : Surroundings directoryWorld transportWorld) :
    Course processor mail surroundings (processor.processMail mail surroundings) := by
  have amounts := processor.replaceRecipients_amounts mail
  obtain ⟨effects, trace, questions, outcome⟩ :=
    processor.decideAll_asks mail.recipients (.start surroundings)
  cases decision : (processor.decideAll mail.recipients).run (.start surroundings) with
  | mk result asked =>
      rw [decision] at trace outcome
      obtain rfl : asked.trace = effects := by simpa [PassState.start] using trace
      cases result with
      | error failure =>
          obtain ⟨cause, rfl, failed⟩ := outcome
          have phase : processor.rewriting mail surroundings =
              ⟨.error (.lookup cause), mail, asked⟩ :=
            amounts.handle_of_error (Pass.run_bind_of_error decision)
          rw [processMail_of_error (by rw [phase]), phase]
          exact .undecided decision questions failed
      | ok decisions =>
          -- From here on the transport decides, so the rest runs from where asking ended.
          obtain ⟨complete, each, parsed⟩ := outcome
          obtain ⟨added, trace, rewriting⟩ :=
            rewriteBy_ensures processor mail decisions asked
          have whole : (processor.rewritingOf mail).run (.start surroundings) =
              (processor.rewriteBy mail decisions).run asked :=
            Pass.run_bind_of_ok decision
          cases finished : (processor.rewriteBy mail decisions).run asked with
          | mk result last =>
              rw [finished] at whole trace rewriting
              cases result with
              | error failure =>
                  have phase : processor.rewriting mail surroundings =
                      ⟨.error failure, mail, last⟩ :=
                    amounts.handle_of_error whole
                  rw [processMail_of_error (by rw [phase]), phase]
                  exact .refused decision questions complete each parsed rewriting trace
              | ok rewritten =>
                  obtain ⟨rfl, handed, hands, rfl⟩ := rewriting
                  obtain ⟨result, remaining, final, added, second, later, forwarding, kept⟩ :=
                    handle_applyForwards processor (rewrittenBy mail decisions) last
                  have phase : processor.rewriting mail surroundings =
                      ⟨.ok (), rewrittenBy mail decisions, last⟩ :=
                    amounts.handle_of_ok whole
                  rw [processMail_of_ok (by rw [phase]), phase, second]
                  refine .rewritten decision questions complete each parsed hands forwarding kept ?_
                  rw [later, trace]
                  simp

/-! ## Why a copy is handed over -/

/-- A pass with these decisions over `mail` hands the copy over because it is
planned, or because an action of the second phase asks for it. -/
inductive HandsFor (processor : Processor directoryWorld transportWorld) (mail : Mail)
    (decisions : List Decision) (effect : Effect) : Prop
  | planned {planned : PlannedCopy} {name : MailName} {answer : Except TransportError Unit} :
      planned ∈ PlannedCopy.plan decisions →
      effect =
        .injected planned.reason (planned.injection processor.settings mail name) answer →
      HandsFor processor mail decisions effect
  | performed {action : ForwardAction} :
      action.IsSound processor.directory (Ledger.ofMail (rewrittenBy mail decisions))
        (rewrittenBy mail decisions).recipients →
      Performs processor.settings (rewrittenBy mail decisions)
        (Ledger.ofMail (rewrittenBy mail decisions)) action effect →
      HandsFor processor mail decisions effect

theorem handsFor_of_handsOver
    {decisions : List Decision} {result : Except ProcessingError Unit} {handed : List Effect}
    {effect : Effect}
    (hands : HandsOver processor.settings mail (PlannedCopy.plan decisions) result handed)
    (member : effect ∈ handed) :
    processor.HandsFor mail decisions effect := by
  obtain ⟨planned, inPlan, name, answer, rfl⟩ := hands.exists_planned member
  exact .planned inPlan rfl

/-- Every copy is handed over for decisions that the pass has come to. -/
theorem exists_handsFor
    {surroundings : Surroundings directoryWorld transportWorld} {reason : CopyReason}
    {injection : Injection} {answer : Except TransportError Unit}
    (member : .injected reason injection answer ∈
      (processor.processMail mail surroundings).state.trace) :
    ∃ decisions asked, processor.decided mail surroundings = (.ok decisions, asked) ∧
      ((∀ recipient ∈ mail.recipients, recipient.IsParsed) →
        ∀ decision ∈ decisions, decision.IsParsed) ∧
      processor.HandsFor mail decisions (.injected reason injection answer) := by
  have course := course_processMail processor mail surroundings
  generalize processor.processMail mail surroundings = processed at course member
  cases course with
  | undecided _ questions => exact (questions _ member).elim
  | @refused decisions _ _ asked _ decision questions _ _ parsed hands trace =>
      dsimp only at member
      rw [trace] at member
      rcases List.mem_append.1 member with question | inHanded
      · exact (questions _ question).elim
      · exact ⟨decisions, asked, decision, parsed, handsFor_of_handsOver hands inHanded⟩
  | @rewritten decisions _ _ _ _ asked _ decision questions _ _ parsed hands forwarding _ trace =>
      refine ⟨decisions, asked, decision, parsed, ?_⟩
      dsimp only at member
      rw [trace, List.mem_append, List.mem_append, List.mem_append] at member
      rcases member with ((question | inHanded) | recorded) | inAdded
      · exact (questions _ question).elim
      · exact handsFor_of_handsOver hands inHanded
      · simp at recorded
      · obtain ⟨action, sound, performs⟩ := Forwarding.exists_performs forwarding inAdded
        exact .performed sound performs

end RecipientRewriting.Processor
