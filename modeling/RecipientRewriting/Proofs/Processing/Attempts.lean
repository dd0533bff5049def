import RecipientRewriting.Proofs.Processing.Copies
import RecipientRewriting.Proofs.Processing.Recall

/-!
# Copies that a pass attempts

A copy is attempted when it is handed to the transport, whatever the transport
says.  Names are drawn one after the other, so a copy is compared with what was
to be made of the mail by leaving its name out.  The attempts of the first phase
are an initial part of its plan; those of the second phase are what its actions
ask for, and what it records are the copies among them that were taken.
-/

namespace RecipientRewriting

def Injection.unnamed (injection : Injection) : Injection :=
  { injection with mail := injection.mail.duplicate default }

namespace Effect

def attempted? : Effect → Option (CopyReason × Injection)
  | injected reason injection _ => some (reason, injection.unnamed)
  | _ => none

def forwarded? : Effect → Option Mail
  | injected .forward injection (.ok ()) => some injection.mail
  | _ => none

end Effect

def attempts (effects : List Effect) : List (CopyReason × Injection) :=
  effects.filterMap Effect.attempted?

@[simp]
theorem attempts_append (before behind : List Effect) :
    attempts (before ++ behind) = attempts before ++ attempts behind :=
  List.filterMap_append

theorem attempts_of_questions
    {effects : List Effect} (questions : ∀ effect ∈ effects, effect.IsQuestion) :
    attempts effects = [] := by
  refine List.filterMap_eq_nil_iff.2 ?_
  intro effect member
  have question := questions effect member
  cases effect <;> first | rfl | exact question.elim

theorem attempts_of_events (events : List AuditEvent) :
    attempts (events.map .audited) = [] := by
  simp [attempts, List.filterMap_map, Function.comp_def, Effect.attempted?]

theorem mem_attempts_of_injected
    {effects : List Effect} {reason : CopyReason} {injection : Injection}
    {answer : Except TransportError Unit}
    (member : .injected reason injection answer ∈ effects) :
    (reason, injection.unnamed) ∈ attempts effects :=
  List.mem_filterMap.2 ⟨_, member, rfl⟩

/-! ## The plan of the first phase -/

def PlannedCopy.attempt (settings : ProcessorSettings) (mail : Mail) (planned : PlannedCopy) :
    CopyReason × Injection :=
  (planned.reason, planned.injection settings mail default)

theorem PlannedCopy.unnamed_injection
    (settings : ProcessorSettings) (mail : Mail) (planned : PlannedCopy) (name : MailName) :
    (planned.injection settings mail name).unnamed = planned.injection settings mail default := by
  obtain ⟨reason, recipients⟩ := planned
  cases reason <;> rfl

namespace HandsOver

variable {settings : ProcessorSettings} {mail : Mail} {plan : List PlannedCopy}
  {result : Except ProcessingError Unit} {added : List Effect}

theorem attempts_cons_planned
    (planned : PlannedCopy) (name : MailName) (answer : Except TransportError Unit)
    (effects : List Effect) :
    attempts (.injected planned.reason (planned.injection settings mail name) answer :: effects) =
      planned.attempt settings mail :: attempts effects := by
  have first : Effect.attempted? (.injected planned.reason
      (planned.injection settings mail name) answer) = some (planned.attempt settings mail) := by
    rw [Effect.attempted?, PlannedCopy.unnamed_injection]
    rfl
  rw [attempts, List.filterMap_cons_some first]
  rfl

theorem attempts_isPrefix (hands : HandsOver settings mail plan result added) :
    attempts added <+: plan.map (PlannedCopy.attempt settings mail) := by
  induction hands with
  | finished => exact List.prefix_rfl
  | accepted name _ inductionHypothesis =>
      rw [attempts_cons_planned, List.map_cons]
      exact (List.prefix_cons_inj _).2 inductionHypothesis
  | refused name failure =>
      rw [attempts_cons_planned, List.map_cons]
      exact (List.prefix_cons_inj _).2 List.nil_prefix

/-- A plan that is finished has had every copy attempted. -/
theorem attempts_eq (hands : HandsOver settings mail plan (.ok ()) added) :
    attempts added = plan.map (PlannedCopy.attempt settings mail) := by
  -- the result becomes a variable for the induction, which a refusal then contradicts
  generalize ending : (Except.ok () : Except ProcessingError Unit) = finished at hands
  induction hands with
  | finished => rfl
  | refused name failure => simp at ending
  | @accepted planned rest _ _ name _ inductionHypothesis =>
      rw [attempts_cons_planned, inductionHypothesis ending, List.map_cons]

theorem isDeed
    {effect : Effect}
    (hands : HandsOver settings mail plan result added)
    (member : effect ∈ added) :
    effect.IsDeed := by
  obtain ⟨planned, _, name, answer, rfl⟩ := hands.exists_planned member
  trivial

end HandsOver

/-! ## The actions of the second phase -/

def ForwardAction.copy? (settings : ProcessorSettings) (mail : Mail) (ledger : Ledger) :
    ForwardAction → Option (CopyReason × Injection)
  | sendCopy sender recipients =>
      some (.forward, ⟨(ledger.add sender).recordOn
        (((mail.duplicate default).withSender (some sender)).withRecipients recipients), none⟩)
  | remove _ => none
  | recordLoop recipient =>
      some (.loop, ⟨((mail.duplicate default).withRecipients [recipient]).withState
        settings.errorState, some settings.errorState⟩)

/-- The event says which copy was sent on behalf of whom, and to whom. -/
def Audit.Reports (settings : AuditSettings) (copy : Mail) (event : AuditEvent) : Prop :=
  ∃ sender, copy.sender = some sender ∧
    event = .mailForwarded copy.name (messageIdText copy)
      (redactText settings.redactRecipients sender.text)
      (redactAddresses settings.redactRecipients copy.recipients)

/-- If events are recorded, they report the forwarded copies that were taken, one
each and in order. -/
structure Audit.ReportsForwards (settings : AuditSettings) (effects : List Effect) : Prop where
  enabled : settings.enabled = true →
    List.Forall₂ (Reports settings) (effects.filterMap Effect.forwarded?)
      (effects.filterMap Effect.event?)
  disabled : settings.enabled = false → effects.filterMap Effect.event? = []

theorem Audit.ReportsForwards.append
    {settings : AuditSettings} {before behind : List Effect}
    (first : ReportsForwards settings before)
    (second : ReportsForwards settings behind) :
    ReportsForwards settings (before ++ behind) where
  enabled := by
    intro enabled
    rw [List.filterMap_append, List.filterMap_append]
    exact List.rel_append (first.enabled enabled) (second.enabled enabled)
  disabled := by
    intro disabled
    rw [List.filterMap_append, first.disabled disabled, second.disabled disabled]
    rfl

theorem Audit.reportsForwards_of_unforwarded
    {effects : List Effect}
    (settings : AuditSettings)
    (unforwarded : effects.filterMap Effect.forwarded? = [])
    (silent : effects.filterMap Effect.event? = []) :
    ReportsForwards settings effects where
  enabled := by
    intro _
    rw [unforwarded, silent]
    exact .nil
  disabled := fun _ => silent

/-- The effects carry out the actions for a mail and the ledger it carries, and
nothing else. -/
structure ForwardAction.CarriedOut (settings : ProcessorSettings) (audit : AuditSettings)
    (mail : Mail) (ledger : Ledger) (actions : List ForwardAction) (effects : List Effect) :
    Prop where
  deeds : ∀ effect ∈ effects, effect.IsDeed
  attempts_eq : attempts effects = actions.filterMap (copy? settings mail ledger)
  reports : Audit.ReportsForwards audit effects

theorem ForwardAction.CarriedOut.append
    {settings : ProcessorSettings} {audit : AuditSettings} {mail : Mail} {ledger : Ledger}
    {actions more : List ForwardAction} {before behind : List Effect}
    (first : CarriedOut settings audit mail ledger actions before)
    (second : CarriedOut settings audit mail ledger more behind) :
    CarriedOut settings audit mail ledger (actions ++ more) (before ++ behind) where
  deeds := by
    intro effect member
    rcases List.mem_append.1 member with earlier | later
    · exact first.deeds effect earlier
    · exact second.deeds effect later
  attempts_eq := by
    rw [attempts_append, List.filterMap_append, first.attempts_eq, second.attempts_eq]
  reports := first.reports.append second.reports

namespace Processor

variable {directoryWorld transportWorld : Type}
  (processor : Processor directoryWorld transportWorld)

theorem carryOut_carriesOut (mail : Mail) (ledger : Ledger) (action : ForwardAction) :
    (processor.carryOut mail ledger action).Succeeds fun _ added =>
      ForwardAction.CarriedOut processor.settings processor.audit mail ledger [action] added := by
  cases action with
  | remove recipient =>
      exact Pass.succeeds_pure
        ⟨by simp, rfl, Audit.reportsForwards_of_unforwarded _ rfl rfl⟩
  | sendCopy sender targets =>
      refine (Pass.duplicate_succeeds mail).bind_silent ?_
      intro copy duplicated
      obtain ⟨name, rfl⟩ := duplicated
      refine (processor.inject_succeeds _ _).bind ?_
      intro answer before handed
      obtain rfl := handed
      cases answer with
      | error failure =>
          refine Pass.succeeds_pure ⟨?_, rfl, Audit.reportsForwards_of_unforwarded _ rfl rfl⟩
          simp [Effect.IsDeed]
      | ok taken =>
          refine Pass.Succeeds.mono (Pass.audit_succeeds _) ?_
          intro value added recorded
          obtain rfl := recorded
          refine ⟨?_, ?_, ?_, ?_⟩
          · simp [Effect.IsDeed]
          · rw [attempts_append, attempts_of_events]
            rfl
          · intro enabled
            simp only [Audit.mailForwarded, if_pos enabled]
            exact .cons ⟨sender, rfl, rfl⟩ .nil
          · intro disabled
            simp [Audit.mailForwarded, disabled, Effect.event?]
  | recordLoop recipient =>
      refine (Pass.duplicate_succeeds mail).bind_silent ?_
      intro copy duplicated
      obtain ⟨name, rfl⟩ := duplicated
      refine (processor.inject_succeeds _ _).bind ?_
      intro answer before handed
      obtain rfl := handed
      refine Pass.succeeds_pure ⟨?_, rfl, Audit.reportsForwards_of_unforwarded _ ?_ rfl⟩
      · simp [Effect.IsDeed]
      · cases answer <;> rfl

/-- Carrying out actions attempts the copies they ask for, in order, and records
those that were taken. -/
theorem carryOutAll_carriesOut (mail : Mail) (ledger : Ledger) (actions : List ForwardAction) :
    (processor.carryOutAll mail ledger actions).Succeeds fun _ added =>
      ForwardAction.CarriedOut processor.settings processor.audit mail ledger actions added := by
  induction actions with
  | nil =>
      exact Pass.succeeds_pure
        ⟨by simp, rfl, Audit.reportsForwards_of_unforwarded _ rfl rfl⟩
  | cons action rest inductionHypothesis =>
      refine (processor.carryOut_carriesOut mail ledger action).bind ?_
      intro value before first
      refine Pass.Succeeds.mono inductionHypothesis ?_
      intro value added later
      exact first.append later

/-! ## What is remembered meanwhile -/

theorem injectOrFail_remembers (reason : CopyReason) (injection : Injection) :
    (processor.injectOrFail reason injection).Remembers := by
  refine Pass.remembers_bind (fun _ => rfl) ?_
  intro answer
  cases answer with
  | ok taken => exact Pass.remembers_pure ()
  | error failure => exact fun _ => rfl

theorem redirect_remembers (mail : Mail) (decisions : List Decision) :
    (processor.redirect mail decisions).Remembers := by
  induction decisions with
  | nil => exact Pass.remembers_pure ()
  | cons decision rest inductionHypothesis =>
      rw [redirect]
      split
      · refine Pass.remembers_bind (fun _ => rfl) fun copy => ?_
        exact Pass.remembers_bind (processor.injectOrFail_remembers _ _) fun _ =>
          inductionHypothesis
      · exact inductionHypothesis

theorem bounce_remembers (mail : Mail) (rejected : List Address) :
    (processor.bounce mail rejected).Remembers := by
  unfold bounce
  split
  · exact Pass.remembers_bind (fun _ => rfl) fun copy => processor.injectOrFail_remembers _ _
  · exact Pass.remembers_pure ()

theorem carryOut_remembers (mail : Mail) (ledger : Ledger) (action : ForwardAction) :
    (processor.carryOut mail ledger action).Remembers := by
  cases action with
  | remove recipient => exact Pass.remembers_pure ()
  | sendCopy sender targets =>
      refine Pass.remembers_bind (fun _ => rfl) fun copy => ?_
      refine Pass.remembers_bind (fun _ => rfl) fun answer => ?_
      cases answer with
      | ok taken => exact Pass.audit_remembers _
      | error failure => exact Pass.remembers_pure ()
  | recordLoop recipient =>
      exact Pass.remembers_bind (fun _ => rfl) fun copy =>
        Pass.remembers_bind (fun _ => rfl) fun answer => Pass.remembers_pure ()

theorem carryOutAll_remembers (mail : Mail) (ledger : Ledger) (actions : List ForwardAction) :
    (processor.carryOutAll mail ledger actions).Remembers := by
  induction actions with
  | nil => exact Pass.remembers_pure ()
  | cons action rest inductionHypothesis =>
      exact Pass.remembers_bind (processor.carryOut_remembers mail ledger action) fun _ =>
        inductionHypothesis

end Processor

end RecipientRewriting
