import RecipientRewriting.Proofs.Processing.Asking
import RecipientRewriting.Proofs.Processing.Completion
import RecipientRewriting.Proofs.Processing.Findings

/-!
# Names of copies

Names of copies are drawn one after the other, and nothing that a pass does depends
on which they are.  So a pass that draws its names from further on in the supply
does the same, with every copy under a name that is as much further on.  The
relation between the two runs is a map on states, and the recorder has to be open,
since it puts the name of a mail into its refusal.
-/

namespace RecipientRewriting

/-! ## Copies under other names -/

def Injection.rename (rename : MailName → MailName) (injection : Injection) : Injection :=
  { injection with mail := injection.mail.duplicate (rename injection.mail.name) }

def AuditEvent.renameCopy (rename : MailName → MailName) : AuditEvent → AuditEvent
  | recipientsRewritten mail messageId sender before after =>
      recipientsRewritten mail messageId sender before after
  | mailForwarded copy messageId forwardedBy recipients =>
      mailForwarded (rename copy) messageId forwardedBy recipients

def Effect.renameCopy (rename : MailName → MailName) : Effect → Effect
  | injected reason injection answer => injected reason (injection.rename rename) answer
  | audited event => audited (event.renameCopy rename)
  | resolved source answer => resolved source answer
  | foundForwards source answer => foundForwards source answer
  | askedDefaultDomain answer => askedDefaultDomain answer
  | askedLocality domain answer => askedLocality domain answer

def MailName.advance (distance : BitVec 128) (name : MailName) : MailName :=
  ⟨name.bits + distance⟩

theorem MailName.advance_injective (distance : BitVec 128) :
    Function.Injective (advance distance) := by
  intro name other same
  obtain ⟨bits⟩ := name
  obtain ⟨otherBits⟩ := other
  have sameBits : bits + distance = otherBits + distance := congrArg MailName.bits same
  rw [(BitVec.add_left_inj _).1 sameBits]

variable {directoryWorld alpha beta : Type} {distance : BitVec 128}

/-- The state with every copy so far, and every copy to come, under a name that is a
distance further on. -/
def PassState.advance (distance : BitVec 128) (state : PassState directoryWorld Recorder) :
    PassState directoryWorld Recorder :=
  { state with
    transport :=
      { state.transport with
        injections := state.transport.injections.map (.rename (.advance distance)) }
    names := ⟨state.names.next + distance⟩
    trace := state.trace.map (.renameCopy (.advance distance)) }

namespace PassState

variable (state : PassState directoryWorld Recorder)

theorem advance_draw :
    advance distance { state with names := ⟨state.names.next + 1⟩ } =
      { state.advance distance with names := ⟨(state.advance distance).names.next + 1⟩ } := by
  have later : state.names.next + 1 + distance = state.names.next + distance + 1 := by
    rw [BitVec.add_assoc, BitVec.add_comm 1, ← BitVec.add_assoc]
  simp only [advance, later]

theorem advance_note (effect : Effect) :
    advance distance { state with trace := state.trace ++ [effect] } =
      { state.advance distance with
        trace := (state.advance distance).trace ++ [effect.renameCopy (.advance distance)] } := by
  simp [advance]

end PassState

namespace Pass

/-- With names from further on, the second computation returns what the first one
does and leads to the same state, but for these names.  The recorder stays open. -/
def Renames (distance : BitVec 128)
    (computation other : Pass directoryWorld Recorder alpha) : Prop :=
  ∀ start : PassState directoryWorld Recorder, start.transport.IsOpen →
    (computation.run start).2.transport.IsOpen ∧
      other.run (start.advance distance) =
        ((computation.run start).1, (computation.run start).2.advance distance)

variable {first otherFirst : Pass directoryWorld Recorder alpha}
  {next otherNext : alpha → Pass directoryWorld Recorder beta}

theorem renames_pure (value : alpha) :
    Renames distance (pure value : Pass directoryWorld Recorder alpha) (pure value) :=
  fun _ isOpen => ⟨isOpen, rfl⟩

theorem Renames.bind
    (firstRenames : first.Renames distance otherFirst)
    (nextRenames : ∀ value, (next value).Renames distance (otherNext value)) :
    (first >>= next).Renames distance (otherFirst >>= otherNext) := by
  intro start isOpen
  obtain ⟨reachedOpen, renamed⟩ := firstRenames start isOpen
  rw [run_bind, run_bind, renamed]
  cases outcome : first.run start with
  | mk result reached =>
      rw [outcome] at reachedOpen
      cases result with
      | error failure => exact ⟨reachedOpen, rfl⟩
      | ok value => exact nextRenames value reached reachedOpen

/-- The only place where a name is drawn: whatever is done with the copy has to be
done with the same copy under the later name. -/
theorem duplicate_bind_renames
    {mail : Mail} {next : Mail → Pass directoryWorld Recorder beta}
    (nextRenames : ∀ name,
      (next (mail.duplicate name)).Renames distance
        (next (mail.duplicate (name.advance distance)))) :
    (duplicate mail >>= next).Renames distance (duplicate mail >>= next) := by
  intro start isOpen
  have drawn (state : PassState directoryWorld Recorder) :
      (duplicate mail : Pass directoryWorld Recorder Mail).run state =
        (.ok (mail.duplicate ⟨state.names.next⟩),
          { state with names := ⟨state.names.next + 1⟩ }) :=
    rfl
  rw [run_bind_of_ok (drawn start), run_bind_of_ok (drawn (start.advance distance)),
    ← PassState.advance_draw]
  exact nextRenames _ _ isOpen

/-! ## Single steps -/

theorem note_renames (effect : Effect) :
    Renames distance (note effect : Pass directoryWorld Recorder Unit)
      (note (effect.renameCopy (.advance distance))) := by
  intro start isOpen
  refine ⟨isOpen, ?_⟩
  change _ = (_, PassState.advance distance { start with trace := start.trace ++ [effect] })
  rw [PassState.advance_note]
  rfl

theorem consult_renames (question : directoryWorld → alpha × directoryWorld) :
    Renames distance (consult question : Pass directoryWorld Recorder alpha)
      (consult question) :=
  fun _ isOpen => ⟨isOpen, rfl⟩

theorem require_renames (reply : Except LookupError alpha) :
    Renames distance (require reply : Pass directoryWorld Recorder alpha) (require reply) := by
  intro start isOpen
  cases reply with
  | ok value => exact ⟨isOpen, rfl⟩
  | error failure => exact ⟨isOpen, rfl⟩

theorem audit_renames
    {events others : List AuditEvent}
    (renamed : events.map (.renameCopy (.advance distance)) = others) :
    Renames distance (audit events : Pass directoryWorld Recorder Unit) (audit others) := by
  subst renamed
  induction events with
  | nil => exact renames_pure ()
  | cons event rest inductionHypothesis =>
      exact (note_renames (.audited event)).bind fun _ => inductionHypothesis

end Pass

namespace Processor

variable {processor : Processor directoryWorld Recorder}

/-! ## Decisions -/

theorem defaultDomain_renames :
    processor.defaultDomain.Renames distance processor.defaultDomain := by
  intro start isOpen
  cases remembered : start.defaultDomain with
  | some domain =>
      have stillRemembered : (start.advance distance).defaultDomain = some domain := remembered
      rw [processor.run_defaultDomain_of_some remembered,
        processor.run_defaultDomain_of_some stillRemembered]
      exact ⟨isOpen, rfl⟩
  | none =>
      have stillForgotten : (start.advance distance).defaultDomain = none := remembered
      rw [processor.run_defaultDomain_of_none remembered,
        processor.run_defaultDomain_of_none stillForgotten]
      refine ⟨isOpen, ?_⟩
      dsimp only [PassState.advance]
      rw [List.map_append]
      rfl

/-- No name is drawn for what is decided on. -/
theorem OnlyAsks.renames
    {computation : Pass directoryWorld Recorder alpha}
    (asks : processor.OnlyAsks computation) :
    computation.Renames distance computation := by
  induction asks with
  | done value => exact Pass.renames_pure value
  | next _ _ firstRenames laterRenames => exact firstRenames.bind laterRenames
  | resolve source =>
      refine (Pass.consult_renames _).bind fun timed => ?_
      exact (Pass.note_renames _).bind fun _ => Pass.require_renames _
  | findForwards source =>
      refine (Pass.consult_renames _).bind fun timed => ?_
      exact (Pass.note_renames _).bind fun _ => Pass.require_renames _
  | defaultDomain => exact defaultDomain_renames
  | isLocal domain =>
      refine (Pass.consult_renames _).bind fun reply => ?_
      exact (Pass.note_renames _).bind fun _ => Pass.renames_pure _

/-! ## Deeds -/

section Deeds

variable (recording : processor.transport = Recorder.transport)
include recording

theorem run_inject_of_isOpen
    {state : PassState directoryWorld Recorder} (isOpen : state.transport.IsOpen)
    (reason : CopyReason) (injection : Injection) :
    (processor.inject reason injection).run state =
      (.ok (.ok ()),
        { state with
          transport :=
            { state.transport with injections := state.transport.injections ++ [injection] }
          trace := state.trace ++ [.injected reason injection (.ok ())] }) := by
  have answer : processor.transport.inject injection state.transport =
      (.ok (), { state.transport with
        injections := state.transport.injections ++ [injection] }) := by
    rw [recording]
    exact Recorder.inject_of_isOpen isOpen injection
  have handed : (processor.inject reason injection).run state =
      (.ok (processor.transport.inject injection state.transport).1,
        { state with
          transport := (processor.transport.inject injection state.transport).2
          trace := state.trace ++ [.injected reason injection
            (processor.transport.inject injection state.transport).1] }) :=
    rfl
  rw [handed, answer]

theorem inject_renames (reason : CopyReason) (injection : Injection) :
    (processor.inject reason injection).Renames distance
      (processor.inject reason (injection.rename (.advance distance))) := by
  intro start isOpen
  have stillOpen : (start.advance distance).transport.IsOpen :=
    ⟨isOpen.accepting⟩
  rw [run_inject_of_isOpen recording isOpen, run_inject_of_isOpen recording stillOpen]
  refine ⟨⟨isOpen.accepting⟩, ?_⟩
  simp [PassState.advance, Effect.renameCopy]

theorem injectOrFail_renames (reason : CopyReason) (injection : Injection) :
    (processor.injectOrFail reason injection).Renames distance
      (processor.injectOrFail reason (injection.rename (.advance distance))) := by
  refine (inject_renames recording reason injection).bind fun answer => ?_
  cases answer with
  | ok taken => exact Pass.renames_pure taken
  | error failure => exact fun _ isOpen => ⟨isOpen, rfl⟩

theorem redirect_renames (mail : Mail) (decisions : List Decision) :
    (processor.redirect mail decisions).Renames distance (processor.redirect mail decisions) := by
  induction decisions with
  | nil => exact Pass.renames_pure ()
  | cons decision rest inductionHypothesis =>
      rw [redirect]
      split
      · refine Pass.duplicate_bind_renames fun name => ?_
        exact (injectOrFail_renames recording _ _).bind fun _ => inductionHypothesis
      · exact inductionHypothesis

theorem bounce_renames (mail : Mail) (rejected : List Address) :
    (processor.bounce mail rejected).Renames distance (processor.bounce mail rejected) := by
  unfold bounce
  split
  · exact Pass.duplicate_bind_renames fun name => injectOrFail_renames recording _ _
  · exact Pass.renames_pure ()

omit recording in
/-- The event of a rewritten mail carries the name of that mail, which is no copy. -/
theorem recipientsRewritten_renames (before : List Address) (mail : Mail) :
    (Pass.audit (Audit.recipientsRewritten processor.audit before mail) :
        Pass directoryWorld Recorder Unit).Renames distance
      (Pass.audit (Audit.recipientsRewritten processor.audit before mail)) := by
  have unnamed : (Audit.recipientsRewritten processor.audit before mail).map
      (.renameCopy (.advance distance)) =
        Audit.recipientsRewritten processor.audit before mail := by
    unfold Audit.recipientsRewritten
    split <;> rfl
  exact Pass.audit_renames unnamed

theorem rewritingOf_renames (mail : Mail) :
    (processor.rewritingOf mail).Renames distance (processor.rewritingOf mail) := by
  refine (processor.decideAll_onlyAsks mail.recipients).renames.bind fun decisions => ?_
  refine (redirect_renames recording mail decisions).bind fun _ => ?_
  refine (bounce_renames recording mail _).bind fun _ => ?_
  exact (recipientsRewritten_renames _ _).bind fun _ => Pass.renames_pure _

theorem carryOut_renames (mail : Mail) (ledger : Ledger) (action : ForwardAction) :
    (processor.carryOut mail ledger action).Renames distance
      (processor.carryOut mail ledger action) := by
  cases action with
  | remove recipient => exact Pass.renames_pure ()
  | recordLoop recipient =>
      refine Pass.duplicate_bind_renames fun name => ?_
      exact (inject_renames recording _ _).bind fun _ => Pass.renames_pure ()
  | sendCopy sender targets =>
      refine Pass.duplicate_bind_renames fun name => ?_
      refine (inject_renames recording _ _).bind fun answer => ?_
      cases answer with
      | error failure => exact Pass.renames_pure ()
      | ok taken =>
          have named : (Audit.mailForwarded processor.audit mail name sender targets).map
              (.renameCopy (.advance distance)) = Audit.mailForwarded processor.audit mail
                (name.advance distance) sender targets := by
            unfold Audit.mailForwarded
            split <;> rfl
          exact Pass.audit_renames named

theorem carryOutAll_renames (mail : Mail) (ledger : Ledger) (actions : List ForwardAction) :
    (processor.carryOutAll mail ledger actions).Renames distance
      (processor.carryOutAll mail ledger actions) := by
  induction actions with
  | nil => exact Pass.renames_pure ()
  | cons action rest inductionHypothesis =>
      exact (carryOut_renames recording mail ledger action).bind fun _ => inductionHypothesis

theorem forwardingOf_renames (mail : Mail) :
    (processor.forwardingOf mail).Renames distance (processor.forwardingOf mail) := by
  unfold forwardingOf
  split
  · refine (processor.allForwardActions_onlyAsks _ mail.recipients).renames.bind fun actions => ?_
    exact (carryOutAll_renames recording mail _ actions).bind fun _ => Pass.renames_pure _
  · exact Pass.renames_pure mail

/-! ## Whole passes -/

omit recording in
theorem handle_advance
    {handling : Handling directoryWorld Recorder Unit} {mail : Mail}
    {yielding : Pass directoryWorld Recorder Mail} {start : PassState directoryWorld Recorder}
    (amounts : handling.Amounts mail yielding) (renames : yielding.Renames distance yielding)
    (isOpen : start.transport.IsOpen) :
    (handle handling mail start).state.transport.IsOpen ∧
      handle handling mail (start.advance distance) =
        ⟨(handle handling mail start).result, (handle handling mail start).mail,
          (handle handling mail start).state.advance distance⟩ := by
  obtain ⟨lastOpen, renamed⟩ := renames start isOpen
  rw [amounts.handle_eq, amounts.handle_eq, renamed]
  exact ⟨lastOpen, rfl⟩

/-- A pass into an empty recorder leaves it open, and with names from further on it
comes to the same end under these names. -/
theorem processMail_advance
    (distance : BitVec 128) (mail : Mail) (directory : directoryWorld) (names : NameSupply) :
    (processor.processMail mail ⟨directory, .empty, names⟩).state.transport.IsOpen ∧
      processor.processMail mail ⟨directory, .empty, ⟨names.next + distance⟩⟩ =
        ⟨(processor.processMail mail ⟨directory, .empty, names⟩).result,
          (processor.processMail mail ⟨directory, .empty, names⟩).mail,
          (processor.processMail mail ⟨directory, .empty, names⟩).state.advance distance⟩ := by
  have started : processor.rewriting mail ⟨directory, .empty, ⟨names.next + distance⟩⟩ =
      handle processor.replaceRecipients mail
        (PassState.advance distance (.start ⟨directory, .empty, names⟩)) :=
    rfl
  have startOpen : (PassState.start ⟨directory, Recorder.empty, names⟩).transport.IsOpen :=
    Recorder.empty_isOpen
  obtain ⟨middleOpen, renamed⟩ := handle_advance
    (processor.replaceRecipients_amounts mail) (rewritingOf_renames recording mail) startOpen
  rw [← started] at renamed
  change (processor.rewriting mail ⟨directory, .empty, names⟩).state.transport.IsOpen
    at middleOpen
  cases outcome : (processor.rewriting mail ⟨directory, .empty, names⟩).result with
  | error failure =>
      have stillFails : (processor.rewriting mail
          ⟨directory, .empty, ⟨names.next + distance⟩⟩).result = .error failure := by
        rw [renamed]
        exact outcome
      rw [processMail_of_error outcome, processMail_of_error stillFails]
      exact ⟨middleOpen, renamed⟩
  | ok done =>
      have stillSucceeds : (processor.rewriting mail
          ⟨directory, .empty, ⟨names.next + distance⟩⟩).result = .ok () := by
        rw [renamed]
        exact outcome
      rw [processMail_of_ok outcome, processMail_of_ok stillSucceeds, renamed]
      exact handle_advance (processor.applyForwards_amounts _) (forwardingOf_renames recording _)
        middleOpen

end Deeds

end Processor

end RecipientRewriting
