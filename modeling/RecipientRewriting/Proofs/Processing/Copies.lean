import Mathlib.Data.List.Forall2
import RecipientRewriting.Proofs.Processing.Deciding
import RecipientRewriting.Proofs.Processing.Handling

/-!
# Copies that a pass hands over

The first phase of a pass plans its copies before it makes any: one redirect for
every recipient with remote targets, in order of the recipients, then a single
bounce.  It hands them over in this order up to the first one that is refused.
The second phase hands over what its actions ask for and goes on whatever the
transport says.
-/

namespace RecipientRewriting

/-! ## The plan -/

/-- A copy that the first phase is to make. -/
structure PlannedCopy where
  reason : CopyReason
  recipients : List Address
  deriving DecidableEq, Repr

namespace PlannedCopy

def injection (settings : ProcessorSettings) (mail : Mail) (planned : PlannedCopy)
    (name : MailName) : Injection :=
  let copy := (mail.duplicate name).withRecipients planned.recipients
  match planned.reason with
  | .bounce => ⟨copy.withState settings.errorState, some settings.errorState⟩
  | .redirect | .forward | .loop => ⟨copy, none⟩

/-- An injection carries out a planned copy under some name. -/
def MadeAs (settings : ProcessorSettings) (mail : Mail) (planned : PlannedCopy)
    (injection : Injection) : Prop :=
  ∃ name, injection = planned.injection settings mail name

def redirects (decisions : List Decision) : List PlannedCopy :=
  (decisions.filter fun decision => !decision.remote.isEmpty).map fun decision =>
    ⟨.redirect, decision.remote⟩

def bounces (rejected : List Address) : List PlannedCopy :=
  if rejected.isEmpty then [] else [⟨.bounce, rejected⟩]

def plan (decisions : List Decision) : List PlannedCopy :=
  redirects decisions ++ bounces (Aggregate.ofDecisions decisions).rejectedRecipients

theorem reason_of_mem_plan
    {planned : PlannedCopy} {decisions : List Decision}
    (member : planned ∈ plan decisions) :
    planned.reason = .redirect ∨ planned.reason = .bounce := by
  rcases List.mem_append.1 member with redirected | bounced
  · obtain ⟨decision, _, rfl⟩ := List.mem_map.1 redirected
    exact Or.inl rfl
  · unfold bounces at bounced
    split at bounced
    · simp at bounced
    · obtain rfl := List.mem_singleton.1 bounced
      exact Or.inr rfl

end PlannedCopy

/-- `HandsOver settings mail plan result added` holds if copies are handed over
as planned until one is refused, with `result` and the effects `added`. -/
inductive HandsOver (settings : ProcessorSettings) (mail : Mail) :
    List PlannedCopy → Except ProcessingError Unit → List Effect → Prop
  | finished : HandsOver settings mail [] (.ok ()) []
  | accepted {planned : PlannedCopy} {rest : List PlannedCopy}
      {result : Except ProcessingError Unit} {added : List Effect} (name : MailName) :
      HandsOver settings mail rest result added →
      HandsOver settings mail (planned :: rest) result
        (.injected planned.reason (planned.injection settings mail name) (.ok ()) :: added)
  | refused {planned : PlannedCopy} {rest : List PlannedCopy} (name : MailName)
      (failure : TransportError) :
      HandsOver settings mail (planned :: rest) (.error (.transport failure))
        [.injected planned.reason (planned.injection settings mail name) (.error failure)]

namespace HandsOver

variable {settings : ProcessorSettings} {mail : Mail} {plan more : List PlannedCopy}
  {result : Except ProcessingError Unit} {added behind : List Effect}

theorem append
    (first : HandsOver settings mail plan (.ok ()) added)
    (second : HandsOver settings mail more result behind) :
    HandsOver settings mail (plan ++ more) result (added ++ behind) := by
  -- The result is an index of the derivation, so it has to be a variable to induct.
  generalize ending : (Except.ok () : Except ProcessingError Unit) = finished at first
  induction first with
  | finished => exact second
  | accepted name _ inductionHypothesis => exact .accepted name (inductionHypothesis ending)
  | refused name failure => simp at ending

theorem append_of_error
    {failure : ProcessingError}
    (first : HandsOver settings mail plan (.error failure) added)
    (more : List PlannedCopy) :
    HandsOver settings mail (plan ++ more) (.error failure) added := by
  generalize ending : Except.error failure = failed at first
  induction first with
  | finished => simp at ending
  | accepted name _ inductionHypothesis => exact .accepted name (inductionHypothesis ending)
  | refused name failure => exact .refused name failure

/-- Only planned copies are handed over. -/
theorem exists_planned
    {effect : Effect}
    (hands : HandsOver settings mail plan result added)
    (member : effect ∈ added) :
    ∃ planned ∈ plan, ∃ name answer,
      effect = .injected planned.reason (planned.injection settings mail name) answer := by
  induction hands with
  | finished => simp at member
  | @accepted planned rest _ _ name _ inductionHypothesis =>
      rcases List.mem_cons.1 member with rfl | later
      · exact ⟨planned, List.mem_cons_self, name, .ok (), rfl⟩
      · obtain ⟨other, inRest, found⟩ := inductionHypothesis later
        exact ⟨other, List.mem_cons_of_mem planned inRest, found⟩
  | @refused planned rest name failure =>
      obtain rfl := List.mem_singleton.1 member
      exact ⟨planned, List.mem_cons_self, name, .error failure, rfl⟩

/-- A plan that is finished has had every copy taken. -/
theorem of_ok
    (hands : HandsOver settings mail plan (.ok ()) added) :
    List.Forall₂ (PlannedCopy.MadeAs settings mail) plan (added.filterMap Effect.accepted?) ∧
      ∀ reason injection failure, .injected reason injection (.error failure) ∉ added := by
  generalize ending : (Except.ok () : Except ProcessingError Unit) = finished at hands
  induction hands with
  | finished => exact ⟨.nil, by simp⟩
  | accepted name _ inductionHypothesis =>
      obtain ⟨taken, unrefused⟩ := inductionHypothesis ending
      refine ⟨.cons ⟨name, rfl⟩ taken, ?_⟩
      intro reason injection failure member
      rcases List.mem_cons.1 member with same | later
      · simp at same
      · exact unrefused reason injection failure later
  | refused name failure => simp at ending

/-- A plan that is broken off has had every copy taken in front of the one that
was refused, and none behind it. -/
theorem of_error
    {failure : ProcessingError}
    (hands : HandsOver settings mail plan (.error failure) added) :
    ∃ taken refused missing cause,
      plan = taken ++ refused :: missing ∧ failure = .transport cause ∧
        List.Forall₂ (PlannedCopy.MadeAs settings mail) taken
          (added.filterMap Effect.accepted?) ∧
        (∃ injection, .injected refused.reason injection (.error cause) ∈ added) ∧
        ∀ reason injection answer, .injected reason injection (.error answer) ∈ added →
          reason = refused.reason ∧ refused.MadeAs settings mail injection ∧ answer = cause := by
  generalize ending : Except.error failure = failed at hands
  induction hands with
  | finished => simp at ending
  | @accepted planned rest _ _ name _ inductionHypothesis =>
      obtain ⟨taken, refused, missing, cause, rfl, sameFailure, handed, ⟨last, lastMember⟩,
        single⟩ := inductionHypothesis ending
      refine ⟨planned :: taken, refused, missing, cause, rfl, sameFailure,
        .cons ⟨name, rfl⟩ handed, ⟨last, List.mem_cons_of_mem _ lastMember⟩, ?_⟩
      intro reason injection answer member
      rcases List.mem_cons.1 member with same | later
      · simp at same
      · exact single reason injection answer later
  | @refused planned rest name cause =>
      obtain rfl : failure = .transport cause := by simpa using ending
      refine ⟨[], planned, rest, cause, rfl, rfl, .nil, ⟨_, List.mem_cons_self⟩, ?_⟩
      intro reason injection answer member
      obtain ⟨rfl, rfl, rfl⟩ : reason = planned.reason ∧
          injection = planned.injection settings mail name ∧ answer = cause := by
        simpa using member
      exact ⟨rfl, ⟨name, rfl⟩, rfl⟩

end HandsOver

namespace Processor

variable {directoryWorld transportWorld : Type}
  (processor : Processor directoryWorld transportWorld)

theorem handOver_ensures
    (mail : Mail) (planned : PlannedCopy) (name : MailName) :
    (processor.injectOrFail planned.reason
        (planned.injection processor.settings mail name)).Ensures
      (HandsOver processor.settings mail [planned]) := by
  refine (processor.injectOrFail_ensures _ _).mono ?_
  intro result added handed
  obtain ⟨answer, rfl, rfl⟩ := handed
  cases answer with
  | ok taken => exact .accepted name .finished
  | error failure => exact .refused name failure

theorem redirect_ensures (mail : Mail) (decisions : List Decision) :
    (processor.redirect mail decisions).Ensures
      (HandsOver processor.settings mail (PlannedCopy.redirects decisions)) := by
  induction decisions with
  | nil => exact Pass.ensures_pure .finished
  | cons decision rest inductionHypothesis =>
      rw [redirect]
      split
      · rename_i remote
        have planned : PlannedCopy.redirects (decision :: rest) =
            [⟨.redirect, decision.remote⟩] ++ PlannedCopy.redirects rest := by
          rw [PlannedCopy.redirects, List.filter_cons, if_pos remote]
          rfl
        rw [planned]
        refine (Pass.duplicate_succeeds mail).bind_silent ?_
        intro copy duplicated
        obtain ⟨name, rfl⟩ := duplicated
        refine Pass.ensures_bind
          (processor.handOver_ensures mail ⟨.redirect, decision.remote⟩ name) ?_ ?_
        · intro failure added first
          exact first.append_of_error _
        · intro value before first
          exact inductionHypothesis.mono fun result added later => first.append later
      · rename_i onSite
        have planned : PlannedCopy.redirects (decision :: rest) = PlannedCopy.redirects rest := by
          rw [PlannedCopy.redirects, List.filter_cons, if_neg onSite]
          rfl
        rw [planned]
        exact inductionHypothesis

theorem bounce_ensures (mail : Mail) (rejected : List Address) :
    (processor.bounce mail rejected).Ensures
      (HandsOver processor.settings mail (PlannedCopy.bounces rejected)) := by
  unfold bounce
  split
  · rename_i nonempty
    have planned : PlannedCopy.bounces rejected = [⟨.bounce, rejected⟩] := by
      simpa [PlannedCopy.bounces] using nonempty
    rw [planned]
    refine (Pass.duplicate_succeeds mail).bind_silent ?_
    intro copy duplicated
    obtain ⟨name, rfl⟩ := duplicated
    exact processor.handOver_ensures mail ⟨.bounce, rejected⟩ name
  · rename_i empty
    have planned : PlannedCopy.bounces rejected = [] := by
      simpa [PlannedCopy.bounces] using empty
    rw [planned]
    exact Pass.ensures_pure .finished

end Processor

/-! ## What actions do -/

/-- What carrying out an action may do, for a mail and the ledger it carries. -/
inductive Performs (settings : ProcessorSettings) (mail : Mail) (ledger : Ledger) :
    ForwardAction → Effect → Prop
  | sends {sender : Address} {targets : List Address} (name : MailName)
      (answer : Except TransportError Unit) :
      Performs settings mail ledger (.sendCopy sender targets)
        (.injected .forward
          ⟨(ledger.add sender).recordOn
            (((mail.duplicate name).withSender (some sender)).withRecipients targets), none⟩
          answer)
  | reports {recipient : Address} (name : MailName) (answer : Except TransportError Unit) :
      Performs settings mail ledger (.recordLoop recipient)
        (.injected .loop
          ⟨((mail.duplicate name).withRecipients [recipient]).withState settings.errorState,
            some settings.errorState⟩
          answer)
  | records {action : ForwardAction} (event : AuditEvent) :
      Performs settings mail ledger action (.audited event)

/-- No lookup fails while actions are carried out. -/
theorem Performs.lookupFailure?_eq_none
    {settings : ProcessorSettings} {mail : Mail} {ledger : Ledger} {action : ForwardAction}
    {effect : Effect}
    (performs : Performs settings mail ledger action effect) :
    effect.lookupFailure? = none := by
  cases performs <;> rfl

def ForwardAction.IsHandedOver (settings : ProcessorSettings) (mail : Mail) (ledger : Ledger)
    (added : List Effect) (action : ForwardAction) : Prop :=
  (∃ recipient, action = .remove recipient) ∨
    ∃ reason injection answer, .injected reason injection answer ∈ added ∧
      Performs settings mail ledger action (.injected reason injection answer)

theorem ForwardAction.IsHandedOver.mono
    {settings : ProcessorSettings} {mail : Mail} {ledger : Ledger} {added more : List Effect}
    {action : ForwardAction}
    (handed : action.IsHandedOver settings mail ledger added)
    (subset : added ⊆ more) :
    action.IsHandedOver settings mail ledger more := by
  rcases handed with removes | ⟨reason, injection, answer, member, performs⟩
  · exact Or.inl removes
  · exact Or.inr ⟨reason, injection, answer, subset member, performs⟩

namespace Processor

variable {directoryWorld transportWorld : Type}
  (processor : Processor directoryWorld transportWorld)

theorem carryOut_succeeds (mail : Mail) (ledger : Ledger) (action : ForwardAction) :
    (processor.carryOut mail ledger action).Succeeds fun _ added =>
      (∀ effect ∈ added, Performs processor.settings mail ledger action effect) ∧
        action.IsHandedOver processor.settings mail ledger added := by
  cases action with
  | remove recipient => exact Pass.succeeds_pure ⟨by simp, Or.inl ⟨recipient, rfl⟩⟩
  | sendCopy sender targets =>
      refine (Pass.duplicate_succeeds mail).bind_silent ?_
      intro copy duplicated
      obtain ⟨name, rfl⟩ := duplicated
      refine (processor.inject_succeeds _ _).bind ?_
      intro answer before handed
      obtain rfl := handed
      have sends : Performs processor.settings mail ledger (.sendCopy sender targets) _ :=
        .sends name answer
      split
      · refine Pass.Succeeds.mono (Pass.audit_succeeds _) ?_
        intro value added recorded
        refine ⟨?_, Or.inr ⟨_, _, _, List.mem_cons_self, sends⟩⟩
        intro effect member
        rcases List.mem_append.1 member with first | later
        · obtain rfl := List.mem_singleton.1 first
          exact sends
        · rw [recorded] at later
          obtain ⟨event, _, rfl⟩ := List.mem_map.1 later
          exact .records event
      · refine Pass.succeeds_pure ⟨?_, Or.inr ⟨_, _, _, List.mem_cons_self, sends⟩⟩
        intro effect member
        obtain rfl : effect = _ := by simpa using member
        exact sends
  | recordLoop recipient =>
      refine (Pass.duplicate_succeeds mail).bind_silent ?_
      intro copy duplicated
      obtain ⟨name, rfl⟩ := duplicated
      refine (processor.inject_succeeds _ _).bind ?_
      intro answer before handed
      obtain rfl := handed
      have reports : Performs processor.settings mail ledger (.recordLoop recipient) _ :=
        .reports name answer
      refine Pass.succeeds_pure ⟨?_, Or.inr ⟨_, _, _, List.mem_cons_self, reports⟩⟩
      intro effect member
      obtain rfl : effect = _ := by simpa using member
      exact reports

/-- Carrying out actions never ends a pass.  Each of them is carried out, and
nothing else is done. -/
theorem carryOutAll_succeeds (mail : Mail) (ledger : Ledger) (actions : List ForwardAction) :
    (processor.carryOutAll mail ledger actions).Succeeds fun _ added =>
      (∀ effect ∈ added, ∃ action ∈ actions,
        Performs processor.settings mail ledger action effect) ∧
      ∀ action ∈ actions, action.IsHandedOver processor.settings mail ledger added := by
  induction actions with
  | nil => exact Pass.succeeds_pure ⟨by simp, by simp⟩
  | cons action rest inductionHypothesis =>
      refine (processor.carryOut_succeeds mail ledger action).bind ?_
      intro value before carried
      obtain ⟨performed, handed⟩ := carried
      refine Pass.Succeeds.mono inductionHypothesis ?_
      intro value added carriedLater
      obtain ⟨performedLater, handedLater⟩ := carriedLater
      constructor
      · intro effect member
        rcases List.mem_append.1 member with first | second
        · exact ⟨action, List.mem_cons_self, performed effect first⟩
        · obtain ⟨other, inRest, performs⟩ := performedLater effect second
          exact ⟨other, List.mem_cons_of_mem action inRest, performs⟩
      · intro other member
        rcases List.mem_cons.1 member with rfl | inRest
        · exact handed.mono (List.subset_append_left before added)
        · exact (handedLater other inRest).mono (List.subset_append_right before added)

/-- What the second phase of a pass over a mail does, by how it ends.  It ends
early only over a lookup, and then it has done nothing but ask. -/
def Forwarding {answer : Type} (processor : Processor directoryWorld transportWorld) (mail : Mail)
    (result : Except ProcessingError answer) (added : List Effect) : Prop :=
  match result with
  | .ok _ => failedLookups added = [] ∧
      ∀ effect ∈ added, effect.DecidesForwards ∨ ∃ action : ForwardAction,
        action.IsSound processor.directory (Ledger.ofMail mail) mail.recipients ∧
          Performs processor.settings mail (Ledger.ofMail mail) action effect
  | .error failure => (∀ effect ∈ added, effect.DecidesForwards) ∧
      ∃ cause, failure = .lookup cause ∧ failedLookups added = [cause]

/-- The second phase hands a copy over only because an action asks for it. -/
theorem Forwarding.exists_performs
    {answer : Type} {processor : Processor directoryWorld transportWorld} {mail : Mail}
    {result : Except ProcessingError answer} {added : List Effect} {reason : CopyReason}
    {injection : Injection} {reply : Except TransportError Unit}
    (forwarding : processor.Forwarding mail result added)
    (member : .injected reason injection reply ∈ added) :
    ∃ action : ForwardAction,
      action.IsSound processor.directory (Ledger.ofMail mail) mail.recipients ∧
        Performs processor.settings mail (Ledger.ofMail mail) action
          (.injected reason injection reply) := by
  cases result with
  | error failure => exact (forwarding.1 _ member).elim
  | ok finished =>
      rcases forwarding.2 _ member with question | performed
      · exact question.elim
      · exact performed

theorem forwardingOf_ensures (mail : Mail) :
    (processor.forwardingOf mail).Ensures (processor.Forwarding mail) := by
  unfold forwardingOf
  split
  · refine Pass.ensures_bind
      (processor.allForwardActions_asks (Ledger.ofMail mail) fun _ member => member) ?_ ?_
    · intro failure added failed
      exact failed
    · intro actions asked decided
      obtain ⟨questions, complete, sound⟩ := decided
      refine (processor.carryOutAll_succeeds _ _ actions).bind ?_
      intro value performed carried
      obtain ⟨performs, _⟩ := carried
      refine Pass.ensures_pure ⟨?_, ?_⟩
      · have silent : failedLookups performed = [] := by
          refine List.filterMap_eq_nil_iff.2 ?_
          intro effect member
          obtain ⟨action, _, does⟩ := performs effect member
          exact does.lookupFailure?_eq_none
        simp [complete, silent]
      · intro effect member
        rw [List.append_nil] at member
        rcases List.mem_append.1 member with question | done
        · exact Or.inl (questions effect question)
        · obtain ⟨action, inActions, does⟩ := performs effect done
          exact Or.inr ⟨action, sound action inActions, does⟩
  · exact Pass.ensures_pure ⟨rfl, by simp⟩

end Processor

end RecipientRewriting
