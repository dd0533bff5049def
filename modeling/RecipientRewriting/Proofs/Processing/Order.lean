import Mathlib.Data.List.Perm.Basic
import RecipientRewriting.Proofs.Dsn.HandOn
import RecipientRewriting.Proofs.Forwarding.Transports
import RecipientRewriting.Proofs.Processing.Determined
import RecipientRewriting.Proofs.Processing.Frame
import RecipientRewriting.Proofs.Transport.Accepting

/-!
# The order of recipients

Where a directory keeps no state and a transport takes everything, each recipient is
decided on apart from the others.  So the recipients of a mail in another order get
the same decisions in that order, and what a pass makes of them is the same up to
order: only whose notification options an address gets may depend on it.
-/

namespace RecipientRewriting.Processor

variable {transportWorld : Type} {processor : Processor Unit transportWorld} {mail : Mail}
  {surroundings : Surroundings Unit transportWorld} {decisions : List Decision}
  {actions : List ForwardAction}

/-! ## What a pass concludes -/

/-- What a pass over a mail decides on, recipient by recipient, in both phases. -/
inductive Concludes (processor : Processor Unit transportWorld) (mail : Mail) :
    List Decision → List ForwardAction → Prop
  | exempt {decisions : List Decision}
      (decides : List.Forall₂ (fun recipient decision =>
        (processor.decide recipient).Gives processor.directory (.ok decision))
        mail.recipients decisions)
      (exempt : forwards processor.settings (rewrittenBy mail decisions) = false) :
      Concludes processor mail decisions []
  | forwarded {decisions : List Decision} {parts : List (List ForwardAction)}
      (decides : List.Forall₂ (fun recipient decision =>
        (processor.decide recipient).Gives processor.directory (.ok decision))
        mail.recipients decisions)
      (applies : forwards processor.settings (rewrittenBy mail decisions) = true)
      (acts : List.Forall₂ (fun recipient part =>
        (processor.forwardActions (Ledger.ofMail mail) recipient).Gives processor.directory
          (.ok part))
        (rewrittenBy mail decisions).recipients parts) :
      Concludes processor mail decisions parts.flatten

theorem Concludes.decides
    (concludes : processor.Concludes mail decisions actions) :
    List.Forall₂ (fun recipient decision =>
      (processor.decide recipient).Gives processor.directory (.ok decision))
      mail.recipients decisions := by
  cases concludes with
  | exempt decides => exact decides
  | forwarded decides => exact decides

/-- A pass that comes to its end concludes something. -/
theorem exists_concludes
    (succeeds : (processor.processMail mail surroundings).result = .ok ()) :
    ∃ decisions actions, processor.Concludes mail decisions actions := by
  obtain ⟨rewrote, phases⟩ := rewriting_of_processMail succeeds
  have first := (processor.replaceRecipients_amounts mail).run_eq_ok rewrote
  rw [rewritingOf, Pass.run_bind_eq_ok_iff] at first
  obtain ⟨decisions, asked, decision, rewriting⟩ := first
  have startSupplied := PassState.start_supplied surroundings processor.directory
  obtain ⟨askedSupplied, _⟩ :=
    (processor.decideAll_yields mail.recipients).of_run startSupplied decision
  obtain ⟨supplied, _⟩ := (rewriteBy_yields mail decisions).of_run askedSupplied rewriting
  -- what each recipient has got in this run, it gets in any run and at any place
  have decides : List.Forall₂ (fun recipient decision =>
      (processor.decide recipient).Gives processor.directory (.ok decision))
      mail.recipients decisions := by
    rw [processor.decideAll_eq_mapM] at decision
    exact Pass.forall₂_of_mapM (fun recipient => (processor.decide_onlyAsks recipient).isDetermined)
      startSupplied (congrArg Prod.fst decision)
  have changed : (processor.rewriting mail surroundings).mail = rewrittenBy mail decisions := by
    obtain ⟨_, _, outcome⟩ := rewriteBy_ensures processor mail decisions asked
    rw [rewriting] at outcome
    exact outcome.1
  rw [phases, changed] at succeeds
  have second := (processor.applyForwards_amounts _).run_eq_ok succeeds
  by_cases applies : forwards processor.settings (rewrittenBy mail decisions) = true
  · rw [forwardingOf, if_pos applies, ofMail_rewrittenBy] at second
    obtain ⟨actions, _, decided, _⟩ := Pass.run_bind_eq_ok_iff.1 second
    rw [processor.allForwardActions_eq_mapM] at decided
    obtain ⟨parts, _, returned, _⟩ := Pass.run_bind_eq_ok_iff.1 decided
    have acts := Pass.forall₂_of_mapM
      (fun recipient => (processor.forwardActions_onlyAsks _ recipient).isDetermined)
      supplied (congrArg Prod.fst returned)
    exact ⟨decisions, parts.flatten, .forwarded decides applies acts⟩
  · exact ⟨decisions, [], .exempt decides (by simpa using applies)⟩

theorem run_rewritingOf_of_gives
    (surroundings : Surroundings Unit transportWorld)
    (accepts : processor.transport.AcceptsFrom surroundings.transport)
    (decides : List.Forall₂ (fun recipient decision =>
      (processor.decide recipient).Gives processor.directory (.ok decision))
      mail.recipients decisions) :
    ∃ middle, (processor.rewritingOf mail).run (.start surroundings) =
        (.ok (rewrittenBy mail decisions), middle) ∧
      middle.Supplied processor.directory ∧
      processor.transport.AcceptsFrom middle.transport ∧
      attempts middle.trace = (PlannedCopy.plan decisions).map
        (PlannedCopy.attempt processor.settings mail) ∧
      AllTaken middle.trace := by
  have gives := Pass.mapM_gives decides
  rw [← processor.decideAll_eq_mapM] at gives
  obtain ⟨same, askedSupplied, untouched⟩ :=
    gives (.start surroundings) (PassState.start_supplied surroundings processor.directory)
  obtain ⟨questions, askedTrace, asks, _⟩ :=
    processor.decideAll_asks mail.recipients (.start surroundings)
  have onlyAsks := fun effect member => (asks effect member).isQuestion
  cases decision : (processor.decideAll mail.recipients).run (.start surroundings) with
  | mk result asked =>
      rw [decision] at same askedSupplied untouched askedTrace
      obtain rfl : result = .ok decisions := same
      obtain rfl : asked.trace = questions := by simpa [PassState.start] using askedTrace
      rw [show surroundings.transport = asked.transport from untouched.symm] at accepts
      obtain ⟨middle, handed, rewrote, middleAccepts, middleTrace, taken⟩ :=
        processor.run_rewriteBy_of_accepting mail decisions accepts
      obtain ⟨supplied, _⟩ := (rewriteBy_yields mail decisions).of_run askedSupplied rewrote
      have phase : (processor.rewritingOf mail).run (.start surroundings) =
          (.ok (rewrittenBy mail decisions), middle) := by
        rw [rewritingOf, Pass.run_bind_of_ok decision, rewrote]
      refine ⟨middle, phase, supplied, middleAccepts, ?_, ?_⟩
      · obtain ⟨added, trace, _, stages⟩ :=
          rewritingOf_stages processor mail (.start surroundings)
        rw [phase, decision] at stages
        rw [phase] at trace
        obtain rfl : middle.trace = added := by simpa [PassState.start] using trace
        exact stages.attempts_eq
      · rw [middleTrace]
        exact allTaken_append (allTaken_of_questions onlyAsks) taken

theorem run_forwardingOf_of_gives
    {start : PassState Unit transportWorld}
    (supplied : start.Supplied processor.directory)
    (accepts : processor.transport.AcceptsFrom start.transport)
    (applies : forwards processor.settings mail = true)
    (gives : (processor.allForwardActions (Ledger.ofMail mail) mail.recipients).Gives
      processor.directory (.ok actions)) :
    ∃ last added, (processor.forwardingOf mail).run start =
        (.ok (withoutRemoved mail actions), last) ∧
      last.trace = start.trace ++ added ∧
      attempts added = actions.filterMap
        (ForwardAction.copy? processor.settings mail (Ledger.ofMail mail)) ∧
      AllTaken added := by
  obtain ⟨same, _, untouched⟩ := gives start supplied
  obtain ⟨questions, askedTrace, asks, _⟩ :=
    processor.allForwardActions_asks (Ledger.ofMail mail) (fun _ member => member) start
  have onlyAsks := fun effect member => (asks effect member).isQuestion
  cases decided : (processor.allForwardActions (Ledger.ofMail mail) mail.recipients).run start with
  | mk result asked =>
      rw [decided] at same untouched askedTrace
      obtain rfl : result = .ok actions := same
      rw [← untouched] at accepts
      obtain ⟨_, performed, performedTrace, taken⟩ :=
        processor.carryOutAll_delivers mail (Ledger.ofMail mail) actions asked accepts
      obtain ⟨others, otherTrace, done, finished, carried⟩ :=
        processor.carryOutAll_carriesOut mail (Ledger.ofMail mail) actions asked
      obtain rfl : performed = others :=
        List.append_cancel_left (performedTrace.symm.trans otherTrace)
      cases outcome : (processor.carryOutAll mail (Ledger.ofMail mail) actions).run asked with
      | mk ending last =>
          rw [outcome] at performedTrace finished
          obtain rfl : ending = .ok done := finished
          refine ⟨last, questions ++ performed, ?_, ?_, ?_,
            allTaken_append (allTaken_of_questions onlyAsks) taken⟩
          · rw [forwardingOf, if_pos applies]
            dsimp only
            rw [Pass.run_bind_of_ok decided, Pass.run_bind_of_ok outcome]
            rfl
          · rw [← List.append_assoc, ← askedTrace]
            exact performedTrace
          · rw [attempts_append, attempts_of_questions onlyAsks, carried.attempts_eq]
            rfl

theorem withoutRemoved_nil (mail : Mail) : withoutRemoved mail [] = mail := by
  simp [withoutRemoved, Mail.withRecipients, Mail.recipients]

/-- What a pass leaves behind that has come to its end with these decisions and
actions. -/
structure CarriesThrough (processor : Processor Unit transportWorld) (mail : Mail)
    (decisions : List Decision) (actions : List ForwardAction)
    (processed : Processed Unit transportWorld) : Prop where
  finished : processed.result = .ok ()
  remaining : processed.mail = withoutRemoved (rewrittenBy mail decisions) actions
  attempted : attempts processed.state.trace =
    (PlannedCopy.plan decisions).map (PlannedCopy.attempt processor.settings mail) ++
      actions.filterMap (ForwardAction.copy? processor.settings (rewrittenBy mail decisions)
        (Ledger.ofMail mail))
  allTaken : AllTaken processed.state.trace

/-- With a transport that accepts, whatever a pass concludes is carried through. -/
theorem Concludes.carriesThrough
    (concludes : processor.Concludes mail decisions actions)
    (accepts : processor.transport.AcceptsFrom surroundings.transport) :
    processor.CarriesThrough mail decisions actions (processor.processMail mail surroundings) := by
  obtain ⟨middle, phase, supplied, middleAccepts, tried, taken⟩ :=
    run_rewritingOf_of_gives surroundings accepts concludes.decides
  have rewritten : processor.rewriting mail surroundings =
      ⟨.ok (), rewrittenBy mail decisions, middle⟩ :=
    (processor.replaceRecipients_amounts mail).handle_of_ok phase
  have whole : processor.processMail mail surroundings =
      handle processor.applyForwards (rewrittenBy mail decisions) middle := by
    rw [processMail_of_ok (by rw [rewritten]), rewritten]
  have amounts := processor.applyForwards_amounts (rewrittenBy mail decisions)
  rw [whole]
  cases concludes with
  | exempt _ exempt =>
      have skips : processor.forwardingOf (rewrittenBy mail decisions) =
          pure (rewrittenBy mail decisions) := by
        rw [forwardingOf, exempt]
        rfl
      rw [amounts.handle_eq, skips, Pass.run_pure]
      refine ⟨rfl, ?_, ?_, taken⟩
      · exact (withoutRemoved_nil _).symm
      · simpa using tried
  | @forwarded parts _ applies acts =>
      have givesParts := Pass.mapM_gives acts
      have givesActions :
          (processor.allForwardActions (Ledger.ofMail (rewrittenBy mail decisions))
            (rewrittenBy mail decisions).recipients).Gives processor.directory
            (.ok parts.flatten) := by
        rw [processor.allForwardActions_eq_mapM, ofMail_rewrittenBy]
        exact givesParts.bind_ok (Pass.gives_pure _)
      obtain ⟨last, added, second, trace, triedLater, takenLater⟩ :=
        run_forwardingOf_of_gives supplied middleAccepts applies givesActions
      rw [ofMail_rewrittenBy] at triedLater
      rw [amounts.handle_of_ok second]
      refine ⟨rfl, rfl, ?_, ?_⟩
      · dsimp only
        rw [trace, attempts_append, tried, triedLater]
      · dsimp only
        rw [trace]
        exact allTaken_append taken takenLater

/-! ## The same in another order -/

theorem eq_nil_iff_of_perm {addresses others : List Address} (same : addresses.Perm others) :
    addresses = [] ↔ others = [] := by
  rw [← List.isEmpty_iff, same.isEmpty_eq, List.isEmpty_iff]

theorem newRecipients_perm
    {others : List Decision} (same : decisions.Perm others) :
    (Aggregate.ofDecisions decisions).newRecipients.Perm
      (Aggregate.ofDecisions others).newRecipients := by
  refine (List.perm_ext_iff_of_nodup (Aggregate.nodup_ofDecisions decisions).1
    (Aggregate.nodup_ofDecisions others).1).2 ?_
  intro address
  simp only [Aggregate.mem_newRecipients_ofDecisions, same.mem_iff]

theorem rejectedRecipients_perm
    {others : List Decision} (same : decisions.Perm others) :
    (Aggregate.ofDecisions decisions).rejectedRecipients.Perm
      (Aggregate.ofDecisions others).rejectedRecipients := by
  refine (List.perm_ext_iff_of_nodup (Aggregate.nodup_ofDecisions decisions).2
    (Aggregate.nodup_ofDecisions others).2).2 ?_
  intro address
  simp only [Aggregate.mem_rejectedRecipients_ofDecisions, same.mem_iff]

/-- Whether a mail is forwarded shows in its octets. -/
theorem forwards_of_data
    {other : Mail} (settings : ProcessorSettings) (same : mail.data = other.data) :
    forwards settings mail = forwards settings other := by
  simp only [forwards, Mail.isAutoReply, Mail.headerValues, same]

theorem forwards_rewrittenBy (settings : ProcessorSettings) (mail : Mail)
    (decisions : List Decision) :
    forwards settings (rewrittenBy mail decisions) = forwards settings mail :=
  forwards_of_data settings (rewrittenBy_keeps mail decisions).2.2.1

theorem Concludes.reordered
    {recipients : List Address}
    (concludes : processor.Concludes mail decisions actions)
    (reordered : mail.recipients.Perm recipients) :
    ∃ others more, processor.Concludes (mail.withRecipients recipients) others more ∧
      decisions.Perm others ∧ actions.Perm more := by
  obtain ⟨others, decides, sameDecisions⟩ :=
    List.perm_comp_forall₂ reordered.symm concludes.decides
  cases concludes with
  | exempt _ exempt =>
      rw [forwards_rewrittenBy] at exempt
      refine ⟨others, [], .exempt decides ?_, sameDecisions.symm, List.Perm.refl []⟩
      rw [forwards_rewrittenBy]
      exact exempt
  | forwarded _ applies acts =>
      rw [forwards_rewrittenBy] at applies
      obtain ⟨parts, acts, sameParts⟩ :=
        List.perm_comp_forall₂ (newRecipients_perm sameDecisions) acts
      refine ⟨others, parts.flatten, .forwarded decides ?_ acts, sameDecisions.symm,
        sameParts.symm.flatten⟩
      rw [forwards_rewrittenBy]
      exact applies

/-- A recipient gets one decision, however often it occurs. -/
theorem Concludes.consistent
    (concludes : processor.Concludes mail decisions actions)
    (surroundings : Surroundings Unit transportWorld) :
    ∀ one ∈ decisions, ∀ other ∈ decisions, one.recipient = other.recipient → one = other := by
  have startSupplied := PassState.start_supplied surroundings processor.directory
  have gives : ∀ decision ∈ decisions,
      (processor.decide decision.recipient).Gives processor.directory (.ok decision) := by
    intro decision member
    obtain ⟨recipient, _, gives⟩ := Notation.exists_related_of_mem concludes.decides.flip member
    have about : decision.recipient = recipient := by
      obtain ⟨_, _, _, outcome⟩ := processor.decide_asks recipient (.start surroundings)
      rw [(gives _ startSupplied).1] at outcome
      exact outcome.2.1
    rw [about]
    exact gives
  intro one member other otherMember same
  have givesOther := gives other otherMember
  rw [← same] at givesOther
  exact Except.ok.inj ((gives one member).unique givesOther startSupplied)

end RecipientRewriting.Processor

namespace RecipientRewriting

/-! ## What is compared -/

def Mail.HasOptionsFor (mail : Mail) (address : Address) : Prop :=
  ∃ parameters, mail.dsn = some parameters ∧ parameters.Covers address

/-- What the second phase has made a copy for, from whom and to whom, and who has
forwarded it. -/
structure CopyOutline where
  reason : CopyReason
  sender : Option Address
  recipients : List Address
  ledger : Ledger

def CopyOutline.of (copy : CopyReason × Injection) : CopyOutline :=
  ⟨copy.1, copy.2.mail.sender, copy.2.mail.recipients, Ledger.ofMail copy.2.mail⟩

def outlines (copies : List (CopyReason × Injection)) : List CopyOutline :=
  (copies.filter fun copy => copy.1 = .forward ∨ copy.1 = .loop).map CopyOutline.of

/-- Two passes have done the same but for the order of recipients, and have had all
their copies taken. -/
structure Processed.SameUpToOrder {transportWorld : Type}
    (one other : Processed Unit transportWorld) : Prop where
  live : one.mail.recipients.Perm other.mail.recipients
  state : one.mail.state = other.mail.state
  options : ∀ address, one.mail.HasOptionsFor address ↔ other.mail.HasOptionsFor address
  redirects : ((copiesFor .redirect (attempts one.state.trace)).map Mail.recipients).Perm
    ((copiesFor .redirect (attempts other.state.trace)).map Mail.recipients)
  bounces : List.Forall₂ List.Perm
    ((copiesFor .bounce (attempts one.state.trace)).map Mail.recipients)
    ((copiesFor .bounce (attempts other.state.trace)).map Mail.recipients)
  forwards : (outlines (attempts one.state.trace)).Perm (outlines (attempts other.state.trace))
  allTaken : AllTaken one.state.trace ∧ AllTaken other.state.trace

/-! ## Actions in outline -/

theorem ForwardAction.outlines_eq
    (settings : ProcessorSettings) (mail : Mail) (ledger : Ledger)
    (actions : List ForwardAction) :
    outlines (actions.filterMap (copy? settings mail ledger)) =
      actions.filterMap fun action => (copy? settings mail ledger action).map CopyOutline.of := by
  have later : (actions.filterMap (copy? settings mail ledger)).filter
      (fun copy => copy.1 = .forward ∨ copy.1 = .loop) =
        actions.filterMap (copy? settings mail ledger) := by
    refine List.filter_eq_self.2 ?_
    intro copy member
    obtain ⟨action, _, asks⟩ := List.mem_filterMap.1 member
    cases action with
    | remove recipient => cases asks
    | sendCopy sender recipients =>
        cases asks
        rfl
    | recordLoop recipient =>
        cases asks
        rfl
  rw [outlines, later, List.map_filterMap]

/-- In outline, what an action asks for depends only on the sender of the mail and
on its ledger. -/
theorem ForwardAction.outline_congr
    {settings : ProcessorSettings} {mail other : Mail} {ledger : Ledger}
    (sameSender : mail.sender = other.sender)
    (sameLedger : Ledger.ofMail mail = Ledger.ofMail other) (action : ForwardAction) :
    (action.copy? settings mail ledger).map CopyOutline.of =
      (action.copy? settings other ledger).map CopyOutline.of := by
  have recorded (one : Mail) (added : Ledger) :
      Ledger.ofMail (added.recordOn one) = Ledger.ofText added.text := by
    simp [Ledger.ofMail, Ledger.recordOn, Mail.withAttribute, Mail.attribute?]
  cases action with
  | remove recipient => rfl
  | sendCopy sender recipients =>
      simp only [copy?, Option.map_some, CopyOutline.of, recorded]
      rfl
  | recordLoop recipient =>
      simp only [copy?, Option.map_some, CopyOutline.of, Ledger.ofMail_withState,
        Ledger.ofMail_withRecipients, Ledger.ofMail_duplicate, sameLedger]
      rw [show (((mail.duplicate default).withRecipients [recipient]).withState
        settings.errorState).sender = mail.sender from rfl, sameSender]
      rfl

namespace Processor

variable {transportWorld : Type} {processor : Processor Unit transportWorld} {mail : Mail}
  {decisions : List Decision} {actions : List ForwardAction}
  {processed : Processed Unit transportWorld}

/-! ## Both passes -/

namespace CarriesThrough

theorem redirects_eq
    (carries : processor.CarriesThrough mail decisions actions processed) :
    (copiesFor .redirect (attempts processed.state.trace)).map Mail.recipients =
      (decisions.map Decision.remote).filter fun remote => !remote.isEmpty := by
  rw [carries.attempted, copiesFor_append, ForwardAction.copiesFor_eq_nil _ _ _ _ (Or.inl rfl),
    List.append_nil, PlannedCopy.copiesFor_redirect_plan]

theorem bounces_eq
    (carries : processor.CarriesThrough mail decisions actions processed) :
    (copiesFor .bounce (attempts processed.state.trace)).map Mail.recipients =
      if (Aggregate.ofDecisions decisions).rejectedRecipients = [] then []
      else [(Aggregate.ofDecisions decisions).rejectedRecipients] := by
  rw [carries.attempted, copiesFor_append, ForwardAction.copiesFor_eq_nil _ _ _ _ (Or.inr rfl),
    List.append_nil, PlannedCopy.map_recipients_copiesFor, PlannedCopy.filter_plan_bounce,
    PlannedCopy.map_recipients_bounces]

theorem outlines_eq
    (carries : processor.CarriesThrough mail decisions actions processed) :
    outlines (attempts processed.state.trace) = actions.filterMap fun action =>
      (action.copy? processor.settings (rewrittenBy mail decisions) (Ledger.ofMail mail)).map
        CopyOutline.of := by
  have early : ((PlannedCopy.plan decisions).map
      (PlannedCopy.attempt processor.settings mail)).filter
        (fun copy => copy.1 = .forward ∨ copy.1 = .loop) = [] := by
    refine List.filter_eq_nil_iff.2 ?_
    intro copy member
    obtain ⟨planned, inPlan, rfl⟩ := List.mem_map.1 member
    have reasons := PlannedCopy.reason_of_mem_plan inPlan
    rw [show (planned.attempt processor.settings mail).1 = planned.reason from rfl]
    rcases reasons with same | same <;> simp [same]
  rw [carries.attempted, outlines, List.filter_append, early, List.nil_append]
  exact ForwardAction.outlines_eq _ _ _ actions

theorem hasOptionsFor_iff
    {address : Address}
    (carries : processor.CarriesThrough mail decisions actions processed) :
    processed.mail.HasOptionsFor address ↔
      ∃ parameters, mail.dsn = some parameters ∧ (parameters.handOn decisions).Covers address := by
  have options : processed.mail.dsn =
      mail.dsn.map fun parameters => parameters.handOn decisions := by
    rw [carries.remaining]
    rfl
  rw [Mail.HasOptionsFor, options]
  simp [and_comm]

theorem state_eq
    (carries : processor.CarriesThrough mail decisions actions processed) :
    processed.mail.state =
      if (Aggregate.ofDecisions decisions).newRecipients = [] then .ghost else mail.state := by
  rw [carries.remaining]
  exact state_rewrittenBy mail decisions

theorem live_eq
    (carries : processor.CarriesThrough mail decisions actions processed) :
    processed.mail.recipients = (Aggregate.ofDecisions decisions).newRecipients.filter
      fun recipient => !(actions.filterMap ForwardAction.removed?).contains recipient := by
  rw [carries.remaining]
  rfl

theorem sameUpToOrder
    {recipients : List Address} {others : List Decision} {more : List ForwardAction}
    {other : Processed Unit transportWorld}
    (carries : processor.CarriesThrough mail decisions actions processed)
    (carriesOther : processor.CarriesThrough (mail.withRecipients recipients) others more other)
    (consistent : ∀ one ∈ decisions, ∀ other ∈ decisions,
      one.recipient = other.recipient → one = other)
    (sameDecisions : decisions.Perm others) (sameActions : actions.Perm more) :
    processed.SameUpToOrder other where
  live := by
    rw [carries.live_eq, carriesOther.live_eq]
    have sameRemoved : ∀ recipient ∈ (Aggregate.ofDecisions others).newRecipients,
        (!(actions.filterMap ForwardAction.removed?).contains recipient) =
          !(more.filterMap ForwardAction.removed?).contains recipient := by
      intro recipient _
      rw [(sameActions.filterMap ForwardAction.removed?).contains_eq]
    rw [← List.filter_congr sameRemoved]
    exact (newRecipients_perm sameDecisions).filter _
  state := by
    rw [carries.state_eq, carriesOther.state_eq]
    have nobody := eq_nil_iff_of_perm (newRecipients_perm sameDecisions)
    simp only [nobody]
    rfl
  options := by
    intro address
    have othersConsistent : ∀ one ∈ others, ∀ other ∈ others,
        one.recipient = other.recipient → one = other := fun one member other otherMember =>
      consistent one (sameDecisions.mem_iff.2 member) other (sameDecisions.mem_iff.2 otherMember)
    rw [carries.hasOptionsFor_iff, carriesOther.hasOptionsFor_iff]
    refine exists_congr fun parameters => and_congr_right fun _ => ?_
    rw [DsnParameters.covers_handOn consistent, DsnParameters.covers_handOn othersConsistent,
      (sameDecisions.map Decision.recipient).mem_iff]
    simp only [sameDecisions.mem_iff]
  redirects := by
    rw [carries.redirects_eq, carriesOther.redirects_eq]
    exact (sameDecisions.map Decision.remote).filter _
  bounces := by
    rw [carries.bounces_eq, carriesOther.bounces_eq]
    have same := rejectedRecipients_perm sameDecisions
    by_cases nobody : (Aggregate.ofDecisions decisions).rejectedRecipients = []
    · rw [if_pos nobody, if_pos ((eq_nil_iff_of_perm same).1 nobody)]
      exact .nil
    · rw [if_neg nobody, if_neg fun empty => nobody ((eq_nil_iff_of_perm same).2 empty)]
      exact .cons same .nil
  forwards := by
    rw [carries.outlines_eq, carriesOther.outlines_eq]
    have sameOutlines : (fun action : ForwardAction =>
        (action.copy? processor.settings (rewrittenBy mail decisions) (Ledger.ofMail mail)).map
          CopyOutline.of) = fun action =>
        (action.copy? processor.settings (rewrittenBy (mail.withRecipients recipients) others)
          (Ledger.ofMail (mail.withRecipients recipients))).map CopyOutline.of := by
      funext action
      apply ForwardAction.outline_congr
      · rw [(rewrittenBy_keeps mail decisions).2.1, (rewrittenBy_keeps _ others).2.1]
        rfl
      · rw [ofMail_rewrittenBy, ofMail_rewrittenBy]
        rfl
    rw [sameOutlines]
    exact sameActions.filterMap _
  allTaken := ⟨carries.allTaken, carriesOther.allTaken⟩

end CarriesThrough

/-- A directory without a state, such as that of a table and a list of domains, and a
transport that takes everything make of a mail the same whatever the order of its
recipients: a pass comes to its end in one order exactly if it does in another, and
then it leaves the same recipients in the same state, with notification options for
the same addresses, and has made the same redirects, bounces, forwarded copies and
reports, up to the order of them and of those who are rejected. -/
theorem order_irrelevant
    (processor : Processor Unit transportWorld) (mail : Mail) {recipients : List Address}
    (reordered : mail.recipients.Perm recipients)
    (surroundings otherSurroundings : Surroundings Unit transportWorld)
    (accepts : processor.transport.AcceptsFrom surroundings.transport)
    (acceptsOther : processor.transport.AcceptsFrom otherSurroundings.transport) :
    let processed := processor.processMail mail surroundings
    let other := processor.processMail (mail.withRecipients recipients) otherSurroundings
    (processed.result = .ok () ↔ other.result = .ok ()) ∧
      (processed.result = .ok () → processed.SameUpToOrder other) := by
  intro processed other
  refine ⟨⟨?_, ?_⟩, ?_⟩
  · intro succeeds
    obtain ⟨decisions, actions, concludes⟩ := exists_concludes succeeds
    obtain ⟨others, more, concludesOther, _⟩ := concludes.reordered reordered
    exact (concludesOther.carriesThrough acceptsOther).finished
  · intro succeeds
    obtain ⟨others, more, concludesOther⟩ := exists_concludes succeeds
    obtain ⟨decisions, actions, concludes, _⟩ := concludesOther.reordered reordered.symm
    exact (concludes.carriesThrough accepts).finished
  · intro succeeds
    obtain ⟨decisions, actions, concludes⟩ := exists_concludes succeeds
    obtain ⟨others, more, concludesOther, sameDecisions, sameActions⟩ :=
      concludes.reordered reordered
    exact (concludes.carriesThrough accepts).sameUpToOrder
      (concludesOther.carriesThrough acceptsOther) (concludes.consistent surroundings)
      sameDecisions sameActions

def pairMail : Mail :=
  forwardedMail.withRecipients [forwardingUser, ⟨"c", .ofString "x.org"⟩]

theorem pair_reordered :
    ((forwarder "b@y.org").processMail
        (pairMail.withRecipients [⟨"c", .ofString "x.org"⟩, forwardingUser])
        ⟨(), .empty, ⟨7⟩⟩).result = .ok () ∧
      ((forwarder "b@y.org").processMail pairMail ⟨(), .empty, ⟨1⟩⟩).SameUpToOrder
        ((forwarder "b@y.org").processMail
          (pairMail.withRecipients [⟨"c", .ofString "x.org"⟩, forwardingUser])
          ⟨(), .empty, ⟨7⟩⟩) := by
  have succeeds :
      ((forwarder "b@y.org").processMail pairMail ⟨(), .empty, ⟨1⟩⟩).result = .ok () := by
    decide +kernel
  have swapped : pairMail.recipients.Perm [⟨"c", .ofString "x.org"⟩, forwardingUser] :=
    List.Perm.swap _ _ []
  have accepts : (forwarder "b@y.org").transport.AcceptsFrom Recorder.empty :=
    Recorder.empty_isOpen.acceptsFrom
  obtain ⟨both, same⟩ := (forwarder "b@y.org").order_irrelevant pairMail swapped
    ⟨(), .empty, ⟨1⟩⟩ ⟨(), .empty, ⟨7⟩⟩ accepts accepts
  exact ⟨both.1 succeeds, same succeeds⟩

end Processor

end RecipientRewriting
