import RecipientRewriting.Proofs.Forwarding.Ghosting
import RecipientRewriting.Proofs.Processing.Accounting
import RecipientRewriting.Proofs.Processing.DefaultDomain

/-!
# What a pass leaves alone

A pass changes the recipients of a mail, its state and its notification options,
and nothing else of it.  Each of its copies is the mail from before the pass but
for what its reason demands.  The planned copies are made before the mail is
rewritten, the others behind that, which shows only in the notification options:
a mail that the rewriting leaves to nobody changes its state, but then nobody is
left to forward it either.
-/

namespace RecipientRewriting

/-! ## Copies -/

/-- A copy of `mail` for a reason, where `rewritten` is what has become of the mail
once its recipients are replaced. -/
inductive Processor.IsCopy (settings : ProcessorSettings) (mail rewritten : Mail) :
    CopyReason → Injection → Prop
  | redirect (name : MailName) (recipients : List Address) :
      IsCopy settings mail rewritten .redirect
        ⟨{ mail with
            name
            envelope := ⟨mail.sender, recipients⟩ }, none⟩
  | bounce (name : MailName) (recipients : List Address) :
      IsCopy settings mail rewritten .bounce
        ⟨{ mail with
            name
            envelope := ⟨mail.sender, recipients⟩
            state := settings.errorState }, some settings.errorState⟩
  | forward (name : MailName) (sender : Address) (recipients : List Address) :
      IsCopy settings mail rewritten .forward
        ⟨{ mail with
            name
            envelope := ⟨some sender, recipients⟩
            attributes := mail.attributes.insert Ledger.attributeName
              ((Ledger.ofMail mail).add sender).text
            dsn := rewritten.dsn }, none⟩
  | loop (name : MailName) (recipient : Address) :
      IsCopy settings mail rewritten .loop
        ⟨{ mail with
            name
            envelope := ⟨mail.sender, [recipient]⟩
            state := settings.errorState
            dsn := rewritten.dsn }, some settings.errorState⟩

/-- A copy that goes to somebody, and to nobody twice. -/
structure Injection.IsAddressed (injection : Injection) : Prop where
  somebody : injection.mail.recipients ≠ []
  nodup : injection.mail.recipients.Nodup

/-- The name of a copy makes no difference. -/
theorem Processor.IsCopy.of_unnamed
    {settings : ProcessorSettings} {mail rewritten : Mail} {reason : CopyReason}
    {injection : Injection}
    (copies : IsCopy settings mail rewritten reason injection.unnamed) :
    IsCopy settings mail rewritten reason injection := by
  have named : injection =
      { injection.unnamed with mail := injection.unnamed.mail.duplicate injection.mail.name } :=
    rfl
  generalize injection.unnamed = copy at copies named
  rw [named]
  cases copies with
  | redirect name recipients => exact .redirect _ recipients
  | bounce name recipients => exact .bounce _ recipients
  | forward name sender recipients => exact .forward _ sender recipients
  | loop name recipient => exact .loop _ recipient

theorem Processor.IsCopy.data_eq
    {settings : ProcessorSettings} {mail rewritten : Mail} {reason : CopyReason}
    {injection : Injection}
    (copies : IsCopy settings mail rewritten reason injection) :
    injection.mail.data = mail.data := by
  cases copies <;> rfl

/-! ## Planned copies -/

theorem RuleList.nodup_addressesWith (supplied : Option Domain) (rules : RuleList) :
    (RuleList.addressesWith supplied rules).Nodup :=
  UniqueList.nodup_ofList _

theorem Decision.FollowsFrom.nodup_remote
    {supplied : Option Domain} {effects : List Effect} {recipient : Address}
    {decision : Decision}
    (follows : decision.FollowsFrom supplied effects recipient) :
    decision.remote.Nodup := by
  cases follows with
  | unnamed => exact List.nodup_nil
  | unmapped => exact List.nodup_nil
  | rejected => exact List.nodup_nil
  | @replaced source rules onSite remote _ _ _ _ sides =>
      have both := sides.nodup_iff.2 (RuleList.nodup_addressesWith supplied rules)
      exact (List.nodup_append.1 both).2.1

theorem Decision.Reached.nodup_remote
    {remembered : Option Domain} {recipients : List Address} {decisions : List Decision}
    {asked : List Effect}
    (reached : Decision.Reached remembered recipients decisions asked) :
    ∀ decision ∈ decisions, decision.remote.Nodup := by
  intro decision member
  obtain ⟨recipient, _, follows⟩ :=
    Notation.exists_related_of_mem reached.follows.flip member
  exact follows.nodup_remote

theorem PlannedCopy.isAddressed
    {settings : ProcessorSettings} {mail : Mail} {planned : PlannedCopy}
    {decisions : List Decision}
    (nodup : ∀ decision ∈ decisions, decision.remote.Nodup)
    (member : planned ∈ plan decisions) :
    (planned.attempt settings mail).2.IsAddressed := by
  have recipients : (planned.attempt settings mail).2.mail.recipients = planned.recipients :=
    planned.recipients_injection default
  suffices addressed : planned.recipients ≠ [] ∧ planned.recipients.Nodup by
    exact ⟨recipients ▸ addressed.1, recipients ▸ addressed.2⟩
  rcases List.mem_append.1 member with redirected | bounced
  · obtain ⟨decision, chosen, rfl⟩ := List.mem_map.1 redirected
    obtain ⟨inDecisions, somewhere⟩ := List.mem_filter.1 chosen
    exact ⟨by simpa using somewhere, nodup decision inDecisions⟩
  · unfold bounces at bounced
    split at bounced
    · simp at bounced
    · rename_i somebody
      obtain rfl := List.mem_singleton.1 bounced
      exact ⟨by simpa using somebody, (Aggregate.nodup_ofDecisions decisions).2⟩

theorem PlannedCopy.isCopy
    {settings : ProcessorSettings} {mail : Mail} {planned : PlannedCopy}
    {decisions : List Decision}
    (rewritten : Mail)
    (member : planned ∈ plan decisions) :
    Processor.IsCopy settings mail rewritten (planned.attempt settings mail).1
      (planned.attempt settings mail).2 := by
  have reasons := reason_of_mem_plan member
  obtain ⟨reason, recipients⟩ := planned
  rcases reasons with rfl | rfl
  · exact .redirect default recipients
  · exact .bounce default recipients

/-! ## Copies that actions ask for -/

namespace ForwardAction

/-- The recipient that an action hands a copy over for. -/
def actor? : ForwardAction → Option Address
  | sendCopy sender _ => some sender
  | remove _ => none
  | recordLoop recipient => some recipient

/-- Of a recipient, forwarding sends on or reports, but not both. -/
theorem actors_decide_sublist (recipient : Address) (targets : List Address) (ledger : Ledger) :
    ((decide recipient targets ledger).filterMap actor?).Sublist [recipient] := by
  unfold decide
  by_cases recorded : ledger.contains recipient = true
  · simp [recorded]
  · rw [if_neg recorded]
    dsimp only
    generalize (ledger.nonRecorded targets).contains recipient = keepsCopy
    generalize (ledger.nonRecorded targets).filter _ = others
    cases others with
    | cons other rest => cases keepsCopy <;> simp [actor?]
    | nil =>
        cases keepsCopy with
        | true => simp
        | false => cases targets <;> simp [List.filterMap_cons, actor?]

theorem actors_sublist
    (supplied : Option Domain) (ledger : Ledger) (found : List (Address × RuleList)) :
    ((found.flatMap (decideBy supplied ledger)).filterMap actor?).Sublist
      (found.map Prod.fst) := by
  induction found with
  | nil => exact List.Sublist.refl []
  | cons answer rest inductionHypothesis =>
      have first : ((decideBy supplied ledger answer).filterMap actor?).Sublist [answer.1] := by
        unfold decideBy
        split
        · simp
        · exact actors_decide_sublist answer.1 _ ledger
      rw [List.flatMap_cons, List.filterMap_append, List.map_cons]
      exact first.append inductionHypothesis

/-- Whoever acts is a recipient, and a copy that is sent on goes to somebody else. -/
theorem addressed_of_mem_decide
    {recipient sender : Address} {targets recipients : List Address} {ledger : Ledger}
    (member : sendCopy sender recipients ∈ decide recipient targets ledger) :
    recipients ≠ [] ∧ recipients.Nodup := by
  unfold decide at member
  by_cases recorded : ledger.contains recipient = true
  · simp [recorded] at member
  · rw [if_neg recorded] at member
    have fresh : (ledger.nonRecorded targets).Nodup := UniqueList.nodup_ofList _
    simp only [List.mem_append] at member
    rcases member with (sent | removed) | reported
    · split at sent
      · simp at sent
      · rename_i somebody
        obtain ⟨_, rfl⟩ : sender = recipient ∧ recipients =
            (ledger.nonRecorded targets).filter (fun target => target ≠ recipient) := by
          simpa using sent
        exact ⟨by simpa using somebody, fresh.filter _⟩
    · split at removed <;> simp at removed
    · split at reported <;> simp at reported

end ForwardAction

namespace Processor

variable {directoryWorld transportWorld : Type}
  {processor : Processor directoryWorld transportWorld} {mail : Mail}

/-! ## The attempts of a pass -/

/-- The copies that a pass attempts, by how far it gets. -/
inductive Attempted (processor : Processor directoryWorld transportWorld) (mail : Mail)
    (decision : Except ProcessingError (List Decision)) (rewritten : Mail) :
    List (CopyReason × Injection) → Prop
  | undecided : Attempted processor mail decision rewritten []
  | planned {decisions : List Decision} {asked : List Effect}
      {copies : List (CopyReason × Injection)}
      (decided : decision = .ok decisions)
      (reached : Decision.Reached none mail.recipients decisions asked)
      (initial : copies <+: (PlannedCopy.plan decisions).map
        (PlannedCopy.attempt processor.settings mail)) :
      Attempted processor mail decision rewritten copies
  | performed {decisions : List Decision} {asked effects : List Effect}
      {supplied : Option Domain} {actions : List ForwardAction}
      {found : List (Address × RuleList)}
      (decided : decision = .ok decisions)
      (reached : Decision.Reached none mail.recipients decisions asked)
      (changed : rewritten = rewrittenBy mail decisions)
      (settled : ForwardAction.Settle supplied (Ledger.ofMail rewritten) rewritten.recipients
        effects actions found) :
      Attempted processor mail decision rewritten
        ((PlannedCopy.plan decisions).map (PlannedCopy.attempt processor.settings mail) ++
          actions.filterMap (ForwardAction.copy? processor.settings rewritten
            (Ledger.ofMail rewritten)))

theorem Stages.attempted
    {surroundings : Surroundings directoryWorld transportWorld}
    {processed : Processed directoryWorld transportWorld}
    (stages : processor.Stages mail surroundings processed) :
    processor.Attempted mail (processor.decided mail surroundings).1
      (processor.rewriting mail surroundings).mail (attempts processed.state.trace) := by
  cases stages with
  | @unfinished failure last _ first =>
      dsimp only
      generalize last.trace = trace at first ⊢
      generalize (processor.decided mail surroundings).1 = decision at first ⊢
      cases first with
      | undecided _ questions =>
          rw [attempts_of_questions fun effect member => (questions effect member).isQuestion]
          exact .undecided
      | refused reached hands =>
          have silent := attempts_of_questions fun effect member =>
            (reached.questions effect member).isQuestion
          refine .planned rfl reached ?_
          rw [attempts_append, silent, List.nil_append]
          exact hands.attempts_isPrefix
  | @rewritten decisions outcome added middle last phase decided first second trace =>
      obtain ⟨asked, reached⟩ := first.exists_reached
      dsimp only
      rw [trace, attempts_append, first.attempts_eq, phase]
      cases second with
      | skipped =>
          rw [show attempts [] = [] from rfl, List.append_nil]
          exact .planned decided reached List.prefix_rfl
      | undecided _ _ questions =>
          rw [attempts_of_questions fun effect member => (questions effect member).isQuestion,
            List.append_nil]
          exact .planned decided reached List.prefix_rfl
      | forwarded _ _ questions _ settled carried =>
          rw [attempts_append, carried.attempts_eq,
            attempts_of_questions fun effect member => (questions effect member).isQuestion,
            List.nil_append]
          exact .performed decided reached rfl settled

/-- A mail that is left to somebody keeps its state while its recipients are
replaced. -/
theorem state_of_mem_rewritten
    {decisions : List Decision} {recipient : Address}
    (member : recipient ∈ (rewrittenBy mail decisions).recipients) :
    (rewrittenBy mail decisions).state = mail.state := by
  rw [state_rewrittenBy, if_neg (List.ne_nil_of_mem member)]

theorem rewrittenBy_keeps (mail : Mail) (decisions : List Decision) :
    (rewrittenBy mail decisions).name = mail.name ∧
      (rewrittenBy mail decisions).sender = mail.sender ∧
      (rewrittenBy mail decisions).data = mail.data ∧
      (rewrittenBy mail decisions).attributes = mail.attributes :=
  ⟨rfl, rfl, rfl, rfl⟩

/-- What an action asks for is a copy of the mail from before the pass. -/
theorem isCopy_of_action
    {decisions : List Decision} {supplied : Option Domain} {effects : List Effect}
    {actions : List ForwardAction} {found : List (Address × RuleList)} {action : ForwardAction}
    {copy : CopyReason × Injection}
    (settled : ForwardAction.Settle supplied (Ledger.ofMail (rewrittenBy mail decisions))
      (rewrittenBy mail decisions).recipients effects actions found)
    (member : action ∈ actions)
    (asks : action.copy? processor.settings (rewrittenBy mail decisions)
      (Ledger.ofMail (rewrittenBy mail decisions)) = some copy) :
    IsCopy processor.settings mail (rewrittenBy mail decisions) copy.1 copy.2 ∧
      copy.2.IsAddressed := by
  rw [settled.actions] at member
  obtain ⟨answer, inFound, inPart⟩ := List.mem_flatMap.1 member
  have inRecipients : answer.1 ∈ (rewrittenBy mail decisions).recipients := by
    have chosen : answer.1 ∈ found.map Prod.fst := List.mem_map_of_mem inFound
    rw [settled.each] at chosen
    exact (List.mem_filter.1 chosen).1
  -- somebody is left whom the action is about, so the mail has not become a ghost
  have state := state_of_mem_rewritten inRecipients
  obtain ⟨_, sender, data, attributes⟩ := rewrittenBy_keeps mail decisions
  have ledger := ofMail_rewrittenBy mail decisions
  generalize rewrittenBy mail decisions = rewritten at *
  cases action with
  | remove recipient => simp [ForwardAction.copy?] at asks
  | sendCopy forwarder targets =>
      cases asks
      constructor
      · have copies : IsCopy processor.settings mail rewritten .forward _ :=
          .forward default forwarder targets
        rw [← ledger, ← state, ← data, ← attributes] at copies
        exact copies
      · unfold ForwardAction.decideBy at inPart
        split at inPart
        · simp at inPart
        · obtain ⟨somebody, nodup⟩ := ForwardAction.addressed_of_mem_decide inPart
          exact ⟨somebody, nodup⟩
  | recordLoop recipient =>
      cases asks
      constructor
      · have copies : IsCopy processor.settings mail rewritten .loop _ :=
          .loop default recipient
        rw [← sender, ← data, ← attributes] at copies
        exact copies
      · exact ⟨List.cons_ne_nil recipient [], List.pairwise_singleton _ recipient⟩

theorem Attempted.isCopy
    {decision : Except ProcessingError (List Decision)} {rewritten : Mail}
    {copies : List (CopyReason × Injection)} {copy : CopyReason × Injection}
    (attempted : processor.Attempted mail decision rewritten copies)
    (member : copy ∈ copies) :
    IsCopy processor.settings mail rewritten copy.1 copy.2 ∧ copy.2.IsAddressed := by
  have fromPlan {decisions : List Decision} {asked : List Effect}
      (reached : Decision.Reached none mail.recipients decisions asked)
      (inPlan : copy ∈ (PlannedCopy.plan decisions).map
        (PlannedCopy.attempt processor.settings mail)) :
      IsCopy processor.settings mail rewritten copy.1 copy.2 ∧ copy.2.IsAddressed := by
    obtain ⟨planned, isPlanned, rfl⟩ := List.mem_map.1 inPlan
    exact ⟨planned.isCopy rewritten isPlanned, planned.isAddressed reached.nodup_remote isPlanned⟩
  cases attempted with
  | undecided => simp at member
  | planned _ reached initial => exact fromPlan reached (initial.subset member)
  | performed _ reached changed settled =>
      rcases List.mem_append.1 member with inPlan | asked
      · exact fromPlan reached inPlan
      · obtain ⟨action, inActions, asks⟩ := List.mem_filterMap.1 asked
        subst changed
        exact isCopy_of_action settled inActions asks

end Processor

/-! ## At most one copy -/

def copiesFor (reason : CopyReason) (copies : List (CopyReason × Injection)) : List Mail :=
  (copies.filter fun copy => copy.1 = reason).map fun copy => copy.2.mail

theorem copiesFor_append
    (reason : CopyReason) (before behind : List (CopyReason × Injection)) :
    copiesFor reason (before ++ behind) = copiesFor reason before ++ copiesFor reason behind := by
  simp [copiesFor]

theorem copiesFor_isPrefix
    {before copies : List (CopyReason × Injection)}
    (reason : CopyReason)
    (initial : before <+: copies) :
    copiesFor reason before <+: copiesFor reason copies :=
  (initial.filter _).map _

theorem copiesFor_eq_nil
    {reason : CopyReason} {copies : List (CopyReason × Injection)}
    (others : ∀ copy ∈ copies, copy.1 ≠ reason) :
    copiesFor reason copies = [] := by
  rw [copiesFor, List.map_eq_nil_iff, List.filter_eq_nil_iff]
  intro copy member
  simpa using others copy member

namespace PlannedCopy

variable (settings : ProcessorSettings) (mail : Mail) (decisions : List Decision)

theorem map_recipients_copiesFor (reason : CopyReason) (planned : List PlannedCopy) :
    (copiesFor reason (planned.map (attempt settings mail))).map Mail.recipients =
      (planned.filter fun copy => copy.reason = reason).map PlannedCopy.recipients := by
  rw [copiesFor, List.filter_map, List.map_map, List.map_map]
  refine List.map_congr_left ?_
  intro copy _
  exact copy.recipients_injection default

theorem copiesFor_bounce_plan :
    (copiesFor .bounce ((plan decisions).map (attempt settings mail))).length ≤ 1 := by
  have recipients := map_recipients_copiesFor settings mail .bounce (plan decisions)
  rw [filter_plan_bounce, map_recipients_bounces] at recipients
  have length := congrArg List.length recipients
  rw [List.length_map] at length
  rw [length]
  split <;> simp

theorem copiesFor_redirect_plan :
    (copiesFor .redirect ((plan decisions).map (attempt settings mail))).map Mail.recipients =
      (decisions.map Decision.remote).filter fun remote => !remote.isEmpty := by
  rw [map_recipients_copiesFor, filter_plan_redirect, redirects, List.map_map, List.filter_map]
  rfl

/-- What is planned neither forwards nor reports. -/
theorem copiesFor_plan_eq_nil
    {reason : CopyReason} (later : reason = .forward ∨ reason = .loop) :
    copiesFor reason ((plan decisions).map (attempt settings mail)) = [] := by
  refine copiesFor_eq_nil ?_
  intro copy member same
  obtain ⟨planned, inPlan, rfl⟩ := List.mem_map.1 member
  have reasons := reason_of_mem_plan inPlan
  rw [show planned.reason = reason from same] at reasons
  rcases later with rfl | rfl <;> simp at reasons

end PlannedCopy

namespace ForwardAction

variable (settings : ProcessorSettings) (mail : Mail) (ledger : Ledger)

/-- What actions ask for neither redirects nor bounces. -/
theorem copiesFor_eq_nil
    {reason : CopyReason} (actions : List ForwardAction)
    (planned : reason = .redirect ∨ reason = .bounce) :
    copiesFor reason (actions.filterMap (copy? settings mail ledger)) = [] := by
  refine RecipientRewriting.copiesFor_eq_nil ?_
  intro copy member same
  obtain ⟨action, _, asks⟩ := List.mem_filterMap.1 member
  subst same
  cases action <;> simp only [copy?, Option.some.injEq, reduceCtorEq] at asks
  all_goals subst asks; simp at planned

/-- The senders of forwarded copies and the recipients that are reported are those
that the actions are about. -/
theorem actors_perm (actions : List ForwardAction) :
    ((copiesFor .forward (actions.filterMap (copy? settings mail ledger))).filterMap Mail.sender ++
      (copiesFor .loop (actions.filterMap (copy? settings mail ledger))).flatMap
        Mail.recipients).Perm (actions.filterMap actor?) := by
  induction actions with
  | nil => exact List.Perm.refl []
  | cons action rest inductionHypothesis =>
      cases action with
      | sendCopy sender recipients => exact inductionHypothesis.cons sender
      | remove recipient => exact inductionHypothesis
      | recordLoop recipient =>
          exact List.perm_middle.trans (inductionHypothesis.cons recipient)

end ForwardAction

namespace Processor

variable {directoryWorld transportWorld : Type}
  {processor : Processor directoryWorld transportWorld} {mail : Mail}

theorem Attempted.bounce_length_le
    {decision : Except ProcessingError (List Decision)} {rewritten : Mail}
    {copies : List (CopyReason × Injection)}
    (attempted : processor.Attempted mail decision rewritten copies) :
    (copiesFor .bounce copies).length ≤ 1 := by
  cases attempted with
  | undecided => simp [copiesFor]
  | @planned decisions _ _ _ _ initial =>
      exact (copiesFor_isPrefix .bounce initial).length_le.trans
        (PlannedCopy.copiesFor_bounce_plan processor.settings mail decisions)
  | performed =>
      rw [copiesFor_append, ForwardAction.copiesFor_eq_nil _ _ _ _ (Or.inr rfl), List.append_nil]
      exact PlannedCopy.copiesFor_bounce_plan processor.settings mail _

theorem Attempted.redirects_isPrefix
    {decisions : List Decision} {rewritten : Mail} {copies : List (CopyReason × Injection)}
    (attempted : processor.Attempted mail (.ok decisions) rewritten copies) :
    (copiesFor .redirect copies).map Mail.recipients <+:
      (decisions.map Decision.remote).filter fun remote => !remote.isEmpty := by
  rw [← PlannedCopy.copiesFor_redirect_plan processor.settings mail]
  cases attempted with
  | undecided => exact List.nil_prefix
  | planned decided _ initial =>
      cases decided
      exact (copiesFor_isPrefix .redirect initial).map _
  | performed decided =>
      cases decided
      simp [copiesFor_append, ForwardAction.copiesFor_eq_nil _ _ _ _ (Or.inl rfl)]

theorem Attempted.nodup_actors
    {decision : Except ProcessingError (List Decision)} {rewritten : Mail}
    {copies : List (CopyReason × Injection)}
    (attempted : processor.Attempted mail decision rewritten copies) :
    ((copiesFor .forward copies).filterMap Mail.sender ++
      (copiesFor .loop copies).flatMap Mail.recipients).Nodup := by
  cases attempted with
  | undecided => exact List.nodup_nil
  | @planned decisions _ _ _ _ initial =>
      have forwards := copiesFor_isPrefix .forward initial
      have reports := copiesFor_isPrefix .loop initial
      rw [PlannedCopy.copiesFor_plan_eq_nil _ _ _ (Or.inl rfl)] at forwards
      rw [PlannedCopy.copiesFor_plan_eq_nil _ _ _ (Or.inr rfl)] at reports
      rw [List.prefix_nil.1 forwards, List.prefix_nil.1 reports]
      exact List.nodup_nil
  | @performed decisions _ _ supplied actions found _ _ changed settled =>
      rw [copiesFor_append, copiesFor_append,
        PlannedCopy.copiesFor_plan_eq_nil _ _ _ (Or.inl rfl),
        PlannedCopy.copiesFor_plan_eq_nil _ _ _ (Or.inr rfl), List.nil_append, List.nil_append,
        (ForwardAction.actors_perm _ _ _ actions).nodup_iff, settled.actions]
      have recipients : (found.map Prod.fst).Nodup := by
        rw [settled.each, changed]
        exact (Aggregate.nodup_ofDecisions decisions).1.filter _
      exact (ForwardAction.actors_sublist supplied _ found).nodup recipients

/-! ## The frame -/

theorem recipients_of_decided
    {surroundings : Surroundings directoryWorld transportWorld} {decisions : List Decision}
    (decided : (processor.decided mail surroundings).1 = .ok decisions) :
    decisions.map Decision.recipient = mail.recipients := by
  obtain ⟨_, _, _, outcome⟩ := processor.decideAll_asks mail.recipients (.start surroundings)
  rw [show ((processor.decideAll mail.recipients).run (.start surroundings)).1 = .ok decisions
    from decided] at outcome
  exact outcome.2.1

namespace Stages

variable {surroundings : Surroundings directoryWorld transportWorld}
  {processed : Processed directoryWorld transportWorld}

theorem keeps (stages : processor.Stages mail surroundings processed) :
    processed.mail.name = mail.name ∧ processed.mail.sender = mail.sender ∧
      processed.mail.data = mail.data ∧ processed.mail.attributes = mail.attributes := by
  cases stages with
  | unfinished => exact ⟨rfl, rfl, rfl, rfl⟩
  | @rewritten decisions _ _ _ _ _ _ _ second _ =>
      have kept := rewrittenBy_keeps mail decisions
      cases second with
      | skipped => exact kept
      | undecided => exact kept
      | forwarded => exact kept

/-- Once recipients are replaced, the mail goes to nobody twice. -/
theorem nodup_recipients
    (stages : processor.Stages mail surroundings processed)
    (rewritten : (processor.rewriting mail surroundings).result = .ok ()) :
    processed.mail.recipients.Nodup := by
  cases stages with
  | unfinished phase =>
      rw [phase] at rewritten
      simp at rewritten
  | @rewritten decisions _ _ _ _ _ _ _ second _ =>
      have nodup : (rewrittenBy mail decisions).recipients.Nodup :=
        (Aggregate.nodup_ofDecisions decisions).1
      cases second with
      | skipped => exact nodup
      | undecided => exact nodup
      | forwarded => exact nodup.filter _

end Stages

/-- Whether a pass comes to its end or not, it leaves the name, the sender, the
octets and the attributes of the mail alone.  Whatever it hands over is the mail
from before the pass, but for what the reason of the copy demands, and goes to
somebody and to nobody twice.  There is at most one bounce, at most one redirect
for each decision, and nobody forwards the mail or is reported more than once.  A
mail whose recipients have been replaced goes to nobody twice, either. -/
theorem processMail_frame
    (processor : Processor directoryWorld transportWorld) (mail : Mail)
    (surroundings : Surroundings directoryWorld transportWorld) :
    let rewritten := (processor.rewriting mail surroundings).mail
    let processed := processor.processMail mail surroundings
    let copies := attempts processed.state.trace
    (processed.mail.name = mail.name ∧ processed.mail.sender = mail.sender ∧
      processed.mail.data = mail.data ∧ processed.mail.attributes = mail.attributes) ∧
    (∀ reason injection answer, .injected reason injection answer ∈ processed.state.trace →
      injection.mail.data = mail.data ∧ injection.IsAddressed ∧
        IsCopy processor.settings mail rewritten reason injection) ∧
    (copiesFor .bounce copies).length ≤ 1 ∧
    (∀ decisions, (processor.decided mail surroundings).1 = .ok decisions →
      decisions.map Decision.recipient = mail.recipients ∧
        (copiesFor .redirect copies).map Mail.recipients <+:
          (decisions.map Decision.remote).filter fun remote => !remote.isEmpty) ∧
    ((copiesFor .forward copies).filterMap Mail.sender ++
      (copiesFor .loop copies).flatMap Mail.recipients).Nodup ∧
    ((processor.rewriting mail surroundings).result = .ok () →
      processed.mail.recipients.Nodup) := by
  intro rewritten processed copies
  have stages := (stages_processMail processor mail surroundings).1
  have attempted := stages.attempted
  refine ⟨stages.keeps, ?_, attempted.bounce_length_le, ?_, attempted.nodup_actors,
    stages.nodup_recipients⟩
  · intro reason injection answer member
    obtain ⟨isCopy, addressed⟩ := attempted.isCopy (mem_attempts_of_injected member)
    have named := isCopy.of_unnamed
    exact ⟨named.data_eq, ⟨addressed.somebody, addressed.nodup⟩, named⟩
  · intro decisions decided
    rw [decided] at attempted
    exact ⟨recipients_of_decided decided, attempted.redirects_isPrefix⟩

/-- The copy that a user's rule sends on is one of them; the pass decides on the
user without any redirect, and comes to the end of its first phase. -/
theorem forwarder_frame :
    (∃ injection, .injected .forward injection (.ok ()) ∈
        ((forwarder "b@y.org").processMail forwardedMail ⟨(), .empty, ⟨1⟩⟩).state.trace ∧
      injection.mail.data = forwardedMail.data ∧ injection.IsAddressed ∧
      IsCopy (forwarder "b@y.org").settings forwardedMail
        ((forwarder "b@y.org").rewriting forwardedMail ⟨(), .empty, ⟨1⟩⟩).mail
        .forward injection) ∧
    copiesFor .redirect (attempts ((forwarder "b@y.org").processMail forwardedMail
      ⟨(), .empty, ⟨1⟩⟩).state.trace) = [] ∧
    ((forwarder "b@y.org").processMail forwardedMail
      ⟨(), .empty, ⟨1⟩⟩).mail.recipients.Nodup := by
  obtain ⟨_, framed, _, redirected, _, nodup⟩ :=
    (forwarder "b@y.org").processMail_frame forwardedMail ⟨(), .empty, ⟨1⟩⟩
  have reasons : (((forwarder "b@y.org").processMail forwardedMail
      ⟨(), .empty, ⟨1⟩⟩).state.trace.filterMap Effect.taken?).map Prod.fst = [.forward] := by
    decide +kernel
  have decided : ((forwarder "b@y.org").decided forwardedMail ⟨(), .empty, ⟨1⟩⟩).1 =
      .ok [.passThrough forwardingUser] := by
    decide +kernel
  have rewrote : ((forwarder "b@y.org").rewriting forwardedMail
      ⟨(), .empty, ⟨1⟩⟩).result = .ok () := by
    decide +kernel
  refine ⟨?_, ?_, nodup rewrote⟩
  · have sent : .forward ∈ (((forwarder "b@y.org").processMail forwardedMail
        ⟨(), .empty, ⟨1⟩⟩).state.trace.filterMap Effect.taken?).map Prod.fst := by
      rw [reasons]
      exact List.mem_cons_self
    obtain ⟨⟨reason, injection⟩, taken, rfl⟩ := List.mem_map.1 sent
    obtain ⟨effect, member, isTaken⟩ := List.mem_filterMap.1 taken
    obtain rfl := Effect.taken?_eq_some_iff.1 isTaken
    exact ⟨injection, member, framed _ injection _ member⟩
  · obtain ⟨_, initial⟩ := redirected _ decided
    have nobody : ([Decision.passThrough forwardingUser].map Decision.remote).filter
        (fun remote => !remote.isEmpty) = [] :=
      rfl
    rw [nobody] at initial
    exact List.map_eq_nil_iff.1 (List.prefix_nil.1 initial)

end Processor

end RecipientRewriting
