import RecipientRewriting.Proofs.Processing.Course

/-!
# What a failed pass leaves behind

A pass that fails has done nothing at all, or handed over its planned copies up
to one that was refused, or completed its first phase.  Which of these it is
shows in the trace, and what has become of the mail follows from it.
-/

namespace RecipientRewriting

/-! ## Views of a trace -/

theorem accepted_of_questions
    {effects : List Effect} (questions : ∀ effect ∈ effects, effect.IsQuestion) :
    effects.filterMap Effect.accepted? = [] := by
  refine List.filterMap_eq_nil_iff.2 ?_
  intro effect member
  have question := questions effect member
  cases effect <;> first | rfl | exact question.elim

theorem events_of_questions
    {effects : List Effect} (questions : ∀ effect ∈ effects, effect.IsQuestion) :
    effects.filterMap Effect.event? = [] := by
  refine List.filterMap_eq_nil_iff.2 ?_
  intro effect member
  have question := questions effect member
  cases effect <;> first | rfl | exact question.elim

theorem accepted_of_events (events : List AuditEvent) :
    (events.map Effect.audited).filterMap Effect.accepted? = [] := by
  simp [List.filterMap_map, Function.comp_def, Effect.accepted?]

theorem failedLookups_of_events (events : List AuditEvent) :
    failedLookups (events.map Effect.audited) = [] := by
  simp [failedLookups, List.filterMap_map, Function.comp_def, Effect.lookupFailure?]

namespace HandsOver

variable {settings : ProcessorSettings} {mail : Mail} {plan : List PlannedCopy}
  {result : Except ProcessingError Unit} {added : List Effect}

theorem failedLookups_eq_nil
    (hands : HandsOver settings mail plan result added) :
    failedLookups added = [] := by
  refine List.filterMap_eq_nil_iff.2 ?_
  intro effect member
  obtain ⟨planned, _, name, answer, rfl⟩ := hands.exists_planned member
  rfl

theorem events_eq_nil
    (hands : HandsOver settings mail plan result added) :
    added.filterMap Effect.event? = [] := by
  refine List.filterMap_eq_nil_iff.2 ?_
  intro effect member
  obtain ⟨planned, _, name, answer, rfl⟩ := hands.exists_planned member
  rfl

end HandsOver

namespace Processed

variable {directoryWorld transportWorld : Type}

/-! ## What a pass leaves behind -/

/-- A pass has left the mail as it was, and nothing outside shows that it has
been there. -/
structure LeavesAlone (mail : Mail) (processed : Processed directoryWorld transportWorld) :
    Prop where
  unchanged : processed.mail = mail
  noCopy : ∀ reason injection answer,
    .injected reason injection answer ∉ processed.state.trace
  noEvent : processed.state.events = []

/-- A pass has left the mail as it was, and has gone through its plan up to a
copy that was refused. -/
structure BreaksOff (settings : ProcessorSettings) (mail : Mail) (decisions : List Decision)
    (reason : CopyReason) (injection : Injection)
    (processed : Processed directoryWorld transportWorld) : Prop where
  unchanged : processed.mail = mail
  noEvent : processed.state.events = []
  noForwards : ∀ source answer, .foundForwards source answer ∉ processed.state.trace
  inOrder : decisions.map Decision.recipient = mail.recipients
  untilRefused : ∃ taken refused missing,
    PlannedCopy.plan decisions = taken ++ refused :: missing ∧
      refused.reason = reason ∧ refused.MadeAs settings mail injection ∧
      List.Forall₂ (PlannedCopy.MadeAs settings mail) taken processed.state.acceptedInjections

/-- A pass has rewritten the mail and handed over all that it had planned, but
has done nothing about forwarding.  The mail goes on to everybody it was rewritten
to, as a ghost if that is nobody, and with notifications asked for as they were
handed on; all else about it stays. -/
structure StopsBeforeForwarding (settings : ProcessorSettings) (mail : Mail)
    (decisions : List Decision) (processed : Processed directoryWorld transportWorld) :
    Prop where
  inOrder : decisions.map Decision.recipient = mail.recipients
  recipientsKept : processed.mail.recipients = (Aggregate.ofDecisions decisions).newRecipients
  ghostly : processed.mail.state =
    if processed.mail.recipients = [] then .ghost else mail.state
  handedOn : processed.mail.dsn = mail.dsn.map fun parameters => parameters.handOn decisions
  otherwise : processed.mail.name = mail.name ∧ processed.mail.sender = mail.sender ∧
    processed.mail.data = mail.data ∧ processed.mail.attributes = mail.attributes
  allTaken : List.Forall₂ (PlannedCopy.MadeAs settings mail) (PlannedCopy.plan decisions)
    processed.state.acceptedInjections
  onlyPlanned : ∀ reason injection answer,
    .injected reason injection answer ∈ processed.state.trace →
      (reason = .redirect ∨ reason = .bounce) ∧ answer = .ok ()

end Processed

namespace Processor

variable {directoryWorld transportWorld : Type}
  {processor : Processor directoryWorld transportWorld} {mail : Mail}
  {surroundings : Surroundings directoryWorld transportWorld}

/-- A phase that only asks cannot be seen from outside. -/
theorem leavesAlone_of_questions
    {result : Except ProcessingError Unit} {last : PassState directoryWorld transportWorld}
    (questions : ∀ effect ∈ last.trace, effect.IsQuestion) :
    Processed.LeavesAlone mail ⟨result, mail, last⟩ where
  unchanged := rfl
  noCopy := fun _ _ _ member => questions _ member
  noEvent := events_of_questions questions

/-! ## Lookups that fail while recipients are decided on -/

theorem leavesAlone_of_undecided
    {cause : LookupError}
    (failed : cause ∈ failedLookups (processor.decided mail surroundings).2.trace) :
    (processor.processMail mail surroundings).result = .error (.lookup cause) ∧
      (processor.processMail mail surroundings).LeavesAlone mail := by
  have course := course_processMail processor mail surroundings
  generalize processor.processMail mail surroundings = processed at course ⊢
  cases course with
  | undecided decision questions onlyFailed =>
      rw [decision, onlyFailed] at failed
      obtain rfl := List.mem_singleton.1 failed
      exact ⟨rfl, leavesAlone_of_questions fun effect member =>
        (questions effect member).isQuestion⟩
  | refused decision _ complete =>
      rw [decision, complete] at failed
      simp at failed
  | rewritten decision _ complete =>
      rw [decision, complete] at failed
      simp at failed

/-! ## Copies that are refused -/

/-- Copies of the second phase are forwarded or report a loop. -/
theorem Forwarding.reason_of_injected
    {result : Except ProcessingError Unit} {added : List Effect}
    {reason : CopyReason} {injection : Injection} {answer : Except TransportError Unit}
    (forwarding : processor.Forwarding mail result added)
    (member : .injected reason injection answer ∈ added) :
    reason = .forward ∨ reason = .loop := by
  obtain ⟨action, _, performs⟩ := Forwarding.exists_performs forwarding member
  cases performs with
  | sends name answer => exact Or.inl rfl
  | reports name answer => exact Or.inr rfl

theorem breaksOff_of_refused
    {reason : CopyReason} {injection : Injection} {failure : TransportError}
    (planned : reason = .redirect ∨ reason = .bounce)
    (member : .injected reason injection (.error failure) ∈
      (processor.processMail mail surroundings).state.trace) :
    (processor.processMail mail surroundings).result = .error (.transport failure) ∧
      ∃ decisions, (processor.decided mail surroundings).1 = .ok decisions ∧
        (processor.processMail mail surroundings).BreaksOff processor.settings mail decisions
          reason injection := by
  have course := course_processMail processor mail surroundings
  generalize processor.processMail mail surroundings = processed at course member ⊢
  cases course with
  | undecided decision questions onlyFailed => exact (questions _ member).elim
  | @refused decisions _ handed asked last decision questions _ each _ hands trace =>
      have asks := fun effect inTrace => (questions effect inTrace).isQuestion
      obtain ⟨taken, refused, missing, cause, plan, rfl, accepted, _, single⟩ := hands.of_error
      dsimp only at member
      rw [trace] at member
      rcases List.mem_append.1 member with question | inHanded
      · exact (questions _ question).elim
      · obtain ⟨sameReason, made, rfl⟩ := single reason injection failure inHanded
        refine ⟨rfl, decisions, by rw [decision], rfl, ?_, ?_, each, taken, refused, missing,
          plan, sameReason.symm, made, ?_⟩
        · simp [PassState.events, trace, events_of_questions asks, hands.events_eq_nil]
        · intro source answer looked
          dsimp only at looked
          rw [trace] at looked
          rcases List.mem_append.1 looked with question | inHanded
          · exact questions _ question
          · obtain ⟨_, _, _, _, impossible⟩ := hands.exists_planned inHanded
            simp at impossible
        · simpa [PassState.acceptedInjections, trace, accepted_of_questions asks] using accepted
  | rewritten decision questions _ each _ hands forwarding _ trace =>
      dsimp only at member
      rw [trace, List.mem_append, List.mem_append, List.mem_append] at member
      rcases member with ((question | inHanded) | recorded) | inAdded
      · exact (questions _ question).elim
      · exact absurd inHanded (hands.of_ok.2 _ _ _)
      · simp at recorded
      · have later := Forwarding.reason_of_injected forwarding inAdded
        rcases planned with rfl | rfl <;> simp at later

/-! ## Lookups that fail while forwarding is decided on -/

theorem stopsBeforeForwarding_of_failed
    {decisions : List Decision} {cause : LookupError}
    (decision : (processor.decided mail surroundings).1 = .ok decisions)
    (failed : cause ∈ failedLookups (processor.processMail mail surroundings).state.trace) :
    (processor.processMail mail surroundings).result = .error (.lookup cause) ∧
      (processor.processMail mail surroundings).StopsBeforeForwarding processor.settings mail
        decisions := by
  have course := course_processMail processor mail surroundings
  generalize processor.processMail mail surroundings = processed at course failed ⊢
  cases course with
  | undecided undecided questions onlyFailed =>
      rw [undecided] at decision
      simp at decision
  | refused _ _ complete _ _ hands trace =>
      dsimp only at failed
      rw [trace, failedLookups_append, complete, hands.failedLookups_eq_nil] at failed
      simp at failed
  | @rewritten other result handed added remaining asked last decided questions complete each _
      hands forwarding kept trace =>
      obtain rfl : other = decisions := by
        rw [decided] at decision
        simpa using decision
      dsimp only at failed
      rw [trace, failedLookups_append, failedLookups_append, failedLookups_append, complete,
        hands.failedLookups_eq_nil, failedLookups_of_events] at failed
      cases result with
      | ok finished =>
          rw [forwarding.1] at failed
          simp at failed
      | error failure =>
          obtain ⟨moreQuestions, found, rfl, onlyFailed⟩ := forwarding
          obtain rfl : cause = found := by simpa [onlyFailed] using failed
          obtain rfl := kept _ rfl
          have asks := fun effect inTrace => (questions effect inTrace).isQuestion
          have laterAsks := fun effect inTrace => (moreQuestions effect inTrace).isQuestion
          obtain ⟨accepted, unrefused⟩ := hands.of_ok
          refine ⟨rfl, each, rfl, rfl, rfl, ⟨rfl, rfl, rfl, rfl⟩, ?_, ?_⟩
          · dsimp only
            rw [PassState.acceptedInjections, trace, List.filterMap_append, List.filterMap_append,
              List.filterMap_append, accepted_of_questions asks, accepted_of_events,
              accepted_of_questions laterAsks]
            simpa using accepted
          · intro reason injection answer member
            dsimp only at member
            rw [trace, List.mem_append, List.mem_append, List.mem_append] at member
            rcases member with ((question | inHanded) | recorded) | inAdded
            · exact (questions _ question).elim
            · obtain ⟨planned, inPlan, name, _, same⟩ := hands.exists_planned inHanded
              obtain ⟨rfl, _, _⟩ := Effect.injected.inj same
              refine ⟨PlannedCopy.reason_of_mem_plan inPlan, ?_⟩
              cases answer with
              | ok taken => rfl
              | error failure => exact absurd inHanded (unrefused _ _ _)
            · simp at recorded
            · exact (moreQuestions _ inAdded).elim

/-! ## Every failure -/

/-- A pass fails only over a lookup or over a refused copy of its plan. -/
theorem cause_of_error
    {failure : ProcessingError}
    (fails : (processor.processMail mail surroundings).result = .error failure) :
    (∃ cause ∈ failedLookups (processor.processMail mail surroundings).state.trace,
      failure = .lookup cause) ∨
      ∃ reason injection cause, (reason = .redirect ∨ reason = .bounce) ∧
        .injected reason injection (.error cause) ∈
          (processor.processMail mail surroundings).state.trace ∧
        failure = .transport cause := by
  have course := course_processMail processor mail surroundings
  generalize processor.processMail mail surroundings = processed at course fails ⊢
  cases course with
  | @undecided cause asked _ _ onlyFailed =>
      obtain rfl : .lookup cause = failure := by simpa using fails
      exact Or.inl ⟨cause, by simp [onlyFailed], rfl⟩
  | refused decision _ _ _ _ hands trace =>
      obtain ⟨taken, refused, missing, cause, plan, rfl, _, ⟨injection, handed⟩, _⟩ :=
        hands.of_error
      obtain rfl : .transport cause = failure := by simpa using fails
      have inPlan : refused ∈ taken ++ refused :: missing := by simp
      rw [← plan] at inPlan
      exact Or.inr ⟨refused.reason, injection, cause, PlannedCopy.reason_of_mem_plan inPlan,
        by simp [trace, handed], rfl⟩
  | rewritten _ _ _ _ _ _ forwarding _ trace =>
      dsimp only at fails
      rw [fails] at forwarding
      obtain ⟨_, cause, rfl, onlyFailed⟩ := forwarding
      exact Or.inl ⟨cause, by simp [trace, onlyFailed], rfl⟩

/-- Forwarding on its own fails without a trace. -/
theorem processForwards_leavesAlone
    {failure : ProcessingError}
    (fails : (processor.processForwards mail surroundings).result = .error failure) :
    (processor.processForwards mail surroundings).LeavesAlone mail := by
  obtain ⟨result, remaining, last, added, phase, trace, forwarding, kept⟩ :=
    handle_applyForwards processor mail (.start surroundings)
  have whole : processor.processForwards mail surroundings = ⟨result, remaining, last⟩ := phase
  rw [whole] at fails ⊢
  dsimp only at fails
  subst fails
  obtain rfl := kept failure rfl
  obtain rfl : last.trace = added := by simpa [PassState.start] using trace
  exact leavesAlone_of_questions fun effect member => (forwarding.1 effect member).isQuestion

/-- What a failed pass leaves behind, whatever the directory answers and the
transport takes.  If a lookup fails while recipients are decided on, the mail is
as it was and the pass has done nothing.  If a copy of the plan is refused, the
mail is as it was, and exactly the copies in front of that one have been taken.
If a lookup fails after that, every planned copy has been taken and the mail is
rewritten, but nothing has been forwarded.  There is no other way to fail.
Forwarding on its own fails without a trace. -/
theorem processMail_atomic
    (processor : Processor directoryWorld transportWorld) (mail : Mail)
    (surroundings : Surroundings directoryWorld transportWorld) :
    let decided := processor.decided mail surroundings
    let processed := processor.processMail mail surroundings
    let forwarded := processor.processForwards mail surroundings
    (∀ cause ∈ failedLookups decided.2.trace,
      processed.result = .error (.lookup cause) ∧ processed.LeavesAlone mail) ∧
    (∀ reason injection failure, reason = .redirect ∨ reason = .bounce →
      .injected reason injection (.error failure) ∈ processed.state.trace →
        processed.result = .error (.transport failure) ∧
          ∃ decisions, decided.1 = .ok decisions ∧
            processed.BreaksOff processor.settings mail decisions reason injection) ∧
    (∀ decisions, decided.1 = .ok decisions →
      ∀ cause ∈ failedLookups processed.state.trace,
        processed.result = .error (.lookup cause) ∧
          processed.StopsBeforeForwarding processor.settings mail decisions) ∧
    (∀ failure, processed.result = .error failure →
      (∃ cause ∈ failedLookups processed.state.trace, failure = .lookup cause) ∨
        ∃ reason injection cause, (reason = .redirect ∨ reason = .bounce) ∧
          .injected reason injection (.error cause) ∈ processed.state.trace ∧
            failure = .transport cause) ∧
    ∀ failure, forwarded.result = .error failure → forwarded.LeavesAlone mail := by
  refine ⟨?_, ?_, ?_, ?_, ?_⟩
  · intro cause failed
    exact leavesAlone_of_undecided failed
  · intro reason injection failure planned member
    exact breaksOff_of_refused planned member
  · intro decisions decision cause failed
    exact stopsBeforeForwarding_of_failed decision failed
  · intro failure fails
    exact cause_of_error fails
  · intro failure fails
    exact processForwards_leavesAlone fails

/-! ## Failures behind something that has succeeded -/

/-- Two users have targets in another domain, one has none at all, and one forwards
mail.  The rules of another user cannot be read, nor the forwarding rules of a last
one. -/
def partlyDown : Directory Unit where
  resolve source _ world :=
    let answer : Except LookupError Resolution := match source.localPart? with
      | some "anne" => .ok (.success [⟨.userAlias, "bert@y.org"⟩])
      | some "carl" => .ok (.success [⟨.userAlias, "dora@y.org"⟩])
      | some "emil" => .ok (.rejected "gone")
      | some "fred" => .error (.store "down")
      | _ => .ok (.success [])
    (⟨answer, 0⟩, world)
  forwardRules source world :=
    let answer : Except LookupError RuleList := match source.localPart? with
      | some "gert" => .ok [⟨.forward, "hans@y.org"⟩]
      | some "ines" => .error (.store "down")
      | _ => .ok []
    (⟨answer, 0⟩, world)
  defaultDomain world := (.error .noDefaultDomain, world)
  isLocal domain world := (domain = .ofString "x.org", world)

/-- A processor with this directory, over a transport that closes behind its first
mail. -/
def refusing : Processor Unit Nat where
  settings := { ProcessorSettings.default with forwardSeparately := true }
  audit := .default
  directory := partlyDown
  transport := ⟨fun _ taken => if taken = 0 then (.ok (), 1) else (.error .closed, taken)⟩

/-- A mail to users of one domain, which asks for notifications about the first. -/
def mailTo (users : List String) : Mail :=
  (Mail.fresh ⟨0⟩ ⟨none, users.map fun user => ⟨user, .ofString "x.org"⟩⟩ []).withDsn
    (some ⟨none, none, .ofList [(⟨"anne", .ofString "x.org"⟩, ⟨none, none⟩)]⟩)

def refusedMail : Mail :=
  mailTo ["anne", "carl", "emil"]

def unknownMail : Mail :=
  mailTo ["anne", "fred"]

def stoppedMail : Mail :=
  mailTo ["anne", "gert", "ines"]

/-- The copy of a mail for a target in the other domain. -/
def copyFor (mail : Mail) (name : MailName) (target : String) : Injection :=
  ⟨(mail.duplicate name).withRecipients [⟨target, .ofString "y.org"⟩], none⟩

def refusal? : Effect → Option (CopyReason × Injection × TransportError)
  | .injected reason injection (.error failure) => some (reason, injection, failure)
  | _ => none

theorem mem_of_refusal
    {effects : List Effect} {reason : CopyReason} {injection : Injection}
    {failure : TransportError}
    (refused : (reason, injection, failure) ∈ effects.filterMap refusal?) :
    .injected reason injection (.error failure) ∈ effects := by
  obtain ⟨effect, inEffects, isRefusal⟩ := List.mem_filterMap.1 refused
  unfold refusal? at isRefusal
  split at isRefusal
  · cases isRefusal
    exact inEffects
  · cases isRefusal

/-- The second of two redirects is refused, with a bounce still to come; the rules of
the second of two recipients cannot be read; and behind a redirect that is taken, the
forwarding rules of the second of those who are left cannot be read. -/
theorem refusing_breaksOff :
    ((refusing.processMail refusedMail ⟨(), 0, ⟨1⟩⟩).result = .error (.transport .closed) ∧
      (refusing.processMail refusedMail ⟨(), 0, ⟨1⟩⟩).state.acceptedInjections =
        [copyFor refusedMail ⟨1⟩ "bert"] ∧
      ∃ decisions, (refusing.decided refusedMail ⟨(), 0, ⟨1⟩⟩).1 = .ok decisions ∧
        (refusing.processMail refusedMail ⟨(), 0, ⟨1⟩⟩).BreaksOff refusing.settings refusedMail
          decisions .redirect (copyFor refusedMail ⟨2⟩ "dora")) ∧
    ((refusing.processMail unknownMail ⟨(), 0, ⟨1⟩⟩).result =
        .error (.lookup (.store "down")) ∧
      (refusing.processMail unknownMail ⟨(), 0, ⟨1⟩⟩).LeavesAlone unknownMail) ∧
    (refusing.processMail stoppedMail ⟨(), 0, ⟨1⟩⟩).result = .error (.lookup (.store "down")) ∧
      (refusing.processMail stoppedMail ⟨(), 0, ⟨1⟩⟩).state.acceptedInjections =
        [copyFor stoppedMail ⟨1⟩ "bert"] ∧
      ∃ decisions, (refusing.decided stoppedMail ⟨(), 0, ⟨1⟩⟩).1 = .ok decisions ∧
        (refusing.processMail stoppedMail ⟨(), 0, ⟨1⟩⟩).StopsBeforeForwarding refusing.settings
          stoppedMail decisions := by
  refine ⟨?_, ?_, ?_⟩
  · have refusals : (refusing.processMail refusedMail ⟨(), 0, ⟨1⟩⟩).state.trace.filterMap refusal? =
        [(.redirect, copyFor refusedMail ⟨2⟩ "dora", .closed)] := by
      decide +kernel
    have taken : (refusing.processMail refusedMail ⟨(), 0, ⟨1⟩⟩).state.acceptedInjections =
        [copyFor refusedMail ⟨1⟩ "bert"] := by
      decide +kernel
    have inTrace : .injected .redirect (copyFor refusedMail ⟨2⟩ "dora") (.error .closed) ∈
        (refusing.processMail refusedMail ⟨(), 0, ⟨1⟩⟩).state.trace :=
      mem_of_refusal (by rw [refusals]; exact List.mem_cons_self)
    obtain ⟨result, breaksOff⟩ := (processMail_atomic refusing refusedMail ⟨(), 0, ⟨1⟩⟩).2.1
      .redirect (copyFor refusedMail ⟨2⟩ "dora") .closed (Or.inl rfl) inTrace
    exact ⟨result, taken, breaksOff⟩
  · have unread : .store "down" ∈
        failedLookups (refusing.decided unknownMail ⟨(), 0, ⟨1⟩⟩).2.trace := by
      decide +kernel
    exact (processMail_atomic refusing unknownMail ⟨(), 0, ⟨1⟩⟩).1 (.store "down") unread
  · have decided : (refusing.decided stoppedMail ⟨(), 0, ⟨1⟩⟩).1 =
        .ok [⟨⟨"anne", .ofString "x.org"⟩, .success [], [⟨"bert", .ofString "y.org"⟩]⟩,
          .passThrough ⟨"gert", .ofString "x.org"⟩, .passThrough ⟨"ines", .ofString "x.org"⟩] := by
      decide +kernel
    have unread : .store "down" ∈
        failedLookups (refusing.processMail stoppedMail ⟨(), 0, ⟨1⟩⟩).state.trace := by
      decide +kernel
    have handed : (refusing.processMail stoppedMail ⟨(), 0, ⟨1⟩⟩).state.acceptedInjections =
        [copyFor stoppedMail ⟨1⟩ "bert"] := by
      decide +kernel
    obtain ⟨result, stops⟩ := (processMail_atomic refusing stoppedMail ⟨(), 0, ⟨1⟩⟩).2.2.1
      _ decided (.store "down") unread
    exact ⟨result, handed, _, decided, stops⟩

end Processor

end RecipientRewriting
