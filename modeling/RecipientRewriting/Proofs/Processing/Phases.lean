import RecipientRewriting.Proofs.Forwarding.Hop
import RecipientRewriting.Proofs.Processing.Answers
import RecipientRewriting.Proofs.Processing.Atomicity

/-!
# What a phase has done

A first phase that comes to its end has decided on every recipient by what the
directory answers, and has had every copy taken that its decisions ask for.  A
pass that comes to its end has gone through such a first phase, and its second
phase has made no more copies of this sort.
-/

namespace RecipientRewriting

/-! ## Copies by reason -/

/-- A copy that the transport has taken, and why it was made. -/
def Effect.taken? : Effect → Option (CopyReason × Injection)
  | injected reason injection (.ok ()) => some (reason, injection)
  | _ => none

theorem Effect.taken?_eq_some_iff
    {effect : Effect} {copy : CopyReason × Injection} :
    effect.taken? = some copy ↔ effect = .injected copy.1 copy.2 (.ok ()) := by
  constructor
  · intro taken
    unfold taken? at taken
    split at taken
    · cases taken
      rfl
    · cases taken
  · rintro rfl
    rfl

/-- The recipients of the copies that were made for a reason and taken, copy by
copy. -/
def copyRecipients (reason : CopyReason) (effects : List Effect) : List (List Address) :=
  ((effects.filterMap Effect.taken?).filter fun copy => copy.1 = reason).map fun copy =>
    copy.2.mail.recipients

theorem copyRecipients_append (reason : CopyReason) (before behind : List Effect) :
    copyRecipients reason (before ++ behind) =
      copyRecipients reason before ++ copyRecipients reason behind := by
  simp [copyRecipients]

/-- Effects among which nothing is injected for a reason have no copies for it. -/
theorem copyRecipients_eq_nil
    {reason : CopyReason} {effects : List Effect}
    (absent : ∀ injection answer, .injected reason injection answer ∉ effects) :
    copyRecipients reason effects = [] := by
  rw [copyRecipients, List.map_eq_nil_iff, List.filter_eq_nil_iff]
  intro copy member
  obtain ⟨effect, inEffects, taken⟩ := List.mem_filterMap.1 member
  obtain rfl := Effect.taken?_eq_some_iff.1 taken
  intro same
  obtain rfl : copy.1 = reason := by simpa using same
  exact absent copy.2 (.ok ()) inEffects

theorem copyRecipients_of_questions
    {effects : List Effect} (reason : CopyReason)
    (questions : ∀ effect ∈ effects, effect.IsQuestion) :
    copyRecipients reason effects = [] :=
  copyRecipients_eq_nil fun _ _ member => questions _ member

theorem copyRecipients_of_events (reason : CopyReason) (events : List AuditEvent) :
    copyRecipients reason (events.map .audited) = [] :=
  copyRecipients_eq_nil fun _ _ => by simp

/-- A plan that is finished has had its copies made, each for its reason. -/
theorem HandsOver.copyRecipients_eq
    {settings : ProcessorSettings} {mail : Mail} {plan : List PlannedCopy} {added : List Effect}
    (hands : HandsOver settings mail plan (.ok ()) added) (reason : CopyReason) :
    copyRecipients reason added =
      (plan.filter fun planned => planned.reason = reason).map PlannedCopy.recipients := by
  generalize ending : (Except.ok () : Except ProcessingError Unit) = finished at hands
  induction hands with
  | finished => rfl
  | refused name failure => simp at ending
  | @accepted planned rest result added name hands inductionHypothesis =>
      have later := inductionHypothesis ending
      unfold copyRecipients at later ⊢
      by_cases same : planned.reason = reason
      · simp [Effect.taken?, same, later, PlannedCopy.recipients_injection]
      · simp [Effect.taken?, same, later]

namespace PlannedCopy

theorem filter_plan_redirect (decisions : List Decision) :
    (plan decisions).filter (fun planned => planned.reason = .redirect) =
      redirects decisions := by
  have redirected : (redirects decisions).filter (fun planned => planned.reason = .redirect) =
      redirects decisions := by
    refine List.filter_eq_self.2 ?_
    intro planned member
    obtain ⟨decision, _, rfl⟩ := List.mem_map.1 member
    rfl
  have bounced (rejected : List Address) :
      (bounces rejected).filter (fun planned => planned.reason = .redirect) = [] := by
    cases rejected <;> rfl
  rw [plan, List.filter_append, redirected, bounced, List.append_nil]

theorem filter_plan_bounce (decisions : List Decision) :
    (plan decisions).filter (fun planned => planned.reason = .bounce) =
      bounces (Aggregate.ofDecisions decisions).rejectedRecipients := by
  have redirected : (redirects decisions).filter (fun planned => planned.reason = .bounce) =
      [] := by
    refine List.filter_eq_nil_iff.2 ?_
    intro planned member
    obtain ⟨decision, _, rfl⟩ := List.mem_map.1 member
    simp
  have bounced (rejected : List Address) :
      (bounces rejected).filter (fun planned => planned.reason = .bounce) =
        bounces rejected := by
    cases rejected <;> rfl
  rw [plan, List.filter_append, redirected, bounced, List.nil_append]

end PlannedCopy

namespace Processor

variable {directoryWorld transportWorld : Type}
  {processor : Processor directoryWorld transportWorld} {mail : Mail}
  {surroundings : Surroundings directoryWorld transportWorld}

theorem Forwarding.copyRecipients_eq_nil
    {result : Except ProcessingError Unit} {added : List Effect} {reason : CopyReason}
    (forwarding : processor.Forwarding mail result added)
    (planned : reason = .redirect ∨ reason = .bounce) :
    copyRecipients reason added = [] := by
  refine RecipientRewriting.copyRecipients_eq_nil ?_
  intro injection answer member
  have later := Forwarding.reason_of_injected forwarding member
  rcases planned with rfl | rfl <;> simp at later

/-! ## The first phase -/

/-- A first phase has come to its end with these decisions. -/
structure Rewrites (processor : Processor directoryWorld transportWorld) (mail : Mail)
    (decisions : List Decision) (rewritten : Processed directoryWorld transportWorld) :
    Prop where
  each : decisions.map Decision.recipient = mail.recipients
  decides : ∀ decision ∈ decisions, processor.Decides decision.recipient decision
  replaced : rewritten.mail = rewrittenBy mail decisions
  copies : ∀ reason, copyRecipients reason rewritten.state.trace =
    ((PlannedCopy.plan decisions).filter fun planned => planned.reason = reason).map
      PlannedCopy.recipients
  supplied : rewritten.state.Supplied processor.directory

theorem redirect_yields (mail : Mail) (decisions : List Decision) :
    (processor.redirect mail decisions).Yields processor.directory fun _ => True := by
  induction decisions with
  | nil => exact Pass.yields_pure trivial
  | cons decision rest inductionHypothesis =>
      rw [redirect]
      split
      · refine Pass.yields_bind (Pass.duplicate_yields mail) fun copy _ => ?_
        exact Pass.yields_bind (processor.injectOrFail_yields _ _ _) fun _ _ =>
          inductionHypothesis
      · exact inductionHypothesis

theorem bounce_yields (mail : Mail) (rejected : List Address) :
    (processor.bounce mail rejected).Yields processor.directory fun _ => True := by
  unfold bounce
  split
  · refine Pass.yields_bind (Pass.duplicate_yields mail) fun copy _ => ?_
    exact processor.injectOrFail_yields _ _ _
  · exact Pass.yields_pure trivial

theorem rewriteBy_yields (mail : Mail) (decisions : List Decision) :
    (processor.rewriteBy mail decisions).Yields processor.directory fun _ => True := by
  refine Pass.yields_bind (redirect_yields mail decisions) fun _ _ => ?_
  refine Pass.yields_bind (bounce_yields mail _) fun _ _ => ?_
  exact Pass.yields_bind (Pass.audit_yields _) fun _ _ => Pass.yields_pure trivial

/-- A first phase that comes to its end has done what its decisions say. -/
theorem exists_rewrites
    (succeeds : (processor.rewriting mail surroundings).result = .ok ()) :
    ∃ decisions, processor.Rewrites mail decisions (processor.rewriting mail surroundings) := by
  have phase := (processor.replaceRecipients_amounts mail).run_eq_ok succeeds
  rw [rewritingOf, Pass.run_bind_eq_ok_iff] at phase
  obtain ⟨decisions, asked, decision, rewrote⟩ := phase
  have decidedBy := (processor.decideAll_yields mail.recipients).of_run
    (PassState.start_supplied surroundings _) decision
  obtain ⟨askedSupplied, each, decides⟩ := decidedBy
  obtain ⟨questions, askedTrace, onlyQuestions, _⟩ :=
    processor.decideAll_asks mail.recipients (.start surroundings)
  obtain ⟨added, trace, rewriting⟩ := rewriteBy_ensures processor mail decisions asked
  rw [decision] at askedTrace
  rw [rewrote] at trace rewriting
  obtain ⟨changed, handed, hands, rfl⟩ := rewriting
  obtain ⟨supplied, _⟩ := (rewriteBy_yields mail decisions).of_run askedSupplied rewrote
  refine ⟨decisions, each, decides, changed, ?_, supplied⟩
  intro reason
  have asks : copyRecipients reason asked.trace = [] := by
    rw [show asked.trace = questions from by simpa [PassState.start] using askedTrace]
    exact copyRecipients_of_questions reason fun effect member =>
      (onlyQuestions effect member).isQuestion
  have whole : (processor.rewriting mail surroundings).state.trace =
      asked.trace ++ (handed ++ (Audit.recipientsRewritten processor.audit mail.recipients
        (rewrittenBy mail decisions)).map .audited) := trace
  rw [whole, copyRecipients_append, copyRecipients_append, copyRecipients_of_events, asks,
    hands.copyRecipients_eq, List.nil_append, List.append_nil]

/-! ## The second phase -/

/-- A second phase that comes to its end has carried out what it decided on, unless
the mail is not to be forwarded. -/
theorem forwardingOf_eq_ok
    {changed : Mail} {start last : PassState directoryWorld transportWorld}
    (supplied : start.Supplied processor.directory)
    (phase : (processor.forwardingOf mail).run start = (.ok changed, last)) :
    changed = mail ∨
      forwards processor.settings mail = true ∧ ∃ actions asked,
        processor.ActsOnEach (Ledger.ofMail mail) actions ∧
        (processor.carryOutAll mail (Ledger.ofMail mail) actions).run asked = (.ok (), last) ∧
        changed = withoutRemoved mail actions := by
  unfold forwardingOf at phase
  by_cases applies : forwards processor.settings mail = true
  · rw [if_pos applies] at phase
    obtain ⟨actions, asked, decided, carried⟩ := Pass.run_bind_eq_ok_iff.1 phase
    obtain ⟨done, reached, performed, finished⟩ := Pass.run_bind_eq_ok_iff.1 carried
    cases finished
    obtain ⟨_, acts⟩ := (processor.allForwardActions_yields _ _).of_run supplied decided
    exact Or.inr ⟨applies, actions, asked, acts, performed, rfl⟩
  · rw [if_neg applies] at phase
    cases phase
    exact Or.inl rfl

/-! ## Both phases -/

/-- The second phase adds no copies to those of the first one. -/
theorem copyRecipients_processMail
    {reason : CopyReason}
    (succeeds : (processor.processMail mail surroundings).result = .ok ())
    (planned : reason = .redirect ∨ reason = .bounce) :
    copyRecipients reason (processor.processMail mail surroundings).state.trace =
      copyRecipients reason (processor.rewriting mail surroundings).state.trace := by
  obtain ⟨_, phases⟩ := rewriting_of_processMail succeeds
  obtain ⟨result, remaining, last, added, phase, trace, forwarding, _⟩ :=
    handle_applyForwards processor (processor.rewriting mail surroundings).mail
      (processor.rewriting mail surroundings).state
  rw [phases, phase]
  dsimp only
  rw [trace, copyRecipients_append, Forwarding.copyRecipients_eq_nil forwarding planned,
    List.append_nil]

end Processor

end RecipientRewriting
