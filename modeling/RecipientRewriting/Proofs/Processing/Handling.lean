import RecipientRewriting.Proofs.Processing.Ensures

/-!
# Changing a mail in place

What a handling has changed of a mail stays changed when it fails.  Both phases of a
pass ask and hand copies over first, and change the mail only where nothing can fail
any more.  So each of them amounts to a computation that yields the changed mail
without having one in hand, and a phase that fails leaves the mail as it has found it.
-/

namespace RecipientRewriting

variable {directoryWorld transportWorld alpha : Type}

namespace Handling

variable {handling first : Handling directoryWorld transportWorld Unit}
  {mail middle changed : Mail}

/-! ## Changes -/

/-- The handling turns one mail into another one and does nothing else. -/
def Changes (handling : Handling directoryWorld transportWorld Unit) (mail changed : Mail) :
    Prop :=
  ∀ pass, handling.run ⟨mail, pass⟩ = (.ok (), ⟨changed, pass⟩)

/-! ## Yielding the changed mail -/

/-- The handling does with its surroundings what `yielding` does.  It turns the mail
into the one that this yields, and leaves it as it is if this fails. -/
def Amounts (handling : Handling directoryWorld transportWorld Unit) (mail : Mail)
    (yielding : Pass directoryWorld transportWorld Mail) : Prop :=
  ∀ pass, handling.run ⟨mail, pass⟩ =
    match yielding.run pass with
    | (.ok changed, last) => (.ok (), ⟨changed, last⟩)
    | (.error failure, last) => (.error failure, ⟨mail, last⟩)

theorem Changes.amounts (change : handling.Changes mail changed) :
    handling.Amounts mail (pure changed) :=
  change

theorem amounts_step
    {step : Pass directoryWorld transportWorld alpha}
    {next : alpha → Handling directoryWorld transportWorld Unit}
    {yielding : alpha → Pass directoryWorld transportWorld Mail}
    (later : ∀ value, (next value).Amounts mail (yielding value)) :
    (ofPass step >>= next).Amounts mail (step >>= yielding) := by
  intro pass
  have taken : (ofPass step).run ⟨mail, pass⟩ =
      ((step.run pass).1, ⟨mail, (step.run pass).2⟩) :=
    rfl
  cases outcome : step.run pass with
  | mk result last =>
      rw [outcome] at taken
      cases result with
      | ok value =>
          rw [Pass.run_bind_of_ok taken, Pass.run_bind_of_ok outcome]
          exact later value last
      | error failure =>
          rw [Pass.run_bind_of_error taken, Pass.run_bind_of_error outcome]

theorem amounts_ofPass (step : Pass directoryWorld transportWorld Unit) (mail : Mail) :
    (ofPass step).Amounts mail (step >>= fun _ => pure mail) := by
  rw [← bind_pure (ofPass step)]
  exact amounts_step fun _ => Changes.amounts fun _ => rfl

theorem amounts_read
    {next : Mail → Handling directoryWorld transportWorld Unit}
    {yielding : Pass directoryWorld transportWorld Mail}
    (later : (next mail).Amounts mail yielding) :
    (Handling.mail >>= next).Amounts mail yielding := by
  intro pass
  rw [Pass.run_bind_of_ok (rfl : Handling.mail.run ⟨mail, pass⟩ = (.ok mail, ⟨mail, pass⟩))]
  exact later pass

/-- A change may stand only in front of what cannot fail, for otherwise it would stay
when that fails. -/
theorem Changes.amounts_bind
    {next : Unit → Handling directoryWorld transportWorld Unit}
    {yielding : Pass directoryWorld transportWorld Mail}
    (change : first.Changes mail middle) (later : (next ()).Amounts middle yielding)
    (sure : yielding.Succeeds fun _ _ => True) :
    (first >>= next).Amounts mail yielding := by
  intro pass
  rw [Pass.run_bind_of_ok (change pass), later pass]
  obtain ⟨_, _, value, succeeds, _⟩ := sure pass
  cases outcome : yielding.run pass with
  | mk result last =>
      obtain rfl : result = .ok value := by simpa [outcome] using succeeds
      rfl

/-! ## Handled mails -/

variable {yielding : Pass directoryWorld transportWorld Mail}
  {start last : PassState directoryWorld transportWorld}

theorem Amounts.handle_of_ok
    (amounts : handling.Amounts mail yielding)
    (outcome : yielding.run start = (.ok changed, last)) :
    Processor.handle handling mail start = ⟨.ok (), changed, last⟩ := by
  rw [Processor.handle, amounts start, outcome]

theorem Amounts.handle_of_error
    {failure : ProcessingError}
    (amounts : handling.Amounts mail yielding)
    (outcome : yielding.run start = (.error failure, last)) :
    Processor.handle handling mail start = ⟨.error failure, mail, last⟩ := by
  rw [Processor.handle, amounts start, outcome]

/-- The mail is left alone unless the handling comes to its end. -/
theorem Amounts.handle_eq
    (amounts : handling.Amounts mail yielding)
    (start : PassState directoryWorld transportWorld) :
    Processor.handle handling mail start =
      ⟨(yielding.run start).1.map fun _ => (), (yielding.run start).1.toOption.getD mail,
        (yielding.run start).2⟩ := by
  cases outcome : yielding.run start with
  | mk result last =>
      cases result with
      | ok changed => exact amounts.handle_of_ok outcome
      | error failure => exact amounts.handle_of_error outcome

theorem Amounts.run_eq_ok
    (amounts : handling.Amounts mail yielding)
    (succeeds : (Processor.handle handling mail start).result = .ok ()) :
    yielding.run start = (.ok (Processor.handle handling mail start).mail,
      (Processor.handle handling mail start).state) := by
  cases outcome : yielding.run start with
  | mk result last =>
      cases result with
      | error failure => simp [amounts.handle_of_error outcome] at succeeds
      | ok changed => rw [amounts.handle_of_ok outcome]

end Handling

namespace Processor

/-! ## The first phase -/

/-- The mail as its decisions rewrite it: to the recipients that remain, with what was
asked for about the others handed on to them.  Without any recipient it is used up. -/
def rewrittenBy (mail : Mail) (decisions : List Decision) : Mail :=
  { mail with
    envelope :=
      { mail.envelope with recipients := (Aggregate.ofDecisions decisions).newRecipients }
    state := if (Aggregate.ofDecisions decisions).newRecipients = [] then .ghost else mail.state
    dsn := mail.dsn.map fun parameters => parameters.handOn decisions }

/-- The first phase of a pass behind the point where every recipient has been decided
on. -/
def rewriteBy (processor : Processor directoryWorld transportWorld) (mail : Mail)
    (decisions : List Decision) : Pass directoryWorld transportWorld Mail := do
  processor.redirect mail decisions
  processor.bounce mail (Aggregate.ofDecisions decisions).rejectedRecipients
  Pass.audit (Audit.recipientsRewritten processor.audit mail.recipients
    (rewrittenBy mail decisions))
  pure (rewrittenBy mail decisions)

/-- The first phase, yielding the mail as it is rewritten. -/
def rewritingOf (processor : Processor directoryWorld transportWorld) (mail : Mail) :
    Pass directoryWorld transportWorld Mail :=
  processor.decideAll mail.recipients >>= processor.rewriteBy mail

theorem deliverTo_changes (mail : Mail) (decisions : List Decision) :
    (deliverTo (Aggregate.ofDecisions decisions).newRecipients decisions :
      Handling directoryWorld transportWorld Unit).Changes mail (rewrittenBy mail decisions) := by
  intro pass
  unfold deliverTo rewrittenBy
  obtain ⟨name, envelope, data, state, attributes, dsn⟩ := mail
  cases (Aggregate.ofDecisions decisions).newRecipients with
  | nil =>
      cases dsn with
      | none => rfl
      | some parameters => rfl
  | cons recipient rest =>
      cases dsn with
      | none => rfl
      | some parameters => rfl

/-- All that may fail in the first phase stands in front of its changes. -/
theorem replaceRecipients_amounts
    (processor : Processor directoryWorld transportWorld) (mail : Mail) :
    processor.replaceRecipients.Amounts mail (processor.rewritingOf mail) := by
  refine Handling.amounts_read ?_
  refine Handling.amounts_step fun decisions => ?_
  refine Handling.amounts_read (Handling.amounts_step fun _ => ?_)
  refine Handling.amounts_read (Handling.amounts_step fun _ => ?_)
  refine (deliverTo_changes mail decisions).amounts_bind
    (Handling.amounts_read (Handling.amounts_ofPass _ _)) ?_
  exact (Pass.audit_succeeds _).bind fun _ _ _ => Pass.succeeds_pure trivial

/-! ## The second phase -/

def withoutRemoved (mail : Mail) (actions : List ForwardAction) : Mail :=
  let removed := actions.filterMap ForwardAction.removed?
  mail.withRecipients (mail.recipients.filter fun recipient => !removed.contains recipient)

/-- The second phase, yielding the mail without the recipients that forward it. -/
def forwardingOf (processor : Processor directoryWorld transportWorld) (mail : Mail) :
    Pass directoryWorld transportWorld Mail :=
  if forwards processor.settings mail then do
    let ledger := Ledger.ofMail mail
    let actions ← processor.allForwardActions ledger mail.recipients
    processor.carryOutAll mail ledger actions
    pure (withoutRemoved mail actions)
  else
    pure mail

theorem removeRecipients_changes (mail : Mail) (actions : List ForwardAction) :
    (removeRecipients (actions.filterMap ForwardAction.removed?) :
      Handling directoryWorld transportWorld Unit).Changes mail (withoutRemoved mail actions) := by
  intro pass
  unfold removeRecipients withoutRemoved
  cases actions.filterMap ForwardAction.removed? with
  | nil =>
      have all : mail.recipients.filter
          (fun recipient => !([] : List Address).contains recipient) = mail.recipients :=
        List.filter_eq_self.2 fun _ _ => rfl
      dsimp only
      rw [all]
      rfl
  | cons recipient rest => rfl

theorem applyForwards_amounts
    (processor : Processor directoryWorld transportWorld) (mail : Mail) :
    processor.applyForwards.Amounts mail (processor.forwardingOf mail) := by
  refine Handling.amounts_read ?_
  unfold forwardingOf
  split
  · refine Handling.amounts_read (Handling.amounts_read (Handling.amounts_step fun actions => ?_))
    refine Handling.amounts_read (Handling.amounts_step fun _ => ?_)
    exact (removeRecipients_changes mail actions).amounts
  · exact Handling.Changes.amounts fun _ => rfl

/-! ## Both phases -/

/-- The first phase of a pass on its own. -/
def rewriting (processor : Processor directoryWorld transportWorld) (mail : Mail)
    (surroundings : Surroundings directoryWorld transportWorld) :
    Processed directoryWorld transportWorld :=
  handle processor.replaceRecipients mail (.start surroundings)

section Both

variable {first second : Handling directoryWorld transportWorld Unit} {mail : Mail}
  {state : PassState directoryWorld transportWorld}

theorem handle_bind_of_ok
    (succeeds : (handle first mail state).result = .ok ()) :
    handle (first >>= fun _ => second) mail state =
      handle second (handle first mail state).mail (handle first mail state).state := by
  unfold handle at succeeds ⊢
  cases outcome : first.run ⟨mail, state⟩ with
  | mk result inHand =>
      obtain rfl : result = .ok () := by simpa [outcome] using succeeds
      rw [Pass.run_bind_of_ok outcome]

theorem handle_bind_of_error
    {failure : ProcessingError} (fails : (handle first mail state).result = .error failure) :
    handle (first >>= fun _ => second) mail state = handle first mail state := by
  unfold handle at fails ⊢
  cases outcome : first.run ⟨mail, state⟩ with
  | mk result inHand =>
      obtain rfl : result = .error failure := by simpa [outcome] using fails
      rw [Pass.run_bind_of_error outcome]

end Both

variable {processor : Processor directoryWorld transportWorld} {mail : Mail}
  {surroundings : Surroundings directoryWorld transportWorld}

theorem processMail_of_ok
    (rewritten : (processor.rewriting mail surroundings).result = .ok ()) :
    processor.processMail mail surroundings =
      handle processor.applyForwards (processor.rewriting mail surroundings).mail
        (processor.rewriting mail surroundings).state :=
  handle_bind_of_ok rewritten

theorem processMail_of_error
    {failure : ProcessingError}
    (failed : (processor.rewriting mail surroundings).result = .error failure) :
    processor.processMail mail surroundings = processor.rewriting mail surroundings :=
  handle_bind_of_error failed

/-- A pass that comes to its end has come to the end of its first phase. -/
theorem rewriting_of_processMail
    (succeeds : (processor.processMail mail surroundings).result = .ok ()) :
    (processor.rewriting mail surroundings).result = .ok () ∧
      processor.processMail mail surroundings =
        handle processor.applyForwards (processor.rewriting mail surroundings).mail
          (processor.rewriting mail surroundings).state := by
  cases result : (processor.rewriting mail surroundings).result with
  | ok done => exact ⟨rfl, processMail_of_ok result⟩
  | error failure =>
      rw [processMail_of_error result, result] at succeeds
      cases succeeds

end Processor

end RecipientRewriting
