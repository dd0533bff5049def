import RecipientRewriting.Proofs.Forwarding.Removal

/-!
# Mails that are used up

A mail that the rewriting of recipients leaves without any becomes a ghost, and
nothing else that a pass does changes the state of a mail.  So forwarding, which
comes last, may take the last recipient off a mail that remains in its state.
-/

namespace RecipientRewriting

namespace Processor

variable {directoryWorld transportWorld : Type}
  {processor : Processor directoryWorld transportWorld} {mail changed : Mail}
  {surroundings : Surroundings directoryWorld transportWorld}

/-! ## What forwarding takes off -/

/-- Whoever is taken off has forwarding rules and has not forwarded the mail yet. -/
theorem Acts.forwards_of_remove
    {ledger : Ledger} {recipient removed : Address} {actions : List ForwardAction}
    (acts : processor.Acts ledger recipient actions)
    (removes : .remove removed ∈ actions) :
    processor.directory.Forwards removed ∧ removed ∉ ledger.addresses := by
  cases acts with
  | nothing => simp at removes
  | @decided source now rules completed named answered nonempty _ =>
      obtain ⟨rfl, unrecorded, _⟩ := ForwardAction.remove_mem_decide_iff.1 removes
      have forwards : processor.directory.Forwards removed :=
        ⟨source, now, rules, named, answered, nonempty⟩
      exact ⟨forwards, unrecorded⟩

/-- A second phase that comes to its end keeps the state of a mail, and takes off
only recipients that forward it. -/
theorem forwardingOf_takes
    {start last : PassState directoryWorld transportWorld}
    (supplied : start.Supplied processor.directory)
    (phase : (processor.forwardingOf mail).run start = (.ok changed, last)) :
    changed.state = mail.state ∧ changed.recipients ⊆ mail.recipients ∧
      ∀ recipient ∈ mail.recipients, recipient ∉ changed.recipients →
        forwards processor.settings mail = true ∧ processor.directory.Forwards recipient ∧
          recipient ∉ (Ledger.ofMail mail).addresses := by
  rcases forwardingOf_eq_ok supplied phase with rfl | ⟨applies, actions, _, acts, _, rfl⟩
  · refine ⟨rfl, List.Subset.refl _, ?_⟩
    intro recipient before after
    exact absurd before after
  · refine ⟨rfl, List.filter_subset_self mail.recipients, ?_⟩
    intro recipient before after
    obtain ⟨_, part, actsOn, removes, _⟩ := acts _ (mem_removed_of_not_mem before after)
    exact ⟨applies, actsOn.forwards_of_remove removes⟩

/-! ## States -/

theorem state_rewrittenBy (mail : Mail) (decisions : List Decision) :
    (rewrittenBy mail decisions).state =
      if (rewrittenBy mail decisions).recipients = [] then .ghost else mail.state :=
  rfl

/-- A first phase that comes to its end makes a ghost of a mail to nobody, and
leaves the ledger of the mail alone. -/
theorem Rewrites.state_eq
    {decisions : List Decision} {rewritten : Processed directoryWorld transportWorld}
    (rewrites : processor.Rewrites mail decisions rewritten) :
    rewritten.mail.state = (if rewritten.mail.recipients = [] then .ghost else mail.state) ∧
      Ledger.ofMail rewritten.mail = Ledger.ofMail mail := by
  rw [rewrites.replaced]
  exact ⟨state_rewrittenBy mail decisions, ofMail_rewrittenBy mail decisions⟩

/-- What a pass that comes to its end does to a mail once recipients are rewritten. -/
theorem processMail_takes
    (succeeds : (processor.processMail mail surroundings).result = .ok ()) :
    let rewritten := processor.rewriting mail surroundings
    let processed := processor.processMail mail surroundings
    processed.mail.state =
        (if rewritten.mail.recipients = [] then .ghost else mail.state) ∧
      processed.mail.recipients ⊆ rewritten.mail.recipients ∧
      ∀ recipient ∈ rewritten.mail.recipients, recipient ∉ processed.mail.recipients →
        forwards processor.settings rewritten.mail = true ∧
          processor.directory.Forwards recipient ∧
          recipient ∉ (Ledger.ofMail mail).addresses := by
  intro rewritten processed
  obtain ⟨rewrote, phases⟩ := rewriting_of_processMail succeeds
  obtain ⟨decisions, rewrites⟩ := exists_rewrites rewrote
  obtain ⟨state, sameLedger⟩ := rewrites.state_eq
  have phase : (processor.forwardingOf rewritten.mail).run rewritten.state =
      (.ok processed.mail, processed.state) := by
    have second := phases ▸ succeeds
    rw [show processed = _ from phases]
    exact (processor.applyForwards_amounts _).run_eq_ok second
  have takes := forwardingOf_takes rewrites.supplied phase
  rw [state, sameLedger] at takes
  exact takes

/-- If a pass comes to its end and somebody is left, the mail keeps its state.  It
becomes a ghost, with nobody left, if the rewriting of recipients leaves nobody.
If somebody is left by this and nobody by forwarding, the mail keeps its state as
well; this takes forwarding rules for each who was left, and that none of them has
forwarded the mail before. -/
theorem ghosts_unless_forwarded
    (processor : Processor directoryWorld transportWorld) (mail : Mail)
    (surroundings : Surroundings directoryWorld transportWorld)
    (succeeds : (processor.processMail mail surroundings).result = .ok ()) :
    let rewritten := processor.rewriting mail surroundings
    let processed := processor.processMail mail surroundings
    (processed.mail.recipients ≠ [] → processed.mail.state = mail.state) ∧
    (rewritten.mail.recipients = [] →
      processed.mail.recipients = [] ∧ processed.mail.state = .ghost) ∧
    (rewritten.mail.recipients ≠ [] → processed.mail.recipients = [] →
      processed.mail.state = mail.state ∧ forwards processor.settings rewritten.mail = true ∧
        ∀ recipient ∈ rewritten.mail.recipients, processor.directory.Forwards recipient ∧
          recipient ∉ (Ledger.ofMail mail).addresses) := by
  intro rewritten processed
  obtain ⟨state, fewer, takenOff⟩ := processMail_takes succeeds
  by_cases nobody : rewritten.mail.recipients = []
  · have nobodyLeft : processed.mail.recipients = [] :=
      List.eq_nil_of_subset_nil (nobody ▸ fewer)
    rw [if_pos nobody] at state
    refine ⟨fun left => absurd nobodyLeft left, fun _ => ⟨nobodyLeft, state⟩, ?_⟩
    exact fun somebody => absurd nobody somebody
  · rw [if_neg nobody] at state
    refine ⟨fun _ => state, fun none => absurd none nobody, ?_⟩
    intro _ nobodyLeft
    have each : ∀ recipient ∈ rewritten.mail.recipients,
        forwards processor.settings rewritten.mail = true ∧
          processor.directory.Forwards recipient ∧
          recipient ∉ (Ledger.ofMail mail).addresses := by
      intro recipient before
      apply takenOff recipient before
      rw [show processed.mail.recipients = [] from nobodyLeft]
      exact List.not_mem_nil
    obtain ⟨somebody, member⟩ := List.exists_mem_of_ne_nil _ nobody
    have applies := (each somebody member).1
    exact ⟨state, applies, fun recipient before => (each recipient before).2⟩

end Processor

/-! ## A mail that is forwarded away, in either phase -/

/-- A processor that forwards while recipients are rewritten. -/
def earlyForwarder : Processor Unit Recorder :=
  { forwarder "b@y.org" with settings := ⟨false, true, .error, none⟩ }

theorem earlyForwarder_ghosts :
    (earlyForwarder.processMail forwardedMail ⟨(), .empty, ⟨1⟩⟩).result = .ok () ∧
      (earlyForwarder.rewriting forwardedMail ⟨(), .empty, ⟨1⟩⟩).mail.recipients = [] ∧
      (earlyForwarder.processMail forwardedMail ⟨(), .empty, ⟨1⟩⟩).mail.recipients = [] ∧
      (earlyForwarder.processMail forwardedMail ⟨(), .empty, ⟨1⟩⟩).mail.state = .ghost := by
  have succeeds :
      (earlyForwarder.processMail forwardedMail ⟨(), .empty, ⟨1⟩⟩).result = .ok () := by
    decide +kernel
  have nobody :
      (earlyForwarder.rewriting forwardedMail ⟨(), .empty, ⟨1⟩⟩).mail.recipients = [] := by
    decide +kernel
  obtain ⟨_, ghosted, _⟩ := earlyForwarder.ghosts_unless_forwarded forwardedMail _ succeeds
  exact ⟨succeeds, nobody, ghosted nobody⟩

/-- Forwarding that comes behind the rewriting leaves the mail to nobody, in the
state it had. -/
theorem forwarder_ghosts_not :
    ((forwarder "b@y.org").processMail forwardedMail ⟨(), .empty, ⟨1⟩⟩).result = .ok () ∧
      ((forwarder "b@y.org").processMail forwardedMail ⟨(), .empty, ⟨1⟩⟩).mail.recipients = [] ∧
      ((forwarder "b@y.org").processMail forwardedMail ⟨(), .empty, ⟨1⟩⟩).mail.state = .root ∧
      ((forwarder "b@y.org").processMail forwardedMail ⟨(), .empty, ⟨1⟩⟩).mail.state ≠
        .ghost := by
  decide +kernel

end RecipientRewriting
