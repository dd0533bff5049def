import RecipientRewriting.Proofs.Forwarding.Lineage
import RecipientRewriting.Proofs.Processing.Fates

/-!
# Copies that come back

A copy without a state of its own comes back as a mail to be processed.  If
rewriting alone never leaves the local domains, no pass redirects anybody, and
all copies that come back have been forwarded.
-/

namespace RecipientRewriting

/-! ## Directories of a table -/

/-- A directory answers, as far as it does, as a table and a set of domains do. -/
structure Directory.Represents {world : Type} (directory : Directory world) (table : RuleTable)
    (isLocal : Domain → Bool) : Prop where
  resolves : ∀ source kinds now resolution,
    (directory.resolve source kinds now).1.answer = .ok resolution →
      table.resolve source kinds = .ok resolution
  serves : directory.Serves table
  locates : ∀ domain now, (directory.isLocal domain now).1 = isLocal domain

/-- Rules other than forwarding rules lead to local domains only, whether their
targets have a domain or get one from the directory. -/
structure Directory.RewritesLocally {world : Type} (directory : Directory world)
    (table : RuleTable) (isLocal : Domain → Bool) : Prop where
  named : ∀ address, ∀ rule ∈ table.effectiveRules address, rule.kind ≠ .forward →
    ∀ target, table.targetOf rule address = .ok (some target) → isLocal target.domain = true
  supplied : ∀ address, ∀ rule ∈ table.effectiveRules address, rule.kind ≠ .forward →
    rule.needsDomain = true → ∀ domain, directory.Supplies domain →
      ∀ target, (rule.completeWith domain).address? = some target →
        isLocal target.domain = true

theorem Directory.ofTable_represents (table : RuleTable) (domains : DomainList) :
    (ofTable table domains).Represents table domains.isLocal where
  resolves _ _ _ _ answered := answered
  serves := ofTable_serves table domains
  locates _ _ := rfl

theorem RuleTable.exists_stored_of_effective
    {table : RuleTable} {address : Address} {rule : Rule}
    (effective : rule ∈ table.effectiveRules address) :
    ∃ source, rule ∈ table.stored source := by
  obtain ⟨source, _, own | ⟨_, everyone⟩⟩ := mem_effectiveRules.1 effective
  · exact ⟨source, own⟩
  · exact ⟨.anyone address.domain, everyone⟩

/-- Rewriting leads nowhere in a table that has forwarding rules only. -/
theorem Directory.rewritesLocally_of_forward
    {world : Type} {table : RuleTable} (directory : Directory world) (isLocal : Domain → Bool)
    (forward : ∀ entry ∈ table.allRules, ∀ rule ∈ entry.2, rule.kind = .forward) :
    directory.RewritesLocally table isLocal := by
  have only : ∀ address, ∀ rule ∈ table.effectiveRules address, rule.kind = .forward := by
    intro address rule effective
    obtain ⟨source, stored⟩ := RuleTable.exists_stored_of_effective effective
    obtain ⟨rules, entry, member⟩ := RuleTable.exists_mem_allRules stored
    exact forward (source, rules) entry rule member
  constructor
  · intro address rule effective other
    exact absurd (only address rule effective) other
  · intro address rule effective other
    exact absurd (only address rule effective) other

theorem kind_ne_forward_of_applicable
    {table : RuleTable} {settings : ProcessorSettings} {address : Address} {rule : Rule}
    (separately : settings.forwardSeparately = true)
    (applies : rule ∈ table.applicable settings.kinds address) :
    rule ∈ table.effectiveRules address ∧ rule.kind ≠ .forward := by
  obtain ⟨effective, contained⟩ := List.mem_filter.1 applies
  rw [ProcessorSettings.kinds, if_pos separately] at contained
  exact ⟨effective, by simpa [KindSet.excluding, KindSet.all] using contained⟩

theorem Directory.exists_completes
    {world : Type} {directory : Directory world} {rules completed : RuleList} {rule : Rule}
    (completes : List.Forall₂ directory.Completes rules completed)
    (member : rule ∈ completed) :
    ∃ stored ∈ rules, directory.Completes stored rule := by
  induction completes with
  | nil => simp at member
  | @cons stored _ rest _ first _ inductionHypothesis =>
      rcases List.mem_cons.1 member with rfl | later
      · exact ⟨stored, List.mem_cons_self, first⟩
      · obtain ⟨other, inRest, completion⟩ := inductionHypothesis later
        exact ⟨other, List.mem_cons_of_mem stored inRest, completion⟩

/-- What rules of an answer name once they are completed is local. -/
theorem Directory.RewritesLocally.isLocal_of_completes
    {world : Type} {directory : Directory world} {table : RuleTable} {isLocal : Domain → Bool}
    {settings : ProcessorSettings} {rule completed : Rule} {target : Address}
    (locally : directory.RewritesLocally table isLocal)
    (separately : settings.forwardSeparately = true)
    (origin : table.Origin settings.kinds rule)
    (completes : directory.Completes rule completed)
    (names : completed.address? = some target) :
    isLocal target.domain = true := by
  cases origin with
  | incomplete applies lacking =>
      obtain ⟨effective, notForward⟩ := kind_ne_forward_of_applicable separately applies
      cases completes with
      | whole complete => simp [RuleTable.lacksDomain, complete] at lacking
      | supplied needs supplies =>
          exact locally.supplied _ rule effective notForward needs _ supplies target names
  | @arrival middle reached stored applies sends =>
      obtain ⟨effective, notForward⟩ := kind_ne_forward_of_applicable separately applies
      have complete := RuleTable.forAddress_complete (RuleTable.answerKind stored.kind) reached
      cases completes with
      | supplied needs supplies => simp [complete] at needs
      | whole _ =>
          rw [Rule.address?_forAddress (RuleTable.answerKind_ne_error stored.kind)
            (RuleTable.targetOf_isParsed sends)] at names
          obtain rfl : reached = target := by simpa using names
          exact locally.named middle stored effective notForward reached sends

namespace Processor

variable {directoryWorld transportWorld : Type}
  {processor : Processor directoryWorld transportWorld} {table : RuleTable}
  {isLocal : Domain → Bool}

/-- A pass redirects nobody if rewriting alone never leaves the local domains. -/
theorem Decides.remote_eq_nil
    {recipient : Address} {decision : Decision}
    (decides : processor.Decides recipient decision)
    (separately : processor.settings.forwardSeparately = true)
    (represents : processor.directory.Represents table isLocal)
    (locally : processor.directory.RewritesLocally table isLocal) :
    decision.remote = [] := by
  cases decides with
  | unnamed => rfl
  | unmapped => rfl
  | rejected => rfl
  | @replaced source now rules completed answered named resolved nonempty completes groups
      located =>
      have origin := RuleTable.resolve_origin named (represents.resolves _ _ _ _ resolved)
      have answers : ∀ entry ∈ answered, entry.2 = isLocal entry.1.domain := by
        intro entry member
        obtain ⟨time, answer⟩ := located entry member
        rw [← answer, represents.locates]
      have remote := (Partition.ofAnswers_perm_filter groups answers).2
      have allLocal : ∀ target ∈ RuleList.addresses completed, isLocal target.domain = true := by
        intro target member
        obtain ⟨rule, inCompleted, names⟩ := RuleList.mem_addresses.1 member
        obtain ⟨stored, inRules, completion⟩ := Directory.exists_completes completes inCompleted
        exact locally.isLocal_of_completes separately (origin stored inRules) completion names
      have nothing : (RuleList.addresses completed).filter
          (fun target => !isLocal target.domain) = [] := by
        refine List.filter_eq_nil_iff.2 fun target member => ?_
        simp [allLocal target member]
      rw [nothing] at remote
      exact remote.eq_nil

/-! ## Copies that come back -/

/-- A copy is forwarded on behalf of `sender`, who has not forwarded the mail that
the pass is over. -/
structure SendsOn (processor : Processor directoryWorld transportWorld) (mail copy : Mail)
    (sender : Address) : Prop where
  forwards : processor.directory.Forwards sender
  absent : sender ∉ (Ledger.ofMail mail).addresses
  parsed : (∀ recipient ∈ mail.recipients, recipient.IsParsed) → sender.IsParsed
  recorded : ∃ unrecorded, copy = ((Ledger.ofMail mail).add sender).recordOn unrecorded
  readable : ∀ recipient ∈ copy.recipients, recipient.IsParsed

/-- A planned copy without a state of its own is a redirect. -/
theorem exists_remote_of_planned
    {settings : ProcessorSettings} {mail copy : Mail} {decisions : List Decision}
    {planned : PlannedCopy} {name : MailName}
    (member : planned ∈ PlannedCopy.plan decisions)
    (stateless : planned.injection settings mail name = ⟨copy, none⟩) :
    ∃ decision ∈ decisions, decision.remote ≠ [] := by
  rcases List.mem_append.1 member with redirected | bounced
  · obtain ⟨decision, chosen, _⟩ := List.mem_map.1 redirected
    obtain ⟨inDecisions, hasRemote⟩ := List.mem_filter.1 chosen
    exact ⟨decision, inDecisions, by simpa using hasRemote⟩
  · unfold PlannedCopy.bounces at bounced
    split at bounced
    · simp at bounced
    · obtain rfl := List.mem_singleton.1 bounced
      simp [PlannedCopy.injection] at stateless

theorem sendsOn_of_performs
    {mail parent copy : Mail} {action : ForwardAction} {reason : CopyReason}
    {answer : Except TransportError Unit}
    (sameLedger : Ledger.ofMail mail = Ledger.ofMail parent)
    (parsed : (∀ recipient ∈ parent.recipients, recipient.IsParsed) →
      ∀ recipient ∈ mail.recipients, recipient.IsParsed)
    (sound : action.IsSound processor.directory (Ledger.ofMail mail) mail.recipients)
    (performs : Performs processor.settings mail (Ledger.ofMail mail) action
      (.injected reason ⟨copy, none⟩ answer)) :
    reason = .forward ∧ ∃ sender, processor.SendsOn parent copy sender := by
  cases performs with
  | @sends sender targets name =>
      obtain ⟨inRecipients, forwards, absent, targetsSound⟩ := sound
      refine ⟨rfl, sender, forwards, ?_, ?_, ?_, ?_⟩
      · rwa [← sameLedger]
      · intro parentParsed
        exact parsed parentParsed sender inRecipients
      · rw [← sameLedger]
        exact ⟨_, rfl⟩
      · intro target member
        exact (targetsSound target member).1

/-- Whatever a pass hands over without a state of its own has been forwarded, if
rewriting alone never leaves the local domains. -/
theorem exists_sendsOn
    {mail copy : Mail} {surroundings : Surroundings directoryWorld transportWorld}
    {reason : CopyReason} {answer : Except TransportError Unit}
    (separately : processor.settings.forwardSeparately = true)
    (represents : processor.directory.Represents table isLocal)
    (locally : processor.directory.RewritesLocally table isLocal)
    (member : .injected reason ⟨copy, none⟩ answer ∈
      (processor.processMail mail surroundings).state.trace) :
    reason = .forward ∧ ∃ sender, processor.SendsOn mail copy sender := by
  obtain ⟨decisions, asked, decision, decisionsParsed, hands⟩ := exists_handsFor member
  cases hands with
  | planned inPlan same =>
      obtain ⟨_, sameInjection, _⟩ := Effect.injected.inj same
      obtain ⟨single, inDecisions, hasRemote⟩ :=
        exists_remote_of_planned inPlan sameInjection.symm
      obtain ⟨_, _, decides⟩ := (processor.decideAll_yields mail.recipients).of_run
        (PassState.start_supplied surroundings _) decision
      exact absurd ((decides single inDecisions).remote_eq_nil separately represents locally)
        hasRemote
  | performed sound performs =>
      exact sendsOn_of_performs (ofMail_rewrittenBy mail decisions)
        (fun parsed => rewrittenBy_isParsed mail (decisionsParsed parsed)) sound performs

end Processor

end RecipientRewriting
