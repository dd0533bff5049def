import RecipientRewriting.Proofs.Processing.Accounting

/-!
# Passes that come to their end

A recorder that does not refuse mails takes every copy, and a table
answers at once.  So a pass over a table and its list of domains comes to its end
exactly if the table has an answer for every recipient that needs no completion.
-/

namespace RecipientRewriting

/-! ## Open recorders -/

structure Recorder.IsOpen (recorder : Recorder) : Prop where
  accepting : recorder.refusing = false

theorem Recorder.empty_isOpen : Recorder.empty.IsOpen :=
  ⟨rfl⟩

theorem Recorder.inject_of_isOpen
    {recorder : Recorder} (isOpen : recorder.IsOpen) (injection : Injection) :
    inject injection recorder =
      (.ok (), { recorder with injections := recorder.injections ++ [injection] }) := by
  simp [inject, isOpen.accepting]

theorem Recorder.exists_inject_of_isOpen
    {recorder : Recorder} (isOpen : recorder.IsOpen) (injection : Injection) :
    ∃ later, inject injection recorder = (.ok (), later) ∧ later.IsOpen :=
  ⟨_, inject_of_isOpen isOpen injection, ⟨isOpen.accepting⟩⟩

namespace Pass

variable {directoryWorld alpha beta : Type}

/-- From every state with an open recorder, the computation comes to its end with
a value as `post` says and leaves the recorder open. -/
def Finishes (computation : Pass directoryWorld Recorder alpha) (post : alpha → Prop) : Prop :=
  ∀ start : PassState directoryWorld Recorder, start.transport.IsOpen →
    ∃ value last, computation.run start = (.ok value, last) ∧ last.transport.IsOpen ∧ post value

variable {first : Pass directoryWorld Recorder alpha}
  {next : alpha → Pass directoryWorld Recorder beta}

theorem finishes_pure
    {post : alpha → Prop} {value : alpha} (holds : post value) :
    (pure value : Pass directoryWorld Recorder alpha).Finishes post := by
  intro start isOpen
  exact ⟨value, start, rfl, isOpen, holds⟩

theorem Finishes.bind
    {middle : alpha → Prop} {post : beta → Prop}
    (firstFinishes : first.Finishes middle)
    (nextFinishes : ∀ value, middle value → (next value).Finishes post) :
    (first >>= next).Finishes post := by
  intro start isOpen
  obtain ⟨value, reached, firstRun, reachedOpen, holds⟩ := firstFinishes start isOpen
  obtain ⟨result, last, nextRun, lastOpen, resultHolds⟩ :=
    nextFinishes value holds reached reachedOpen
  refine ⟨result, last, ?_, lastOpen, resultHolds⟩
  rw [run_bind_of_ok firstRun]
  exact nextRun

theorem note_finishes (effect : Effect) :
    (note effect : Pass directoryWorld Recorder Unit).Finishes fun _ => True := by
  intro start isOpen
  exact ⟨(), _, rfl, isOpen, trivial⟩

theorem consult_finishes (question : directoryWorld → alpha × directoryWorld) :
    (consult question : Pass directoryWorld Recorder alpha).Finishes fun reply =>
      ∃ world, reply = (question world).1 := by
  intro start isOpen
  exact ⟨_, _, rfl, isOpen, start.directory, rfl⟩

theorem duplicate_finishes (mail : Mail) :
    (duplicate mail : Pass directoryWorld Recorder Mail).Finishes fun _ => True := by
  intro start isOpen
  exact ⟨_, _, rfl, isOpen, trivial⟩

theorem audit_finishes (events : List AuditEvent) :
    (audit events : Pass directoryWorld Recorder Unit).Finishes fun _ => True := by
  induction events with
  | nil => exact finishes_pure trivial
  | cons event rest inductionHypothesis =>
      exact (note_finishes (.audited event)).bind fun _ _ => inductionHypothesis

end Pass

/-! ## Answers for recipients -/

/-- The table has an answer for a recipient, and if this is a list of rules, each
of them names an address. -/
inductive RuleTable.Answers (table : RuleTable) (kinds : KindSet) (recipient : Address) : Prop
  | kept :
      table.fate? kinds recipient = some .kept →
      Answers table kinds recipient
  | rejected :
      table.fate? kinds recipient = some .rejected →
      Answers table kinds recipient
  | replaced {rules : RuleList} :
      table.fate? kinds recipient = some (.replaced rules) →
      rules.AllName →
      Answers table kinds recipient

namespace RuleTable.Answers

variable {table : RuleTable} {domains : DomainList} {kinds : KindSet} {recipient : Address}

theorem exists_resolution
    {source : Source}
    (answers : table.Answers kinds recipient)
    (named : Source.ofAddress? recipient = some source) :
    ∃ resolution, table.resolve source kinds = .ok resolution := by
  cases outcome : table.resolve source kinds with
  | ok resolution => exact ⟨resolution, rfl⟩
  | error failure =>
      have unanswered : table.fate? kinds recipient = none := by
        simp only [fate?, named, outcome]
      cases answers with
      | kept fate => simp [unanswered] at fate
      | rejected fate => simp [unanswered] at fate
      | replaced fate => simp [unanswered] at fate

theorem allName
    {rules : RuleList}
    (answers : table.Answers kinds recipient)
    (fate : table.fate? kinds recipient = some (.replaced rules)) :
    rules.AllName := by
  cases answers with
  | kept other => simp [fate] at other
  | rejected other => simp [fate] at other
  | replaced other names =>
      rw [fate] at other
      cases other
      exact names

theorem of_demands
    {decision : Decision}
    (demands : Fate.Demands table domains kinds recipient decision) :
    table.Answers kinds recipient := by
  cases demands with
  | kept fate => exact .kept fate
  | rejected fate => exact .rejected fate
  | replaced fate _ allName => exact .replaced fate allName

end RuleTable.Answers

namespace Processor

variable {processor : Processor Unit Recorder} {table : RuleTable} {domains : DomainList}

/-! ## The first phase -/

theorem withinLimit_immediate
    {answer : Type} (settings : ProcessorSettings) (reply : Except LookupError answer) :
    withinLimit settings ⟨reply, 0⟩ = reply := by
  unfold withinLimit
  cases settings.lookupTimeout with
  | none => rfl
  | some seconds => simp

theorem isLocal_finishes (domain : Domain) :
    (processor.isLocal domain).Finishes fun _ => True := by
  refine (Pass.consult_finishes _).bind fun _ _ => ?_
  exact (Pass.note_finishes _).bind fun _ _ => Pass.finishes_pure trivial

theorem addTargets_finishes
    {rules : RuleList}
    (found : List Address)
    (allName : rules.AllName) :
    (processor.addTargets found rules).Finishes fun _ => True := by
  induction rules generalizing found with
  | nil => exact Pass.finishes_pure trivial
  | cons rule rest inductionHypothesis =>
      obtain ⟨target, names⟩ := allName rule List.mem_cons_self
      have whole : processor.complete rule = pure rule := by
        rw [complete, Rule.needsDomain_of_names names]
        rfl
      have restNames : RuleList.AllName rest := fun other member =>
        allName other (List.mem_cons_of_mem rule member)
      rw [addTargets, whole, pure_bind]
      exact inductionHypothesis _ restNames

theorem askAll_finishes (groups : List Partition.Group) :
    (Partition.askAll processor.isLocal groups).Finishes fun _ => True := by
  induction groups with
  | nil => exact Pass.finishes_pure trivial
  | cons group rest inductionHypothesis =>
      refine (isLocal_finishes group.domain).bind fun _ _ => ?_
      exact inductionHypothesis.bind fun _ _ => Pass.finishes_pure trivial

theorem ofAddresses_finishes (addresses : List Address) :
    (Partition.ofAddresses processor.isLocal addresses).Finishes fun _ => True :=
  (askAll_finishes _).bind fun _ _ => Pass.finishes_pure trivial

section Deciding

variable (directory : processor.directory = .ofTable table domains)
include directory

theorem resolve_finishes
    {source : Source} {resolution : Resolution}
    (answered : table.resolve source processor.settings.kinds = .ok resolution) :
    (processor.resolve source).Finishes fun reply => reply = resolution := by
  refine (Pass.consult_finishes _).bind ?_
  intro timed consulted
  obtain ⟨world, rfl⟩ := consulted
  have inTime : withinLimit processor.settings
      (processor.directory.resolve source processor.settings.kinds world).1 =
        .ok resolution := by
    rw [directory, ← answered]
    exact withinLimit_immediate processor.settings _
  rw [inTime]
  exact (Pass.note_finishes _).bind fun _ _ => Pass.finishes_pure rfl

theorem decide_finishes
    {recipient : Address}
    (answers : table.Answers processor.settings.kinds recipient) :
    (processor.decide recipient).Finishes fun _ => True := by
  unfold decide
  cases named : Source.ofAddress? recipient with
  | none => exact Pass.finishes_pure trivial
  | some source =>
      obtain ⟨resolution, answered⟩ := answers.exists_resolution named
      refine (resolve_finishes directory answered).bind ?_
      intro reply same
      obtain rfl := same
      cases reply with
      | rejected reason => exact Pass.finishes_pure trivial
      | success rules =>
          cases rules with
          | nil => exact Pass.finishes_pure trivial
          | cons rule rest =>
              have nonempty := List.cons_ne_nil rule rest
              have whole := answers.allName (table.fate_of_mapped named answered nonempty)
              refine (addTargets_finishes [] whole).bind fun addresses _ => ?_
              exact (ofAddresses_finishes addresses).bind fun _ _ =>
                Pass.finishes_pure trivial

theorem decideAll_finishes
    {recipients : List Address}
    (answers : ∀ recipient ∈ recipients, table.Answers processor.settings.kinds recipient) :
    (processor.decideAll recipients).Finishes fun _ => True := by
  induction recipients with
  | nil => exact Pass.finishes_pure trivial
  | cons recipient rest inductionHypothesis =>
      have restAnswers := fun other member => answers other (List.mem_cons_of_mem recipient member)
      refine (decide_finishes directory (answers recipient List.mem_cons_self)).bind fun _ _ => ?_
      exact (inductionHypothesis restAnswers).bind fun _ _ => Pass.finishes_pure trivial

end Deciding

section Doing

variable (transport : processor.transport = Recorder.transport)
include transport

theorem injectOrFail_finishes (reason : CopyReason) (injection : Injection) :
    (processor.injectOrFail reason injection).Finishes fun _ => True := by
  have taken : (processor.inject reason injection).Finishes fun answer => answer = .ok () := by
    intro start isOpen
    obtain ⟨later, injected, laterOpen⟩ :=
      Recorder.exists_inject_of_isOpen isOpen injection
    have answer : processor.transport.inject injection start.transport = (.ok (), later) := by
      rw [transport]
      exact injected
    refine ⟨(processor.transport.inject injection start.transport).1, _, rfl, ?_, ?_⟩
    · change (processor.transport.inject injection start.transport).2.IsOpen
      rw [answer]
      exact laterOpen
    · rw [answer]
  refine taken.bind ?_
  intro answer same
  obtain rfl := same
  exact Pass.finishes_pure trivial

theorem redirect_finishes (mail : Mail) (decisions : List Decision) :
    (processor.redirect mail decisions).Finishes fun _ => True := by
  induction decisions with
  | nil => exact Pass.finishes_pure trivial
  | cons decision rest inductionHypothesis =>
      rw [redirect]
      split
      · refine (Pass.duplicate_finishes mail).bind fun _ _ => ?_
        exact (injectOrFail_finishes transport _ _).bind fun _ _ => inductionHypothesis
      · exact inductionHypothesis

theorem bounce_finishes (mail : Mail) (rejected : List Address) :
    (processor.bounce mail rejected).Finishes fun _ => True := by
  unfold bounce
  split
  · exact (Pass.duplicate_finishes mail).bind fun _ _ => injectOrFail_finishes transport _ _
  · exact Pass.finishes_pure trivial

theorem rewriteBy_finishes (mail : Mail) (decisions : List Decision) :
    (processor.rewriteBy mail decisions).Finishes fun _ => True := by
  refine (redirect_finishes transport mail decisions).bind fun _ _ => ?_
  refine (bounce_finishes transport mail _).bind fun _ _ => ?_
  exact (Pass.audit_finishes _).bind fun _ _ => Pass.finishes_pure trivial

end Doing

/-! ## Whole passes -/

section Passes

variable {mail : Mail} {surroundings : Surroundings Unit Recorder}

/-- Where forwarding rules are followed like aliases, the second phase does
nothing. -/
theorem handle_applyForwards_eq
    (together : processor.settings.forwardSeparately = false)
    (mail : Mail) (start : PassState Unit Recorder) :
    handle processor.applyForwards mail start = ⟨.ok (), mail, start⟩ := by
  have skips : processor.forwardingOf mail = pure mail := by
    rw [forwardingOf, forwards, together]
    rfl
  have amounts := processor.applyForwards_amounts mail
  rw [skips] at amounts
  exact amounts.handle_of_ok (Pass.run_pure mail start)

theorem processMail_eq_rewriting
    (together : processor.settings.forwardSeparately = false)
    (succeeds : (processor.rewriting mail surroundings).result = .ok ()) :
    processor.processMail mail surroundings = processor.rewriting mail surroundings := by
  rw [processMail_of_ok succeeds, handle_applyForwards_eq together, ← succeeds]

/-- With an open recorder, a pass comes to its end if the table answers for every
recipient, and leaves the recorder open. -/
theorem processMail_finishes
    (directory : processor.directory = .ofTable table domains)
    (transport : processor.transport = Recorder.transport)
    (together : processor.settings.forwardSeparately = false)
    (answers : ∀ recipient ∈ mail.recipients, table.Answers processor.settings.kinds recipient)
    (isOpen : surroundings.transport.IsOpen) :
    (processor.processMail mail surroundings).result = .ok () ∧
      (processor.processMail mail surroundings).state.transport.IsOpen := by
  have phase : (processor.rewritingOf mail).Finishes fun _ => True :=
    (decideAll_finishes directory answers).bind fun decisions _ =>
      rewriteBy_finishes transport mail decisions
  obtain ⟨changed, last, outcome, lastOpen, _⟩ := phase (.start surroundings) isOpen
  have rewritten : processor.rewriting mail surroundings = ⟨.ok (), changed, last⟩ :=
    (processor.replaceRecipients_amounts mail).handle_of_ok outcome
  have succeeds : (processor.rewriting mail surroundings).result = .ok () := by
    rw [rewritten]
  rw [processMail_eq_rewriting together succeeds, rewritten]
  exact ⟨rfl, lastOpen⟩

theorem answers_of_processMail
    {recipient : Address}
    (directory : processor.directory = .ofTable table domains)
    (shared : table.defaultDomain = domains.defaultDomain)
    (succeeds : (processor.processMail mail surroundings).result = .ok ())
    (member : recipient ∈ mail.recipients) :
    table.Answers processor.settings.kinds recipient := by
  obtain ⟨rewritten, _⟩ := rewriting_of_processMail succeeds
  obtain ⟨decisions, rewrites, demands⟩ := exists_demanded directory shared rewritten
  rw [← rewrites.each] at member
  obtain ⟨decision, decided, rfl⟩ := List.mem_map.1 member
  exact .of_demands (demands decision decided)

end Passes

end Processor

end RecipientRewriting
