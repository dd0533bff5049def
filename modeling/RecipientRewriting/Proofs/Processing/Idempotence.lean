import RecipientRewriting.Proofs.Processing.Completion
import RecipientRewriting.Proofs.Processing.Disjointness
import RecipientRewriting.Proofs.Processing.FinalTargets

/-!
# Rewriting once is enough

Whoever a mail goes on to is kept by the rules, or replaced by themselves and by
others whom the mail goes on to already.  So a second pass over the mail that a
first one has left changes nobody on it and rejects nobody.
-/

namespace RecipientRewriting

namespace RuleTable

variable {table : RuleTable} {domains : DomainList} {kinds : KindSet}
  {recipient middle target address : Address}

/-- What replaces a recipient is kept, or a rule maps it to itself and nothing
replaces it that does not replace the recipient. -/
theorem fate_of_replacement
    (recursive : table.recursive = true)
    (replacement : target ∈ table.replacements kinds recipient) :
    ∃ answer, table.fate? kinds recipient = some (.replaced answer) ∧
      (table.fate? kinds target = some .kept ∨
        (∃ kind, table.Keeps kinds target kind) ∧
          ∃ rules, table.fate? kinds target = some (.replaced rules) ∧
            (∀ item ∈ rules, item ∈ answer) ∧ target ∈ RuleList.addresses rules) := by
  obtain ⟨answer, fate, item, member, names⟩ := exists_replaced_of_replacement replacement
  obtain ⟨source, named, answered⟩ := exists_answered_of_replaced fate
  obtain ⟨origin, _, success⟩ := exists_resolveAddress named answered
  have among := RuleList.mem_addresses.2 ⟨item, member, names⟩
  exact ⟨answer, fate, fate_of_target recursive success among⟩

theorem GoesOnTo.refl
    (recursive : table.recursive = true)
    (goesOn : table.GoesOnTo domains kinds recipient address) :
    table.GoesOnTo domains kinds address address := by
  rcases goesOn with ⟨kept, rfl⟩ | ⟨replacement, isLocal⟩
  · exact Or.inl ⟨kept, rfl⟩
  · obtain ⟨answer, _, kept | ⟨_, rules, replaced, _, among⟩⟩ :=
      fate_of_replacement recursive replacement
    · exact Or.inl ⟨kept, rfl⟩
    · refine Or.inr ⟨?_, isLocal⟩
      rw [replacements_of_replaced replaced]
      exact among

theorem GoesOnTo.trans
    (recursive : table.recursive = true)
    (first : table.GoesOnTo domains kinds recipient middle)
    (second : table.GoesOnTo domains kinds middle address) :
    table.GoesOnTo domains kinds recipient address := by
  rcases first with ⟨_, rfl⟩ | ⟨replacement, middleLocal⟩
  · exact second
  · obtain ⟨answer, fate, kept | ⟨_, rules, replaced, subset, _⟩⟩ :=
      fate_of_replacement recursive replacement
    · rcases second with ⟨_, rfl⟩ | ⟨onward, _⟩
      · exact Or.inr ⟨replacement, middleLocal⟩
      · rw [replacements_of_kept kept] at onward
        cases onward
    · rcases second with ⟨kept, _⟩ | ⟨onward, isLocal⟩
      · rw [replaced] at kept
        cases kept
      · rw [replacements_of_replaced replaced] at onward
        refine Or.inr ⟨?_, isLocal⟩
        rw [replacements_of_replaced fate]
        exact mem_addresses_of_subset subset onward

theorem Answers.of_goesOnTo
    (recursive : table.recursive = true)
    (answers : table.Answers kinds recipient)
    (goesOn : table.GoesOnTo domains kinds recipient address) :
    table.Answers kinds address := by
  rcases goesOn with ⟨_, rfl⟩ | ⟨replacement, _⟩
  · exact answers
  · obtain ⟨answer, fate, kept | ⟨_, rules, replaced, subset, _⟩⟩ :=
      fate_of_replacement recursive replacement
    · exact .kept kept
    · have allName := answers.allName fate
      exact .replaced replaced fun item member => allName item (subset item member)

end RuleTable

namespace Processor

variable {transportWorld : Type} {processor : Processor Unit transportWorld} {table : RuleTable}
  {domains : DomainList} {mail : Mail} {surroundings : Surroundings Unit transportWorld}
  {reason : CopyReason} {injection : Injection} {answer : Except TransportError Unit}

/-- A copy that is no forwarding is planned for decisions that fates demand. -/
theorem exists_planned
    (directory : processor.directory = .ofTable table domains)
    (shared : table.defaultDomain = domains.defaultDomain)
    (first : reason = .redirect ∨ reason = .bounce)
    (member : .injected reason injection answer ∈
      (processor.processMail mail surroundings).state.trace) :
    ∃ decisions, decisions.map Decision.recipient = mail.recipients ∧
      (∀ decision ∈ decisions,
        Fate.Demands table domains processor.settings.kinds decision.recipient decision) ∧
      ∃ planned ∈ PlannedCopy.plan decisions, planned.reason = reason ∧
        injection.mail.recipients = planned.recipients := by
  obtain ⟨decisions, asked, decision, _, handsFor⟩ := exists_handsFor member
  obtain ⟨_, each, decides⟩ := (processor.decideAll_yields mail.recipients).of_run
    (PassState.start_supplied surroundings _) decision
  refine ⟨decisions, each, fun decision inDecisions =>
    (decides decision inDecisions).demands directory shared, ?_⟩
  cases handsFor with
  | @planned planned name _ inPlan same =>
      cases same
      exact ⟨planned, inPlan, rfl, planned.recipients_injection name⟩
  | performed _ performs =>
      cases performs <;> simp at first

theorem exists_rejected_of_bounce
    (directory : processor.directory = .ofTable table domains)
    (shared : table.defaultDomain = domains.defaultDomain)
    (member : .injected .bounce injection answer ∈
      (processor.processMail mail surroundings).state.trace) :
    ∃ recipient ∈ mail.recipients,
      table.fate? processor.settings.kinds recipient = some .rejected := by
  obtain ⟨decisions, each, demands, planned, inPlan, bounces, _⟩ :=
    exists_planned directory shared (Or.inr rfl) member
  have inBounces : planned ∈
      PlannedCopy.bounces (Aggregate.ofDecisions decisions).rejectedRecipients := by
    rw [← PlannedCopy.filter_plan_bounce]
    exact List.mem_filter.2 ⟨inPlan, by simpa using bounces⟩
  have somebody : (Aggregate.ofDecisions decisions).rejectedRecipients ≠ [] := by
    intro nobody
    rw [nobody] at inBounces
    cases inBounces
  obtain ⟨recipient, rejected⟩ := List.exists_mem_of_ne_nil _ somebody
  exact ⟨recipient, (mem_rejectedRecipients_iff_fate each demands recipient).1 rejected⟩

/-- Where forwarding rules are followed like aliases, whoever mail goes on to is
on the mail that a pass leaves, and nobody else is. -/
theorem mem_live_iff_goesOnTo
    {processor : Processor Unit Recorder} {surroundings : Surroundings Unit Recorder}
    (directory : processor.directory = .ofTable table domains)
    (shared : table.defaultDomain = domains.defaultDomain)
    (together : processor.settings.forwardSeparately = false)
    (succeeds : (processor.processMail mail surroundings).result = .ok ())
    (address : Address) :
    address ∈ (processor.processMail mail surroundings).mail.recipients ↔
      ∃ recipient ∈ mail.recipients,
        table.GoesOnTo domains processor.settings.kinds recipient address := by
  obtain ⟨rewritten, _⟩ := rewriting_of_processMail succeeds
  obtain ⟨decisions, rewrites, demands⟩ := exists_demanded directory shared rewritten
  rw [processMail_eq_rewriting together rewritten, rewrites.live_eq]
  exact mem_newRecipients_iff_goesOnTo rewrites.each demands address

end Processor

theorem Engine.ofConfiguration_isOpen (configuration : Configuration) (names : NameSupply) :
    (ofConfiguration configuration names).surroundings.transport.IsOpen :=
  Recorder.empty_isOpen

/-- A second pass over the mail that a first one has left comes to its end as
well.  It bounces nobody, and the mail has the same recipients as before. -/
theorem Engine.rewriting_idempotent
    (configuration : Configuration) (names : NameSupply) (mail : Mail)
    (surroundings : Surroundings Unit Recorder)
    (recursive : configuration.table.recursive = true)
    (together : configuration.processor.forwardSeparately = false)
    (isOpen : surroundings.transport.IsOpen)
    (succeeds : ((Engine.ofConfiguration configuration names).processor.processMail mail
      surroundings).result = .ok ()) :
    let processor := (Engine.ofConfiguration configuration names).processor
    let first := processor.processMail mail surroundings
    let second := processor.processMail first.mail first.state.toSurroundings
    second.result = .ok () ∧
      (∀ injection answer, .injected .bounce injection answer ∉ second.state.trace) ∧
      ∀ address, address ∈ second.mail.recipients ↔ address ∈ first.mail.recipients := by
  intro processor first second
  let domains := configuration.domains.toDomainList
  let table := configuration.table.toTable domains.defaultDomain
  have directory : processor.directory = .ofTable table domains := rfl
  have shared : table.defaultDomain = domains.defaultDomain :=
    TableSettings.toTable_defaultDomain configuration.table domains.defaultDomain
  have follows : table.recursive = true :=
    (TableSettings.toTable_recursive configuration.table domains.defaultDomain).trans recursive
  have answers : ∀ recipient ∈ mail.recipients,
      table.Answers processor.settings.kinds recipient := fun recipient member =>
    Processor.answers_of_processMail directory shared succeeds member
  have live := Processor.mem_live_iff_goesOnTo directory shared together succeeds
  obtain ⟨_, stillOpen⟩ :=
    Processor.processMail_finishes directory rfl together answers isOpen
  -- Everybody on the mail has an answer, since somebody has had it before.
  have answersAgain : ∀ recipient ∈ first.mail.recipients,
      table.Answers processor.settings.kinds recipient := by
    intro recipient member
    obtain ⟨origin, inMail, goesOn⟩ := (live recipient).1 member
    exact (answers origin inMail).of_goesOnTo follows goesOn
  obtain ⟨succeedsAgain, _⟩ :=
    Processor.processMail_finishes directory rfl together answersAgain stillOpen
  refine ⟨succeedsAgain, ?_, ?_⟩
  · intro injection answer bounced
    obtain ⟨recipient, member, rejected⟩ :=
      Processor.exists_rejected_of_bounce directory shared bounced
    obtain ⟨origin, _, goesOn⟩ := (live recipient).1 member
    exact RuleTable.fate_ne_rejected_of_goesOnTo follows goesOn rejected
  · intro address
    rw [Processor.mem_live_iff_goesOnTo directory shared together succeedsAgain]
    constructor
    · rintro ⟨recipient, member, goesOn⟩
      obtain ⟨origin, inMail, before⟩ := (live recipient).1 member
      exact (live address).2 ⟨origin, inMail, before.trans follows goesOn⟩
    · intro member
      obtain ⟨origin, inMail, before⟩ := (live address).1 member
      exact ⟨address, member, before.refl follows⟩

/-! ## A user who keeps a copy and shares it -/

/-- A user with an alias, which keeps a copy and has another member. -/
def keeperConfiguration : Configuration where
  processor := .default
  table := ⟨true, 3, .ofList [
    (.user "a" (.ofString "x.org"), [⟨.userAlias, "b"⟩]),
    (.user "b" (.ofString "x.org"), [⟨.userAlias, "b"⟩, ⟨.group, "d"⟩])]⟩
  domains := ⟨some (.ofString "x.org"), []⟩
  audit := .default

def keeper : Engine :=
  .ofConfiguration keeperConfiguration ⟨1⟩

/-- A mail to the user and to one without rules. -/
def keeperMail : Mail :=
  .fresh ⟨0⟩ ⟨none, [⟨"a", .ofString "x.org"⟩, ⟨"e", .ofString "x.org"⟩]⟩ []

/-- The mail that the engine leaves of this mail. -/
def keeperFirst : Processed Unit Recorder :=
  keeper.processor.processMail keeperMail keeper.surroundings

theorem keeper_idempotent :
    keeperConfiguration.table.recursive = true ∧
      keeperConfiguration.processor.forwardSeparately = false ∧
      keeper.surroundings.transport.IsOpen ∧
      keeperFirst.result = .ok () ∧
      keeperFirst.mail.recipients = [⟨"b", .ofString "x.org"⟩, ⟨"d", .ofString "x.org"⟩,
        ⟨"e", .ofString "x.org"⟩] ∧
      (keeper.processor.processMail keeperFirst.mail
        keeperFirst.state.toSurroundings).result = .ok () ∧
      ∀ address, address ∈ (keeper.processor.processMail keeperFirst.mail
          keeperFirst.state.toSurroundings).mail.recipients ↔
        address ∈ keeperFirst.mail.recipients := by
  have succeeds : keeperFirst.result = .ok () := by
    decide +kernel
  have isOpen : keeper.surroundings.transport.IsOpen :=
    Engine.ofConfiguration_isOpen keeperConfiguration ⟨1⟩
  refine ⟨rfl, rfl, isOpen, succeeds, by decide +kernel, ?_⟩
  unfold keeperFirst keeper at succeeds ⊢
  unfold keeper at isOpen
  obtain ⟨again, _, same⟩ :=
    Engine.rewriting_idempotent keeperConfiguration ⟨1⟩ keeperMail _ rfl rfl isOpen succeeds
  exact ⟨again, same⟩

end RecipientRewriting
