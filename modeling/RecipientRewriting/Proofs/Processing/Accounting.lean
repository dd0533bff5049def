import RecipientRewriting.Engine
import RecipientRewriting.Proofs.Processing.Fates

/-!
# Accounting for recipients

Nothing is lost and nothing invented while recipients are rewritten.  What a
pass leaves on the mail, redirects and bounces is exactly what the fates of the
recipients demand, and every one of them is met.
-/

namespace RecipientRewriting

/-! ## Outcomes of several decisions -/

section Decisions

variable {table : RuleTable} {domains : DomainList} {kinds : KindSet}
  {recipients : List Address} {decisions : List Decision}

theorem mem_newRecipients_iff_goesOnTo
    (each : decisions.map Decision.recipient = recipients)
    (demands : ∀ decision ∈ decisions,
      Fate.Demands table domains kinds decision.recipient decision)
    (address : Address) :
    address ∈ (Aggregate.ofDecisions decisions).newRecipients ↔
      ∃ recipient ∈ recipients, table.GoesOnTo domains kinds recipient address := by
  rw [Aggregate.mem_newRecipients_ofDecisions, ← each]
  constructor
  · rintro ⟨decision, member, accepted⟩
    have goesOn := ((demands decision member).mem_newRecipients_iff address).1 accepted
    exact ⟨decision.recipient, List.mem_map_of_mem member, goesOn⟩
  · rintro ⟨recipient, inRecipients, goesOn⟩
    obtain ⟨decision, member, rfl⟩ := List.mem_map.1 inRecipients
    exact ⟨decision, member, ((demands decision member).mem_newRecipients_iff address).2 goesOn⟩

theorem mem_rejectedRecipients_iff_fate
    (each : decisions.map Decision.recipient = recipients)
    (demands : ∀ decision ∈ decisions,
      Fate.Demands table domains kinds decision.recipient decision)
    (address : Address) :
    address ∈ (Aggregate.ofDecisions decisions).rejectedRecipients ↔
      address ∈ recipients ∧ table.fate? kinds address = some .rejected := by
  rw [Aggregate.mem_rejectedRecipients_ofDecisions, ← each]
  constructor
  · rintro ⟨decision, member, outcome⟩
    obtain ⟨rfl, fate⟩ := ((demands decision member).outcome_eq_rejected_iff address).1 outcome
    exact ⟨List.mem_map_of_mem member, fate⟩
  · rintro ⟨inRecipients, fate⟩
    obtain ⟨decision, member, rfl⟩ := List.mem_map.1 inRecipients
    exact ⟨decision, member, ((demands decision member).outcome_eq_rejected_iff _).2 ⟨rfl, fate⟩⟩

/-- The planned redirects are those of the recipients that have remote
replacements, in order. -/
theorem redirects_perm
    (each : decisions.map Decision.recipient = recipients)
    (demands : ∀ decision ∈ decisions,
      Fate.Demands table domains kinds decision.recipient decision) :
    List.Forall₂
      (fun recipient sent => sent.Perm (table.remoteReplacements domains kinds recipient))
      (recipients.filter fun recipient =>
        !(table.remoteReplacements domains kinds recipient).isEmpty)
      ((PlannedCopy.redirects decisions).map PlannedCopy.recipients) := by
  have planned : (PlannedCopy.redirects decisions).map PlannedCopy.recipients =
      (decisions.filter fun decision => !decision.remote.isEmpty).map Decision.remote := by
    simp [PlannedCopy.redirects]
  have sameFilter : (decisions.filter fun decision =>
        !(table.remoteReplacements domains kinds decision.recipient).isEmpty) =
      decisions.filter fun decision => !decision.remote.isEmpty := by
    refine List.filter_congr ?_
    intro decision member
    rw [(demands decision member).remote_perm.isEmpty_eq]
  have chosen : (recipients.filter fun recipient =>
        !(table.remoteReplacements domains kinds recipient).isEmpty) =
      (decisions.filter fun decision => !decision.remote.isEmpty).map Decision.recipient := by
    rw [← each, List.filter_map, ← sameFilter]
    rfl
  rw [planned, chosen, List.forall₂_map_left_iff, List.forall₂_map_right_iff, List.forall₂_same]
  intro decision member
  exact (demands decision (List.mem_filter.1 member).1).remote_perm

end Decisions

theorem PlannedCopy.map_recipients_bounces (rejected : List Address) :
    (bounces rejected).map PlannedCopy.recipients = if rejected = [] then [] else [rejected] := by
  cases rejected <;> rfl

/-! ## Passes -/

/-- What has become of a recipient is what its fate demands. -/
def Fate.Met (domains : DomainList) (live : List Address) (bounces : List (List Address))
    (recipient : Address) : Fate → Prop
  | kept => recipient ∈ live
  | rejected => ∃ rejected, bounces = [rejected] ∧ recipient ∈ rejected
  | replaced rules => rules.AllName ∧ RuleList.addresses rules ≠ [] ∧
      (RuleList.addresses rules).Nodup ∧
      ∀ target ∈ RuleList.addresses rules, domains.isLocal target.domain = true → target ∈ live

namespace Processor

variable {transportWorld : Type} {processor : Processor Unit transportWorld}
  {table : RuleTable} {domains : DomainList} {mail : Mail}
  {surroundings : Surroundings Unit transportWorld}

/-- A first phase over a table and its list of domains demands and does the same. -/
theorem exists_demanded
    (directory : processor.directory = .ofTable table domains)
    (shared : table.defaultDomain = domains.defaultDomain)
    (succeeds : (processor.rewriting mail surroundings).result = .ok ()) :
    ∃ decisions, processor.Rewrites mail decisions (processor.rewriting mail surroundings) ∧
      ∀ decision ∈ decisions,
        Fate.Demands table domains processor.settings.kinds decision.recipient decision := by
  obtain ⟨decisions, rewrites⟩ := exists_rewrites succeeds
  refine ⟨decisions, rewrites, ?_⟩
  intro decision member
  exact (rewrites.decides decision member).demands directory shared

theorem Rewrites.live_eq
    {decisions : List Decision} {rewritten : Processed Unit transportWorld}
    (rewrites : processor.Rewrites mail decisions rewritten) :
    rewritten.mail.recipients = (Aggregate.ofDecisions decisions).newRecipients := by
  rw [rewrites.replaced]
  rfl

theorem Rewrites.bounced_eq
    {decisions : List Decision} {rewritten : Processed Unit transportWorld}
    (rewrites : processor.Rewrites mail decisions rewritten) :
    copyRecipients .bounce rewritten.state.trace =
      if (Aggregate.ofDecisions decisions).rejectedRecipients = [] then []
      else [(Aggregate.ofDecisions decisions).rejectedRecipients] := by
  rw [rewrites.copies, PlannedCopy.filter_plan_bounce, PlannedCopy.map_recipients_bounces]

/-- There is only one bounce, and it is for everybody who is rejected. -/
theorem Rewrites.eq_of_mem_bounced
    {decisions : List Decision} {rewritten : Processed Unit transportWorld}
    {bounced : List Address}
    (rewrites : processor.Rewrites mail decisions rewritten)
    (member : bounced ∈ copyRecipients .bounce rewritten.state.trace) :
    copyRecipients .bounce rewritten.state.trace = [bounced] ∧
      bounced = (Aggregate.ofDecisions decisions).rejectedRecipients := by
  rw [rewrites.bounced_eq] at member ⊢
  by_cases nobody : (Aggregate.ofDecisions decisions).rejectedRecipients = []
  · simp [nobody] at member
  · rw [if_neg nobody] at member ⊢
    obtain rfl := List.mem_singleton.1 member
    exact ⟨rfl, rfl⟩

theorem Rewrites.redirected_eq
    {decisions : List Decision} {rewritten : Processed Unit transportWorld}
    (rewrites : processor.Rewrites mail decisions rewritten) :
    copyRecipients .redirect rewritten.state.trace =
      (PlannedCopy.redirects decisions).map PlannedCopy.recipients := by
  rw [rewrites.copies, PlannedCopy.filter_plan_redirect]

/-- The fate of every recipient is met. -/
theorem Rewrites.fate_met
    {decisions : List Decision} {rewritten : Processed Unit transportWorld} {recipient : Address}
    (rewrites : processor.Rewrites mail decisions rewritten)
    (demands : ∀ decision ∈ decisions,
      Fate.Demands table domains processor.settings.kinds decision.recipient decision)
    (member : recipient ∈ mail.recipients) :
    ∃ fate, table.fate? processor.settings.kinds recipient = some fate ∧
      fate.Met domains rewritten.mail.recipients
        (copyRecipients .bounce rewritten.state.trace) recipient := by
  have live := mem_newRecipients_iff_goesOnTo rewrites.each demands
  have bounced := mem_rejectedRecipients_iff_fate rewrites.each demands
  have inDecisions := member
  rw [← rewrites.each] at inDecisions
  obtain ⟨decision, decided, same⟩ := List.mem_map.1 inDecisions
  have demand := demands decision decided
  rw [same] at demand
  rw [rewrites.live_eq, rewrites.bounced_eq]
  cases demand with
  | kept fate =>
      refine ⟨.kept, fate, ?_⟩
      exact (live recipient).2 ⟨recipient, member, Or.inl ⟨fate, rfl⟩⟩
  | rejected fate =>
      have rejected := (bounced recipient).2 ⟨member, fate⟩
      refine ⟨.rejected, fate, _, ?_, rejected⟩
      rw [if_neg (List.ne_nil_of_mem rejected)]
  | @replaced rules onSite remote fate nonempty allName _ _ =>
      refine ⟨.replaced rules, fate, allName, RuleList.addresses_ne_nil nonempty allName,
        UniqueList.nodup_ofList _, ?_⟩
      intro target inTargets isLocal
      have replacement : target ∈ table.replacements processor.settings.kinds recipient := by
        rw [RuleTable.replacements_of_replaced fate]
        exact inTargets
      exact (live target).2 ⟨recipient, member, Or.inr ⟨replacement, isLocal⟩⟩

end Processor

/-- Every recipient of a mail is accounted for by a pass that comes to its end.
A recipient has one of three fates.  One that is kept stays on the mail; one
that is rejected is among the recipients of the only bounce; one that is
replaced is replaced by at least one address, none twice, of which those
delivered here are on the mail, and the others are those of the redirect of this
recipient.  Nobody else is on the mail, redirected to or bounced, and the mail
and the bounce have nobody twice. -/
theorem Engine.recipients_accounted
    (configuration : Configuration) (names : NameSupply) (mail : Mail)
    (surroundings : Surroundings Unit Recorder)
    (succeeds : ((Engine.ofConfiguration configuration names).processor.processMail mail
      surroundings).result = .ok ()) :
    let processor := (Engine.ofConfiguration configuration names).processor
    let domains := configuration.domains.toDomainList
    let table := configuration.table.toTable domains.defaultDomain
    let kinds := processor.settings.kinds
    let live := (processor.rewriting mail surroundings).mail.recipients
    let effects := (processor.processMail mail surroundings).state.trace
    (∀ recipient ∈ mail.recipients, ∃ fate, table.fate? kinds recipient = some fate ∧
      fate.Met domains live (copyRecipients .bounce effects) recipient) ∧
    List.Forall₂
      (fun recipient sent => sent.Perm (table.remoteReplacements domains kinds recipient))
      (mail.recipients.filter fun recipient =>
        !(table.remoteReplacements domains kinds recipient).isEmpty)
      (copyRecipients .redirect effects) ∧
    (∀ address ∈ live, ∃ recipient ∈ mail.recipients,
      table.GoesOnTo domains kinds recipient address) ∧
    (∀ bounced ∈ copyRecipients .bounce effects, copyRecipients .bounce effects = [bounced] ∧
      bounced.Nodup ∧ ∀ address ∈ bounced,
        address ∈ mail.recipients ∧ table.fate? kinds address = some .rejected) ∧
    live.Nodup := by
  intro processor domains table kinds live effects
  have shared : table.defaultDomain = domains.defaultDomain :=
    TableSettings.toTable_defaultDomain configuration.table domains.defaultDomain
  obtain ⟨rewritten, _⟩ := Processor.rewriting_of_processMail succeeds
  obtain ⟨decisions, rewrites, demands⟩ := Processor.exists_demanded rfl shared rewritten
  obtain ⟨liveNodup, rejectedNodup⟩ := Aggregate.nodup_ofDecisions decisions
  have redirected : copyRecipients .redirect effects =
      (PlannedCopy.redirects decisions).map PlannedCopy.recipients :=
    (Processor.copyRecipients_processMail succeeds (Or.inl rfl)).trans rewrites.redirected_eq
  have sameBounce := Processor.copyRecipients_processMail succeeds (Or.inr rfl)
  refine ⟨?_, ?_, ?_, ?_, ?_⟩
  · intro recipient member
    have met := rewrites.fate_met demands member
    rwa [← sameBounce] at met
  · rw [redirected]
    exact redirects_perm rewrites.each demands
  · intro address member
    replace member : address ∈ (processor.rewriting mail surroundings).mail.recipients := member
    rw [rewrites.live_eq] at member
    exact (mem_newRecipients_iff_goesOnTo rewrites.each demands address).1 member
  · intro rejected member
    replace sameBounce : copyRecipients .bounce effects = _ := sameBounce
    rw [sameBounce] at member ⊢
    obtain ⟨only, rfl⟩ := rewrites.eq_of_mem_bounced member
    refine ⟨only, rejectedNodup, ?_⟩
    intro address inBounce
    exact (mem_rejectedRecipients_iff_fate rewrites.each demands address).1 inBounce
  · have nodup := liveNodup
    rw [← rewrites.live_eq] at nodup
    exact nodup

/-! ## A mail with all three fates -/

/-- A table with a user who has an alias on either side, and one who is gone. -/
def officeConfiguration : Configuration where
  processor := .default
  table := ⟨true, 3, .ofList [
    (.user "a" (.ofString "x.org"), [⟨.userAlias, "b"⟩, ⟨.userAlias, "c@y.org"⟩]),
    (.user "d" (.ofString "x.org"), [⟨.error, "554 gone"⟩])]⟩
  domains := ⟨some (.ofString "x.org"), []⟩
  audit := .default

def office : Engine :=
  .ofConfiguration officeConfiguration ⟨1⟩

/-- A mail to both users and to one without rules. -/
def officeMail : Mail :=
  .fresh ⟨0⟩ ⟨none, [⟨"a", .ofString "x.org"⟩, ⟨"d", .ofString "x.org"⟩,
    ⟨"e", .ofString "x.org"⟩]⟩ []

theorem office_accounted :
    (office.processor.processMail officeMail office.surroundings).result = .ok () ∧
      (office.processor.rewriting officeMail office.surroundings).mail.recipients =
        [⟨"b", .ofString "x.org"⟩, ⟨"e", .ofString "x.org"⟩] ∧
      copyRecipients .redirect
          (office.processor.processMail officeMail office.surroundings).state.trace =
        [[⟨"c", .ofString "y.org"⟩]] ∧
      copyRecipients .bounce
          (office.processor.processMail officeMail office.surroundings).state.trace =
        [[⟨"d", .ofString "x.org"⟩]] ∧
      ∀ recipient ∈ officeMail.recipients, ∃ fate,
        (officeConfiguration.table.toTable
            officeConfiguration.domains.toDomainList.defaultDomain).fate?
          office.processor.settings.kinds recipient = some fate ∧
        fate.Met officeConfiguration.domains.toDomainList
          (office.processor.rewriting officeMail office.surroundings).mail.recipients
          (copyRecipients .bounce
            (office.processor.processMail officeMail office.surroundings).state.trace)
          recipient := by
  have succeeds :
      (office.processor.processMail officeMail office.surroundings).result = .ok () := by
    decide +kernel
  refine ⟨succeeds, by decide +kernel, by decide +kernel, by decide +kernel, ?_⟩
  unfold office at succeeds ⊢
  exact (Engine.recipients_accounted officeConfiguration ⟨1⟩ officeMail _ succeeds).1

end RecipientRewriting
