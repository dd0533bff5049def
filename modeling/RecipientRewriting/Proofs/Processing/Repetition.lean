import RecipientRewriting.Proofs.Processing.Accounting

/-!
# How often somebody is redirected to

Recipients are redirected one by one, and each redirect is for the targets of one
of them.  So somebody gets as many copies as there are recipients, counted with
their repetitions, that have them for a remote target.  The mail itself reaches
such a target only if it was one of the recipients and its own rules keep it.
-/

namespace RecipientRewriting

section Decisions

variable {table : RuleTable} {domains : DomainList} {kinds : KindSet}
  {recipients : List Address} {decisions : List Decision}

theorem RuleTable.nodup_remoteReplacements
    (table : RuleTable) (domains : DomainList) (kinds : KindSet) (recipient : Address) :
    (table.remoteReplacements domains kinds recipient).Nodup := by
  unfold remoteReplacements replacements
  apply List.Pairwise.filter
  split
  · exact UniqueList.nodup_ofList _
  · exact List.nodup_nil

theorem RuleTable.isLocal_of_mem_remoteReplacements
    {recipient address : Address}
    (member : address ∈ table.remoteReplacements domains kinds recipient) :
    domains.isLocal address.domain = false := by
  have elsewhere := (List.mem_filter.1 member).2
  simpa using elsewhere

theorem exists_recipient_of_redirects
    {sent : List Address}
    (demands : ∀ decision ∈ decisions,
      Fate.Demands table domains kinds decision.recipient decision)
    (member : sent ∈ (PlannedCopy.redirects decisions).map PlannedCopy.recipients) :
    ∃ recipient, sent.Perm (table.remoteReplacements domains kinds recipient) := by
  obtain ⟨planned, inPlan, rfl⟩ := List.mem_map.1 member
  obtain ⟨decision, chosen, rfl⟩ := List.mem_map.1 inPlan
  have decided := (List.mem_filter.1 chosen).1
  exact ⟨decision.recipient, (demands decision decided).remote_perm⟩

/-- The redirects to somebody are as many as the recipients whose remote targets
include it. -/
theorem countP_redirects
    (each : decisions.map Decision.recipient = recipients)
    (demands : ∀ decision ∈ decisions,
      Fate.Demands table domains kinds decision.recipient decision)
    (address : Address) :
    ((PlannedCopy.redirects decisions).map PlannedCopy.recipients).countP
        (fun sent => address ∈ sent) =
      recipients.countP fun recipient =>
        address ∈ table.remoteReplacements domains kinds recipient := by
  have planned : (PlannedCopy.redirects decisions).map PlannedCopy.recipients =
      (decisions.filter fun decision => !decision.remote.isEmpty).map Decision.remote := by
    simp [PlannedCopy.redirects]
  rw [planned, ← each, List.countP_map, List.countP_map, List.countP_filter]
  apply List.countP_congr
  intro decision member
  have remote := (demands decision member).remote_perm
  by_cases sentTo : address ∈ decision.remote
  · have nonempty : decision.remote ≠ [] := List.ne_nil_of_mem sentTo
    simp [sentTo, remote.mem_iff.1 sentTo, nonempty]
  · have notAmong : address ∉ table.remoteReplacements domains kinds decision.recipient :=
      fun among => sentTo (remote.mem_iff.2 among)
    simp [sentTo, notAmong]

/-- Mail goes on to somebody elsewhere only if it is one of the recipients and is
kept. -/
theorem mem_newRecipients_iff_kept
    {address : Address}
    (each : decisions.map Decision.recipient = recipients)
    (demands : ∀ decision ∈ decisions,
      Fate.Demands table domains kinds decision.recipient decision)
    (elsewhere : domains.isLocal address.domain = false) :
    address ∈ (Aggregate.ofDecisions decisions).newRecipients ↔
      address ∈ recipients ∧ table.fate? kinds address = some .kept := by
  rw [mem_newRecipients_iff_goesOnTo each demands]
  constructor
  · rintro ⟨recipient, member, ⟨kept, rfl⟩ | ⟨_, isLocal⟩⟩
    · exact ⟨member, kept⟩
    · rw [elsewhere] at isLocal
      cases isLocal
  · rintro ⟨member, kept⟩
    exact ⟨address, member, Or.inl ⟨kept, rfl⟩⟩

end Decisions

/-- No redirect that a pass makes names anybody twice, and somebody is named by as
many redirects as there are recipients, counted with their repetitions, that have
them for a remote target.  Whoever is redirected to stays on the mail as well if
it was one of the recipients and its own rules say nothing, and only then. -/
theorem Engine.redirects_counted
    (configuration : Configuration) (names : NameSupply) (mail : Mail)
    (surroundings : Surroundings Unit Recorder)
    (succeeds : ((Engine.ofConfiguration configuration names).processor.processMail mail
      surroundings).result = .ok ()) :
    let processor := (Engine.ofConfiguration configuration names).processor
    let domains := configuration.domains.toDomainList
    let table := configuration.table.toTable domains.defaultDomain
    let kinds := processor.settings.kinds
    let live := (processor.rewriting mail surroundings).mail.recipients
    let redirected := copyRecipients .redirect
      (processor.processMail mail surroundings).state.trace
    (∀ sent ∈ redirected, sent.Nodup) ∧
    (∀ address, (redirected.countP fun sent => address ∈ sent) =
      mail.recipients.countP fun recipient =>
        address ∈ table.remoteReplacements domains kinds recipient) ∧
    ∀ sent ∈ redirected, ∀ address ∈ sent,
      (address ∈ live ↔ address ∈ mail.recipients ∧ table.fate? kinds address = some .kept) := by
  intro processor domains table kinds live redirected
  have shared : table.defaultDomain = domains.defaultDomain :=
    TableSettings.toTable_defaultDomain configuration.table domains.defaultDomain
  obtain ⟨rewritten, _⟩ := Processor.rewriting_of_processMail succeeds
  obtain ⟨decisions, rewrites, demands⟩ := Processor.exists_demanded rfl shared rewritten
  have sameCopies : redirected = (PlannedCopy.redirects decisions).map PlannedCopy.recipients :=
    (Processor.copyRecipients_processMail succeeds (Or.inl rfl)).trans rewrites.redirected_eq
  have sameLive : live = (Aggregate.ofDecisions decisions).newRecipients := rewrites.live_eq
  rw [sameCopies, sameLive]
  refine ⟨?_, countP_redirects rewrites.each demands, ?_⟩
  · intro sent member
    obtain ⟨recipient, remote⟩ := exists_recipient_of_redirects demands member
    exact remote.nodup_iff.2 (table.nodup_remoteReplacements domains kinds recipient)
  · intro sent member address inSent
    obtain ⟨recipient, remote⟩ := exists_recipient_of_redirects demands member
    have elsewhere := RuleTable.isLocal_of_mem_remoteReplacements (remote.mem_iff.1 inSent)
    exact mem_newRecipients_iff_kept rewrites.each demands elsewhere

/-! ## A mail that reaches somebody three times -/

/-- Two users stand for the same remote one. -/
def twinConfiguration : Configuration where
  processor := .default
  table := ⟨true, 3, .ofList [
    (.user "a" (.ofString "x.org"), [⟨.userAlias, "c@y.org"⟩]),
    (.user "b" (.ofString "x.org"), [⟨.userAlias, "c@y.org"⟩])]⟩
  domains := ⟨some (.ofString "x.org"), []⟩
  audit := .default

def twin : Engine :=
  .ofConfiguration twinConfiguration ⟨1⟩

/-- The remote user, to whom the mail goes three times. -/
def twinTarget : Address :=
  ⟨"c", .ofString "y.org"⟩

def twinMail : Mail :=
  .fresh ⟨0⟩ ⟨none, [⟨"a", .ofString "x.org"⟩, ⟨"b", .ofString "x.org"⟩, twinTarget]⟩ []

theorem twin_counted :
    (twin.processor.processMail twinMail twin.surroundings).result = .ok () ∧
      ((copyRecipients .redirect
          (twin.processor.processMail twinMail twin.surroundings).state.trace).countP
        fun sent => twinTarget ∈ sent) = 2 := by
  have succeeds : (twin.processor.processMail twinMail twin.surroundings).result = .ok () := by
    decide +kernel
  unfold twin at succeeds ⊢
  obtain ⟨_, counted, _⟩ := Engine.redirects_counted twinConfiguration ⟨1⟩ twinMail _ succeeds
  refine ⟨succeeds, (counted twinTarget).trans ?_⟩
  decide +kernel

/-- The pass makes two redirects to the remote user, who is on the mail as well. -/
theorem twin_redirects_repeat :
    (twin.processor.processMail twinMail twin.surroundings).result = .ok () ∧
      (((twin.processor.processMail twinMail twin.surroundings).state.trace.filterMap
          Effect.taken?).map fun copy =>
        (copy.1, copy.2.mail.name, copy.2.mail.recipients)) =
        [(.redirect, ⟨1⟩, [twinTarget]), (.redirect, ⟨2⟩, [twinTarget])] ∧
      (twin.processor.rewriting twinMail twin.surroundings).mail.recipients = [twinTarget] := by
  decide +kernel

end RecipientRewriting
