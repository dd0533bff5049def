import RecipientRewriting.Proofs.Processing.Accounting

/-!
# Nobody is both rejected and delivered to

A table that follows rules rejects an address exactly for a walk that starts
there.  Walks from an address that replaces a recipient go on walks from that
recipient, so a rejection of the one would be a rejection of the other.
-/

namespace RecipientRewriting

namespace RuleTable

variable {table : RuleTable} {kinds : KindSet} {recipient target : Address}

theorem exists_answered_of_replaced
    {rules : RuleList}
    (fate : table.fate? kinds recipient = some (.replaced rules)) :
    ∃ source, Source.ofAddress? recipient = some source ∧
      table.resolve source kinds = .ok (.success rules) := by
  unfold fate? at fate
  cases named : Source.ofAddress? recipient with
  | none => simp [named] at fate
  | some source =>
      simp only [named] at fate
      split at fate
      · cases fate
      · cases fate
      · cases fate
      · rename_i answer _ answered
        cases fate
        exact ⟨source, rfl, answered⟩

theorem exists_replaced_of_replacement
    (replacement : target ∈ table.replacements kinds recipient) :
    ∃ rules, table.fate? kinds recipient = some (.replaced rules) ∧
      ∃ rule ∈ rules, rule.address? = some target := by
  unfold replacements at replacement
  split at replacement
  · rename_i rules fate
    exact ⟨rules, fate, RuleList.mem_addresses.1 replacement⟩
  · cases replacement

theorem exists_rejected_of_fate
    (fate : table.fate? kinds recipient = some .rejected) :
    ∃ source reason, Source.ofAddress? recipient = some source ∧
      table.resolve source kinds = .ok (.rejected reason) := by
  unfold fate? at fate
  cases named : Source.ofAddress? recipient with
  | none => simp [named] at fate
  | some source =>
      simp only [named] at fate
      split at fate
      · cases fate
      · rename_i reason answered
        exact ⟨source, reason, rfl, answered⟩
      · cases fate
      · cases fate

/-- What replaces a recipient is not rejected. -/
theorem fate_ne_rejected_of_replacement
    (recursive : table.recursive = true)
    (replacement : target ∈ table.replacements kinds recipient) :
    table.fate? kinds target ≠ some .rejected := by
  intro rejected
  obtain ⟨rules, fate, rule, member, names⟩ := exists_replaced_of_replacement replacement
  obtain ⟨source, named, answered⟩ := exists_answered_of_replaced fate
  obtain ⟨address, _, success⟩ := exists_resolveAddress named answered
  have reaches := reaches_of_mem_resolveAddress recursive success member names
  obtain ⟨targetSource, reason, targetNamed, rejection⟩ := exists_rejected_of_fate rejected
  rw [resolve_of_isParsed targetNamed (address?_isParsed names)] at rejection
  exact resolveAddress_ne_rejected recursive success reaches rejection

theorem fate_ne_rejected_of_goesOnTo
    {domains : DomainList}
    (recursive : table.recursive = true)
    (goesOn : table.GoesOnTo domains kinds recipient target) :
    table.fate? kinds target ≠ some .rejected := by
  rcases goesOn with ⟨kept, rfl⟩ | ⟨replacement, _⟩
  · simp [kept]
  · exact fate_ne_rejected_of_replacement recursive replacement

end RuleTable

/-- If the rewriting of recipients over a table that follows rules comes to its
end, nobody who is bounced is on the mail or redirected to. -/
theorem Engine.outcomes_disjoint
    (configuration : Configuration) (names : NameSupply) (mail : Mail)
    (surroundings : Surroundings Unit Recorder)
    (recursive : configuration.table.recursive = true)
    (succeeds : ((Engine.ofConfiguration configuration names).processor.rewriting mail
      surroundings).result = .ok ()) :
    let rewritten := (Engine.ofConfiguration configuration names).processor.rewriting mail
      surroundings
    ∀ bounced ∈ copyRecipients .bounce rewritten.state.trace, ∀ address ∈ bounced,
      address ∉ rewritten.mail.recipients ∧
        ∀ sent ∈ copyRecipients .redirect rewritten.state.trace, address ∉ sent := by
  intro rewritten bounced inBounces address inBounce
  let domains := configuration.domains.toDomainList
  let table := configuration.table.toTable domains.defaultDomain
  have shared : table.defaultDomain = domains.defaultDomain :=
    TableSettings.toTable_defaultDomain configuration.table domains.defaultDomain
  have follows : table.recursive = true := by
    rw [← recursive]
    exact TableSettings.toTable_recursive configuration.table domains.defaultDomain
  obtain ⟨decisions, rewrites, demands⟩ := Processor.exists_demanded rfl shared succeeds
  have rejected : address ∈ (Aggregate.ofDecisions decisions).rejectedRecipients := by
    replace inBounces : bounced ∈ copyRecipients .bounce _ := inBounces
    rw [← (rewrites.eq_of_mem_bounced inBounces).2]
    exact inBounce
  have fate := ((mem_rejectedRecipients_iff_fate rewrites.each demands address).1 rejected).2
  constructor
  · intro live
    replace live : address ∈ Mail.recipients _ := live
    rw [rewrites.live_eq, mem_newRecipients_iff_goesOnTo rewrites.each demands] at live
    obtain ⟨recipient, _, goesOn⟩ := live
    exact RuleTable.fate_ne_rejected_of_goesOnTo follows goesOn fate
  · intro sent inRedirects inSent
    replace inRedirects : sent ∈ copyRecipients .redirect _ := inRedirects
    rw [rewrites.redirected_eq] at inRedirects
    obtain ⟨planned, inPlan, rfl⟩ := List.mem_map.1 inRedirects
    obtain ⟨decision, chosen, rfl⟩ := List.mem_map.1 inPlan
    have decided := (List.mem_filter.1 chosen).1
    have remote := (demands decision decided).remote_perm.mem_iff.1 inSent
    have replacement := (List.mem_filter.1 remote).1
    exact RuleTable.fate_ne_rejected_of_replacement follows replacement fate

/-! ## A chain that is too long from its start -/

/-- A chain of three aliases in a table that looks up three addresses in a row,
which is enough from its second user on. -/
def chainConfiguration : Configuration where
  processor := .default
  table := ⟨true, 3, .ofList [
    (.user "a" (.ofString "x.org"), [⟨.userAlias, "b"⟩]),
    (.user "b" (.ofString "x.org"), [⟨.userAlias, "c"⟩]),
    (.user "c" (.ofString "x.org"), [⟨.userAlias, "d@y.org"⟩])]⟩
  domains := ⟨some (.ofString "x.org"), []⟩
  audit := .default

def chain : Engine :=
  .ofConfiguration chainConfiguration ⟨1⟩

/-- A mail to the first two users of the chain and to one without rules. -/
def chainMail : Mail :=
  .fresh ⟨0⟩ ⟨none, [⟨"a", .ofString "x.org"⟩, ⟨"b", .ofString "x.org"⟩,
    ⟨"e", .ofString "x.org"⟩]⟩ []

/-- The first user is bounced, the second one is redirected. -/
theorem chain_disjoint :
    chainConfiguration.table.recursive = true ∧
      (chain.processor.rewriting chainMail chain.surroundings).result = .ok () ∧
      copyRecipients .bounce (chain.processor.rewriting chainMail chain.surroundings).state.trace =
        [[⟨"a", .ofString "x.org"⟩]] ∧
      copyRecipients .redirect
          (chain.processor.rewriting chainMail chain.surroundings).state.trace =
        [[⟨"d", .ofString "y.org"⟩]] ∧
      ⟨"a", .ofString "x.org"⟩ ∉
        (chain.processor.rewriting chainMail chain.surroundings).mail.recipients := by
  have succeeds : (chain.processor.rewriting chainMail chain.surroundings).result = .ok () := by
    decide +kernel
  have bounced :
      copyRecipients .bounce (chain.processor.rewriting chainMail chain.surroundings).state.trace =
        [[⟨"a", .ofString "x.org"⟩]] := by
    decide +kernel
  refine ⟨rfl, succeeds, bounced, by decide +kernel, ?_⟩
  have inBounces : [⟨"a", .ofString "x.org"⟩] ∈
      copyRecipients .bounce (chain.processor.rewriting chainMail chain.surroundings).state.trace := by
    rw [bounced]
    exact List.mem_cons_self
  unfold chain at succeeds inBounces ⊢
  exact (Engine.outcomes_disjoint chainConfiguration ⟨1⟩ chainMail _ rfl succeeds _ inBounces _
    List.mem_cons_self).1

end RecipientRewriting
