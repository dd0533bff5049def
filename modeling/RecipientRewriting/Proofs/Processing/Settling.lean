import RecipientRewriting.Proofs.Processing.Idempotence

/-!
# Redirects settle

A redirect carries nothing that says that it is one.  What ends its way is that
targets are final: a recipient of it is kept, and no copy is made for somebody
who is kept.  The exception is a recipient elsewhere whom a rule maps to itself,
which replaces that recipient and so redirects the mail over and over.
-/

namespace RecipientRewriting

namespace RuleTable

variable {table : RuleTable} {domains : DomainList} {kinds : KindSet}
  {recipient target : Address}

/-- Somebody elsewhere who replaces a recipient has only replacements elsewhere
if a rule keeps them, and these replace that recipient too. -/
theorem remoteReplacements_of_remote
    (recursive : table.recursive = true)
    (remote : target ∈ table.remoteReplacements domains kinds recipient)
    (goesOn : table.remoteReplacements domains kinds target ≠ []) :
    (∃ kind, table.Keeps kinds target kind) ∧
      target ∈ table.remoteReplacements domains kinds target ∧
      ∀ address ∈ table.remoteReplacements domains kinds target,
        address ∈ table.remoteReplacements domains kinds recipient := by
  obtain ⟨replacement, elsewhere⟩ := List.mem_filter.1 remote
  obtain ⟨answer, fate, kept | ⟨keeps, rules, replaced, subset, among⟩⟩ :=
    fate_of_replacement recursive replacement
  · rw [remoteReplacements, replacements_of_kept kept] at goesOn
    exact absurd rfl goesOn
  · have replacements := replacements_of_replaced replaced
    refine ⟨keeps, ?_, ?_⟩
    · rw [remoteReplacements, replacements]
      exact List.mem_filter.2 ⟨among, elsewhere⟩
    · intro address member
      rw [remoteReplacements, replacements] at member
      obtain ⟨named, addressElsewhere⟩ := List.mem_filter.1 member
      rw [remoteReplacements, replacements_of_replaced fate]
      exact List.mem_filter.2 ⟨mem_addresses_of_subset subset named, addressElsewhere⟩

end RuleTable

/-- A redirect is for what replaces a recipient elsewhere, and there is such a
replacement. -/
theorem Processor.exists_remote_of_redirect
    {transportWorld : Type} {processor : Processor Unit transportWorld} {table : RuleTable}
    {domains : DomainList} {mail : Mail} {surroundings : Surroundings Unit transportWorld}
    {injection : Injection} {answer : Except TransportError Unit}
    (directory : processor.directory = .ofTable table domains)
    (shared : table.defaultDomain = domains.defaultDomain)
    (member : .injected .redirect injection answer ∈
      (processor.processMail mail surroundings).state.trace) :
    ∃ recipient ∈ mail.recipients,
      table.remoteReplacements domains processor.settings.kinds recipient ≠ [] ∧
        ∀ address, address ∈ injection.mail.recipients ↔
          address ∈ table.remoteReplacements domains processor.settings.kinds recipient := by
  obtain ⟨decisions, each, demands, planned, inPlan, redirects, addressed⟩ :=
    exists_planned directory shared (Or.inl rfl) member
  have inRedirects : planned ∈ PlannedCopy.redirects decisions := by
    rw [← PlannedCopy.filter_plan_redirect]
    exact List.mem_filter.2 ⟨inPlan, by simpa using redirects⟩
  obtain ⟨decision, chosen, rfl⟩ := List.mem_map.1 inRedirects
  obtain ⟨decided, nonempty⟩ := List.mem_filter.1 chosen
  have remote := (demands decision decided).remote_perm
  refine ⟨decision.recipient, ?_, ?_, ?_⟩
  · rw [← each]
    exact List.mem_map_of_mem decided
  · intro nobody
    rw [nobody] at remote
    simp [remote.eq_nil] at nonempty
  · intro address
    rw [addressed]
    exact remote.mem_iff

/-- A pass over a redirect makes a further one only for a recipient whom a rule
of a requested kind maps to itself.  The further one is for this recipient and
for nobody who has not been a recipient of the first one. -/
theorem Engine.redirects_settle
    (configuration : Configuration) (names : NameSupply) (mail : Mail)
    (surroundings later : Surroundings Unit Recorder)
    (injection : Injection) (answer : Except TransportError Unit)
    (recursive : configuration.table.recursive = true)
    (redirected : .injected .redirect injection answer ∈
      ((Engine.ofConfiguration configuration names).processor.processMail mail
        surroundings).state.trace) :
    let processor := (Engine.ofConfiguration configuration names).processor
    let domains := configuration.domains.toDomainList
    let table := configuration.table.toTable domains.defaultDomain
    ∀ further reply, .injected .redirect further reply ∈
        (processor.processMail injection.mail later).state.trace →
      ∃ recipient ∈ injection.mail.recipients,
        (∃ kind, table.Keeps processor.settings.kinds recipient kind) ∧
          recipient ∈ further.mail.recipients ∧
          ∀ address ∈ further.mail.recipients, address ∈ injection.mail.recipients := by
  intro processor domains table further reply redirectedAgain
  have directory : processor.directory = .ofTable table domains := rfl
  have shared : table.defaultDomain = domains.defaultDomain :=
    TableSettings.toTable_defaultDomain configuration.table domains.defaultDomain
  have follows : table.recursive = true :=
    (TableSettings.toTable_recursive configuration.table domains.defaultDomain).trans recursive
  obtain ⟨origin, _, _, first⟩ :=
    Processor.exists_remote_of_redirect directory shared redirected
  obtain ⟨recipient, member, goesOn, second⟩ :=
    Processor.exists_remote_of_redirect directory shared redirectedAgain
  have remote := (first recipient).1 member
  obtain ⟨keeps, itself, among⟩ :=
    RuleTable.remoteReplacements_of_remote follows remote goesOn
  refine ⟨recipient, member, keeps, (second recipient).2 itself, ?_⟩
  intro address addressed
  exact (first address).2 (among address ((second address).1 addressed))

theorem mem_of_taken
    {effects : List Effect} {reason : CopyReason} {injection : Injection}
    (taken : (reason, injection) ∈ effects.filterMap Effect.taken?) :
    .injected reason injection (.ok ()) ∈ effects := by
  obtain ⟨effect, member, same⟩ := List.mem_filterMap.1 taken
  rw [Effect.taken?_eq_some_iff] at same
  rw [← same]
  exact member

/-! ## A domain that is mapped to itself -/

/-- A user with an alias elsewhere, and a rule that maps the whole domain there
to itself. -/
def renamedConfiguration : Configuration where
  processor := .default
  table := ⟨true, 3, .ofList [
    (.user "a" (.ofString "x.org"), [⟨.userAlias, "b@y.org"⟩]),
    (.anyone (.ofString "y.org"), [⟨.domain, "y.org"⟩])]⟩
  domains := ⟨some (.ofString "x.org"), []⟩
  audit := .default

def renamed : Engine :=
  .ofConfiguration renamedConfiguration ⟨1⟩

def redirectedUser : Address :=
  ⟨"a", .ofString "x.org"⟩

def redirectTarget : Address :=
  ⟨"b", .ofString "y.org"⟩

def redirectMail : Mail :=
  .fresh ⟨0⟩ ⟨none, [redirectedUser]⟩ []

def redirectCopy (name : MailName) : Injection :=
  ⟨(redirectMail.duplicate name).withRecipients [redirectTarget], none⟩

/-- A rule that computes an address does not keep it, so that the redirect is the
last one. -/
theorem renamed_settles :
    renamedConfiguration.table.recursive = true ∧
      .injected .redirect (redirectCopy ⟨1⟩) (.ok ()) ∈
        (renamed.processor.processMail redirectMail renamed.surroundings).state.trace ∧
      ∀ further reply, .injected .redirect further reply ∉
        (renamed.processor.processMail (redirectCopy ⟨1⟩).mail
          renamed.surroundings).state.trace := by
  have redirected : .injected .redirect (redirectCopy ⟨1⟩) (.ok ()) ∈
      (renamed.processor.processMail redirectMail renamed.surroundings).state.trace := by
    apply mem_of_taken
    decide +kernel
  refine ⟨rfl, redirected, ?_⟩
  intro further reply redirectedAgain
  unfold renamed at redirected redirectedAgain
  obtain ⟨recipient, member, ⟨kind, rule, applies, rfl, keeps, _⟩, _⟩ :=
    Engine.redirects_settle renamedConfiguration ⟨1⟩ redirectMail _ _ _ _ rfl redirected
      further reply redirectedAgain
  obtain rfl := List.mem_singleton.1 member
  have only : RuleTable.applicable
      (renamedConfiguration.table.toTable
        renamedConfiguration.domains.toDomainList.defaultDomain)
      (Engine.ofConfiguration renamedConfiguration ⟨1⟩).processor.settings.kinds
      redirectTarget = [⟨.domain, "y.org"⟩] := by
    decide +kernel
  rw [only] at applies
  obtain rfl := List.mem_singleton.1 applies
  cases keeps

/-! ## Somebody elsewhere who is an alias of themselves -/

/-- A user with an alias elsewhere, who is an alias of themselves. -/
def echoConfiguration : Configuration where
  processor := .default
  table := ⟨true, 3, .ofList [
    (.user "a" (.ofString "x.org"), [⟨.userAlias, "b@y.org"⟩]),
    (.user "b" (.ofString "y.org"), [⟨.userAlias, "b@y.org"⟩])]⟩
  domains := ⟨some (.ofString "x.org"), []⟩
  audit := .default

def echo : Engine :=
  .ofConfiguration echoConfiguration ⟨1⟩

def echoFirst : Processed Unit Recorder :=
  echo.processor.processMail redirectMail echo.surroundings

/-- A pass of the same engine over the redirect makes another one, to the same
recipient. -/
theorem redirect_circulates :
    echoConfiguration.table.recursive = true ∧
      echoFirst.result = .ok () ∧
      .injected .redirect (redirectCopy ⟨1⟩) (.ok ()) ∈ echoFirst.state.trace ∧
      (redirectCopy ⟨1⟩).state = none ∧
      .injected .redirect (redirectCopy ⟨2⟩) (.ok ()) ∈
        (echo.processor.processMail (redirectCopy ⟨1⟩).mail
          echoFirst.state.toSurroundings).state.trace := by
  refine ⟨rfl, by decide +kernel, ?_, rfl, ?_⟩
  · apply mem_of_taken
    decide +kernel
  · apply mem_of_taken
    decide +kernel

end RecipientRewriting
