import RecipientRewriting.Proofs.Address.Spellings
import RecipientRewriting.Proofs.Resolution.Acceptance
import RecipientRewriting.Proofs.Resolution.Answer

/-!
# Where answers come from

Whether or not a table follows rules, every rule of an answer goes back to one
that applies to some address: either it lacks a domain that the table cannot
supply and is answered as it is stored, or it names the address that the rule
sends mail to.  In a recursive table such an address is accepted itself.
-/

namespace RecipientRewriting

/-- What names an address has a domain. -/
theorem Rule.needsDomain_of_names
    {rule : Rule} {target : Address}
    (names : rule.address? = some target) :
    rule.needsDomain = false := by
  have separator : '@' ∈ rule.target.toList := by
    unfold address? at names
    by_cases isError : rule.kind = .error
    · simp [isError] at names
    · rw [if_neg isError] at names
      exact Address.separator_mem_of_parse? names
  simp [needsDomain, separator]

namespace RuleTable

variable {table : RuleTable} {kinds : KindSet}

theorem answerKind_ne_error (kind : RuleKind) : answerKind kind ≠ .error := by
  cases kind <;> decide

/-- How a rule may have come into an answer. -/
inductive Origin (table : RuleTable) (kinds : KindSet) : Rule → Prop
  /-- It lacks a domain. -/
  | incomplete {middle : Address} {rule : Rule} :
      rule ∈ table.applicable kinds middle →
      table.lacksDomain rule = true →
      Origin table kinds rule
  /-- It names where a rule sends mail to. -/
  | arrival {middle target : Address} {rule : Rule} :
      rule ∈ table.applicable kinds middle →
      table.targetOf rule middle = .ok (some target) →
      Origin table kinds (.forAddress (answerKind rule.kind) target)

/-- A rule contributes nothing, or itself, or its target, or what is answered for
its target. -/
theorem followRule_success_cases
    {follow : Address → Except LookupError Resolution} {address : Address} {rule : Rule}
    {part : RuleList}
    (contributes : table.followRule follow address rule = .ok (.success part)) :
    part = [] ∨ (table.lacksDomain rule = true ∧ part = [rule]) ∨
      ∃ target, table.targetOf rule address = .ok (some target) ∧
        (part = [.forAddress (answerKind rule.kind) target] ∨
          follow target = .ok (.success part)) := by
  unfold followRule at contributes
  by_cases lacking : table.lacksDomain rule = true
  · rw [if_pos lacking] at contributes
    cases contributes
    exact Or.inr (Or.inl ⟨lacking, rfl⟩)
  · rw [if_neg lacking] at contributes
    split at contributes
    · cases contributes
    · cases contributes
      exact Or.inl rfl
    · rename_i target sends
      split at contributes
      · cases contributes
        exact Or.inr (Or.inr ⟨target, sends, Or.inl rfl⟩)
      · split at contributes
        · split at contributes
          · cases contributes
            exact Or.inr (Or.inr ⟨target, sends, Or.inl rfl⟩)
          · cases contributes
            exact Or.inl rfl
        · split at contributes
          · cases contributes
          · cases contributes
          · cases contributes
            exact Or.inr (Or.inr ⟨target, sends, Or.inl rfl⟩)
          · rename_i followed
            cases contributes
            exact Or.inr (Or.inr ⟨target, sends, Or.inr followed⟩)

/-- What the rules on the way keep holds of every address that has a part in an
answer: of the one whose rule lacks a domain, and of the one that a rule is applied
to last. -/
theorem resolveAddress_origin_of
    (invariant : Address → Prop)
    (kept : ∀ middle target, invariant middle → ∀ rule ∈ table.applicable kinds middle,
      table.targetOf rule middle = .ok (some target) → invariant target)
    {limit : Nat} {address : Address} {rules : RuleList}
    (start : invariant address)
    (success : table.resolveAddress kinds limit address = .ok (.success rules)) :
    ∀ item ∈ rules, ∃ middle, invariant middle ∧
      (table.OffersIncomplete kinds middle item ∨
        ∃ rule ∈ table.applicable kinds middle, ∃ target,
          table.targetOf rule middle = .ok (some target) ∧
            item = .forAddress (answerKind rule.kind) target) := by
  induction limit generalizing address rules with
  | zero => simp [resolveAddress] at success
  | succ limit inductionHypothesis =>
      simp only [resolveAddress] at success
      split at success
      · simp at success
      · intro item inRules
        rcases ((gather_success success).2 item).1 inRules with
          nothing | ⟨rule, applies, part, contributes, inPart⟩
        · simp at nothing
        · rcases followRule_success_cases contributes with
            rfl | ⟨lacking, rfl⟩ | ⟨target, sends, rfl | followed⟩
          · simp at inPart
          · obtain rfl := List.mem_singleton.1 inPart
            exact ⟨address, start, Or.inl ⟨applies, lacking⟩⟩
          · obtain rfl := List.mem_singleton.1 inPart
            exact ⟨address, start, Or.inr ⟨rule, applies, target, sends, rfl⟩⟩
          · have further := kept address target start rule applies sends
            exact inductionHypothesis further followed item inPart

/-- Every rule of an answer has come into it in one of the two ways. -/
theorem resolveAddress_origin
    {limit : Nat} {address : Address} {rules : RuleList}
    (success : table.resolveAddress kinds limit address = .ok (.success rules)) :
    ∀ item ∈ rules, table.Origin kinds item := by
  intro item inRules
  obtain ⟨_, _, ⟨applies, lacking⟩ | ⟨_, applies, _, sends, rfl⟩⟩ :=
    resolveAddress_origin_of (fun _ => True) (fun _ _ _ _ _ _ => trivial) trivial success
      item inRules
  · exact .incomplete applies lacking
  · exact .arrival applies sends

/-- A rule of an answer lacks a domain that the table cannot supply, or it needs
none and names an address. -/
theorem Origin.lacksDomain_or_names
    {item : Rule}
    (origin : table.Origin kinds item) :
    table.lacksDomain item = true ∨
      item.needsDomain = false ∧ ∃ target, item.address? = some target := by
  cases origin with
  | incomplete member lacking => exact Or.inl lacking
  | @arrival middle target rule member sends =>
      have named := Rule.address?_forAddress (answerKind_ne_error rule.kind)
        (targetOf_isParsed sends)
      exact Or.inr ⟨forAddress_complete _ target, target, named⟩

/-! ## Answers for sources -/

/-- What is answered for the source of an address is answered for the address
that its written form is read as. -/
theorem exists_resolveAddress
    {recipient : Address} {source : Source} {resolution : Resolution}
    (named : Source.ofAddress? recipient = some source)
    (answered : table.resolve source kinds = .ok resolution) :
    ∃ address, Address.parse recipient.text = .ok address ∧
      table.resolveAddress kinds table.mappingLimit address = .ok resolution := by
  unfold Source.ofAddress? at named
  split at named
  · simp at named
  · simp only [Option.some.injEq] at named
    subst named
    rw [resolve] at answered
    cases read : Address.ofParts recipient.localPart recipient.domain with
    | error fault => simp [read] at answered
    | ok address =>
        simp only [read] at answered
        exact ⟨address, read, answered⟩

/-- The source of an address that was read is looked up as this address. -/
theorem resolve_of_isParsed
    {recipient : Address} {source : Source}
    (named : Source.ofAddress? recipient = some source)
    (parsed : recipient.IsParsed) :
    table.resolve source kinds = table.resolveAddress kinds table.mappingLimit recipient := by
  unfold Source.ofAddress? at named
  split at named
  · cases named
  · cases named
    have read : Address.ofParts recipient.localPart recipient.domain = .ok recipient :=
      parsed.parse_text
    rw [resolve, read]

theorem resolve_origin
    {recipient : Address} {source : Source} {rules : RuleList}
    (named : Source.ofAddress? recipient = some source)
    (answered : table.resolve source kinds = .ok (.success rules)) :
    ∀ item ∈ rules, table.Origin kinds item := by
  obtain ⟨address, _, success⟩ := exists_resolveAddress named answered
  exact resolveAddress_origin success

/-! ## Targets of recursive tables -/

theorem Keeps.address?_forAddress
    {address : Address} {kind : RuleKind}
    (keeps : table.Keeps kinds address kind) :
    (Rule.forAddress kind address).address? = some address := by
  obtain ⟨rule, _, _, keepsIdentity, stays⟩ := keeps
  have named : kind ≠ .error := by
    rintro rfl
    cases keepsIdentity
  exact Rule.address?_forAddress named (targetOf_isParsed stays)

/-- A rule that names an address has been offered because it keeps this address
or leads to it. -/
theorem Offers.names
    {middle target : Address} {item : Rule}
    (offers : table.Offers kinds middle item)
    (names : item.address? = some target) :
    (∃ kind, table.Keeps kinds middle kind ∧ item = .forAddress kind middle ∧ middle = target) ∨
      ∃ kind, table.EndsAt kinds middle kind target := by
  rcases offers with ⟨_, lacking⟩ | ⟨kind, keeps, rfl⟩ | ⟨kind, reached, ends, rfl⟩
  · simp [lacksDomain, Rule.needsDomain_of_names names] at lacking
  · rw [keeps.address?_forAddress] at names
    exact Or.inl ⟨kind, keeps, rfl, by simpa using names⟩
  · have ending := ends
    obtain ⟨⟨rule, _, leads, rfl⟩, _⟩ := ending
    rw [Rule.address?_forAddress (answerKind_ne_error rule.kind)
      (targetOf_isParsed leads.sends)] at names
    obtain rfl : reached = target := by simpa using names
    exact Or.inr ⟨_, ends⟩

/-- A table that follows rules answers only with addresses that it reaches. -/
theorem reaches_of_mem_resolveAddress
    {limit : Nat} {address target : Address} {rules : RuleList} {item : Rule}
    (recursive : table.recursive = true)
    (success : table.resolveAddress kinds limit address = .ok (.success rules))
    (member : item ∈ rules)
    (names : item.address? = some target) :
    table.Reaches kinds address target := by
  obtain ⟨middle, ⟨length, walk⟩, offers⟩ :=
    (mem_resolveAddress_iff_offers recursive success item).1 member
  rcases offers.names names with ⟨_, _, _, rfl⟩ | ⟨_, ⟨rule, applies, leads, _⟩, _⟩
  · exact ⟨length, walk⟩
  · exact ⟨length + 1, walk.append (.cons ⟨rule, applies, leads⟩ (.refl target))⟩

/-- Walks from an accepted address have fewer steps than there are lookups. -/
theorem Walk.length_lt
    {limit length : Nat} {address target : Address} {rules : RuleList}
    (walk : table.Walk kinds length address target)
    (recursive : table.recursive = true)
    (success : table.resolveAddress kinds limit address = .ok (.success rules)) :
    length < limit := by
  refine Nat.lt_of_not_le fun long => ?_
  obtain ⟨passed, initial⟩ := walk.exists_initial long
  exact (resolveAddress_success recursive success).1 passed initial

/-- What an accepted address reaches is not rejected: a walk from there that is
too long or meets an error rule goes on a walk from the address. -/
theorem resolveAddress_ne_rejected
    {limit : Nat} {address target : Address} {rules : RuleList} {reason : String}
    (recursive : table.recursive = true)
    (success : table.resolveAddress kinds limit address = .ok (.success rules))
    (reaches : table.Reaches kinds address target) :
    table.resolveAddress kinds limit target ≠ .ok (.rejected reason) := by
  intro rejection
  obtain ⟨_, unrejected⟩ := resolveAddress_success recursive success
  obtain ⟨approach, arrival⟩ := reaches
  rcases resolveAddress_rejected rejection with
    ⟨_, middle, walk⟩ | ⟨length, middle, _, walk, errorRule⟩
  · have short := (arrival.append walk).length_lt recursive success
    omega
  · have whole := arrival.append walk
    have none := unrejected _ middle (whole.length_lt recursive success) whole
    simp [none] at errorRule

end RuleTable

end RecipientRewriting
