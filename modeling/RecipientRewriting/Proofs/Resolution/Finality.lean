import RecipientRewriting.Proofs.Resolution.Targets

/-!
# Targets are final

Where a walk from an accepted address ends or is kept, following rules once more
leads nowhere else.  Walks from there go on walks from the address, so they are
no longer than lookups are left and meet neither an error rule nor a pattern that
is none, and what they add to an answer has been added before.
-/

namespace RecipientRewriting.RuleTable

variable {table : RuleTable} {kinds : KindSet} {limit : Nat} {address target : Address}
  {rules : RuleList}

theorem Reaches.trans
    {middle : Address}
    (front : table.Reaches kinds address middle)
    (back : table.Reaches kinds middle target) :
    table.Reaches kinds address target := by
  obtain ⟨first, arrival⟩ := front
  obtain ⟨second, departure⟩ := back
  exact ⟨first + second, arrival.append departure⟩

/-! ## No failures behind an accepted address -/

/-- Only rules of patterns fail to give an address, and these never lack a
domain. -/
theorem lacksDomain_of_targetOf_error
    {rule : Rule} {failure : LookupError}
    (failed : table.targetOf rule address = .error failure) :
    table.lacksDomain rule = false := by
  obtain ⟨pattern, replacement, parts, _⟩ := targetOf_error failed
  have isRegex : rule.kind = .regex := by
    refine Decidable.byContradiction fun otherKind => ?_
    rw [Rule.patternParts?, if_neg otherKind] at parts
    cases parts
  simp [lacksDomain, Rule.needsDomain, isRegex, RuleKind.keepsIdentity]

theorem followRule_ne_success_of_targetOf_error
    {follow : Address → Except LookupError Resolution} {rule : Rule} {failure : LookupError}
    {part : RuleList}
    (failed : table.targetOf rule address = .error failure) :
    table.followRule follow address rule ≠ .ok (.success part) := by
  have complete := lacksDomain_of_targetOf_error failed
  simp [followRule, complete, failed]

theorem Walk.targetOf_ne_error
    {length : Nat} {rule : Rule} {failure : LookupError}
    (walk : table.Walk kinds length address target)
    (recursive : table.recursive = true)
    (success : table.resolveAddress kinds limit address = .ok (.success rules))
    (applies : rule ∈ table.applicable kinds target) :
    table.targetOf rule target ≠ .error failure := by
  induction walk generalizing limit rules with
  | refl address =>
      intro failed
      cases limit with
      | zero => simp [resolveAddress] at success
      | succ remaining =>
          simp only [resolveAddress] at success
          split at success
          · simp at success
          · obtain ⟨part, contributes⟩ := (gather_success success).1 rule applies
            exact followRule_ne_success_of_targetOf_error failed contributes
  | cons step _ inductionHypothesis =>
      obtain ⟨remaining, rfl, below, _⟩ := resolveAddress_level recursive success
      obtain ⟨children, accepted⟩ := below _ step
      exact inductionHypothesis accepted applies

theorem exists_success_of_reaches
    (recursive : table.recursive = true)
    (success : table.resolveAddress kinds limit address = .ok (.success rules))
    (reaches : table.Reaches kinds address target) :
    ∃ later, table.resolveAddress kinds limit target = .ok (.success later) := by
  cases outcome : table.resolveAddress kinds limit target with
  | error failure =>
      obtain ⟨length, middle, _, walk, rule, applies, failed⟩ := resolveAddress_error outcome
      obtain ⟨approach, arrival⟩ := reaches
      exact absurd failed ((arrival.append walk).targetOf_ne_error recursive success applies)
  | ok resolution =>
      cases resolution with
      | rejected reason =>
          exact absurd outcome (resolveAddress_ne_rejected recursive success reaches)
      | success later => exact ⟨later, rfl⟩

/-! ## Nothing new behind a target -/

theorem subset_of_reaches
    {later : RuleList}
    (recursive : table.recursive = true)
    (success : table.resolveAddress kinds limit address = .ok (.success rules))
    (reaches : table.Reaches kinds address target)
    (accepted : table.resolveAddress kinds limit target = .ok (.success later)) :
    ∀ item ∈ later, item ∈ rules := by
  intro item member
  obtain ⟨middle, onward, offers⟩ :=
    (mem_resolveAddress_iff_offers recursive accepted item).1 member
  exact (mem_resolveAddress_iff_offers recursive success item).2
    ⟨middle, reaches.trans onward, offers⟩

theorem mem_addresses_of_keeps
    {kind : RuleKind}
    (recursive : table.recursive = true)
    (success : table.resolveAddress kinds limit target = .ok (.success rules))
    (keeps : table.Keeps kinds target kind) :
    ∃ item ∈ rules, item.address? = some target := by
  have offers : table.Offers kinds target (.forAddress kind target) :=
    Or.inr (Or.inl ⟨kind, keeps, rfl⟩)
  have member := (mem_resolveAddress_iff_offers recursive success _).2
    ⟨target, .refl target, offers⟩
  exact ⟨.forAddress kind target, member, keeps.address?_forAddress⟩

/-- An address that an answer names is accepted with rules of that answer.  There
are none, or a rule keeps the address and it is named among them. -/
theorem resolveAddress_final
    {item : Rule}
    (recursive : table.recursive = true)
    (success : table.resolveAddress kinds limit address = .ok (.success rules))
    (member : item ∈ rules)
    (names : item.address? = some target) :
    ∃ later, table.resolveAddress kinds limit target = .ok (.success later) ∧
      (∀ other ∈ later, other ∈ rules) ∧
      (later = [] ∨ (∃ kind, table.Keeps kinds target kind) ∧
        ∃ other ∈ later, other.address? = some target) := by
  have reaches := reaches_of_mem_resolveAddress recursive success member names
  obtain ⟨later, accepted⟩ := exists_success_of_reaches recursive success reaches
  refine ⟨later, accepted, subset_of_reaches recursive success reaches accepted, ?_⟩
  obtain ⟨middle, _, offers⟩ :=
    (mem_resolveAddress_iff_offers recursive success item).1 member
  rcases offers.names names with ⟨kind, keeps, _, rfl⟩ | ⟨_, _, terminal⟩
  · exact Or.inr ⟨⟨kind, keeps⟩, mem_addresses_of_keeps recursive accepted keeps⟩
  · exact Or.inl ((resolveAddress_eq_nil_iff recursive accepted).2 terminal)

end RecipientRewriting.RuleTable
