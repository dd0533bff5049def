import RecipientRewriting.Proofs.Processing.Fates
import RecipientRewriting.Proofs.Resolution.Finality

/-!
# Answers name final targets

Whoever a rule of an answer names is accepted when its own rules are followed,
with rules of that answer and nothing else.  So once each target is replaced by
what is answered for it, the same addresses are named as before.
-/

namespace RecipientRewriting.RuleTable

variable {table : RuleTable} {kinds : KindSet} {target address : Address} {rules : RuleList}

theorem mem_addresses_of_subset
    {answer : RuleList}
    (subset : ∀ item ∈ rules, item ∈ answer)
    (member : address ∈ RuleList.addresses rules) :
    address ∈ RuleList.addresses answer := by
  obtain ⟨item, inRules, names⟩ := RuleList.mem_addresses.1 member
  exact RuleList.mem_addresses.2 ⟨item, subset item inRules, names⟩

/-- Whom an answer names is kept by its own rules, or one of them maps it to itself
and all that they answer has been answered already. -/
theorem fate_of_target
    {origin : Address}
    (recursive : table.recursive = true)
    (success : table.resolveAddress kinds table.mappingLimit origin = .ok (.success rules))
    (named : target ∈ RuleList.addresses rules) :
    table.fate? kinds target = some .kept ∨
      (∃ kind, table.Keeps kinds target kind) ∧
        ∃ later, table.fate? kinds target = some (.replaced later) ∧
          (∀ item ∈ later, item ∈ rules) ∧ target ∈ RuleList.addresses later := by
  obtain ⟨item, member, names⟩ := RuleList.mem_addresses.1 named
  obtain ⟨later, accepted, subset, outcome⟩ :=
    resolveAddress_final recursive success member names
  cases found : Source.ofAddress? target with
  | none =>
      exact Or.inl (fate_of_unnamed found)
  | some source =>
      have resolved : table.resolve source kinds = .ok (.success later) := by
        rw [resolve_of_isParsed found (address?_isParsed names)]
        exact accepted
      rcases outcome with rfl | ⟨keeps, other, inLater, otherNames⟩
      · exact Or.inl (fate_of_unmapped found resolved)
      · have replaced := fate_of_mapped found resolved (List.ne_nil_of_mem inLater)
        have among := RuleList.mem_addresses.2 ⟨other, inLater, otherNames⟩
        exact Or.inr ⟨keeps, later, replaced, subset, among⟩

/-- What a target is replaced by when its rules are followed once more: itself, if
they say nothing. -/
def resolvedAgain (table : RuleTable) (kinds : KindSet) (target : Address) : List Address :=
  if table.fate? kinds target = some .kept then [target] else table.replacements kinds target

theorem resolvedAgain_of_kept
    (kept : table.fate? kinds target = some .kept) :
    table.resolvedAgain kinds target = [target] := by
  rw [resolvedAgain, if_pos kept]

theorem resolvedAgain_of_replaced
    (replaced : table.fate? kinds target = some (.replaced rules)) :
    table.resolvedAgain kinds target = RuleList.addresses rules := by
  have notKept : table.fate? kinds target ≠ some .kept := by
    rw [replaced]
    simp
  rw [resolvedAgain, if_neg notKept, replacements_of_replaced replaced]

/-- Resolving the targets of an answer once more gives these targets. -/
theorem mem_flatMap_resolvedAgain_iff
    {origin : Address}
    (recursive : table.recursive = true)
    (success : table.resolveAddress kinds table.mappingLimit origin = .ok (.success rules)) :
    address ∈ (RuleList.addresses rules).flatMap (table.resolvedAgain kinds) ↔
      address ∈ RuleList.addresses rules := by
  rw [List.mem_flatMap]
  constructor
  · rintro ⟨target, named, onward⟩
    rcases fate_of_target recursive success named with kept | ⟨_, later, replaced, subset, _⟩
    · rw [resolvedAgain_of_kept kept] at onward
      obtain rfl := List.mem_singleton.1 onward
      exact named
    · rw [resolvedAgain_of_replaced replaced] at onward
      exact mem_addresses_of_subset subset onward
  · intro named
    refine ⟨address, named, ?_⟩
    rcases fate_of_target recursive success named with kept | ⟨_, later, replaced, _, among⟩
    · rw [resolvedAgain_of_kept kept]
      exact List.mem_singleton_self address
    · rw [resolvedAgain_of_replaced replaced]
      exact among

/-- Where a table follows rules, the targets of an answer are final.  The source
of a target is answered with rules of that answer: with none of them, or with
some that name the target.  Replacing each target by what is answered for it,
and leaving it where that is nothing, therefore gives the same addresses. -/
theorem targets_final
    (table : RuleTable) (kinds : KindSet) (localPart : String) (domain : Domain)
    (rules : RuleList)
    (recursive : table.recursive = true)
    (success : table.resolve (.user localPart domain) kinds = .ok (.success rules)) :
    (∀ item ∈ rules, ∀ target source, item.address? = some target →
      Source.ofAddress? target = some source →
      ∃ later, table.resolve source kinds = .ok (.success later) ∧
        (∀ other ∈ later, other ∈ rules) ∧
        (later = [] ∨ ∃ other ∈ later, other.address? = some target)) ∧
    ∀ address, address ∈ (RuleList.addresses rules).flatMap (table.resolvedAgain kinds) ↔
      address ∈ RuleList.addresses rules := by
  obtain ⟨origin, accepted⟩ : ∃ origin,
      table.resolveAddress kinds table.mappingLimit origin = .ok (.success rules) := by
    rw [resolve] at success
    cases read : Address.ofParts localPart domain with
    | error fault =>
        simp [read] at success
    | ok origin =>
        rw [read] at success
        exact ⟨origin, success⟩
  constructor
  · intro item member target source names found
    obtain ⟨later, laterAccepted, subset, outcome⟩ :=
      resolveAddress_final recursive accepted member names
    refine ⟨later, ?_, subset, ?_⟩
    · rw [resolve_of_isParsed found (address?_isParsed names)]
      exact laterAccepted
    · rcases outcome with nothing | ⟨_, named⟩
      · exact Or.inl nothing
      · exact Or.inr named
  · intro address
    exact mem_flatMap_resolvedAgain_iff recursive accepted

/-- A user stands for another one, who keeps a copy and has the mail sent to a
third. -/
def keepingTable : RuleTable where
  rules := .ofList [
    (.user "a" (.ofString "x.org"), [⟨.userAlias, "b@x.org"⟩]),
    (.user "b" (.ofString "x.org"), [⟨.userAlias, "b@x.org"⟩, ⟨.group, "c@x.org"⟩])]
  recursive := true
  mappingLimit := 3
  defaultDomain := none

theorem keepingTable_final :
    keepingTable.resolve (.user "a" (.ofString "x.org")) .all =
        .ok (.success [⟨.userAlias, "b@x.org"⟩, ⟨.group, "c@x.org"⟩]) ∧
      (∃ later, keepingTable.resolve (.user "b" (.ofString "x.org")) .all =
          .ok (.success later) ∧
        ∃ other ∈ later, other.address? = some ⟨"b", .ofString "x.org"⟩) ∧
      (⟨"c", .ofString "x.org"⟩ ∈
        (RuleList.addresses [⟨.userAlias, "b@x.org"⟩, ⟨.group, "c@x.org"⟩]).flatMap
          (keepingTable.resolvedAgain .all)) := by
  have success : keepingTable.resolve (.user "a" (.ofString "x.org")) .all =
      .ok (.success [⟨.userAlias, "b@x.org"⟩, ⟨.group, "c@x.org"⟩]) := by
    decide +kernel
  obtain ⟨each, same⟩ := targets_final keepingTable .all _ _ _ rfl success
  obtain ⟨later, answered, _, outcome⟩ := each ⟨.userAlias, "b@x.org"⟩ List.mem_cons_self
    ⟨"b", .ofString "x.org"⟩ (.user "b" (.ofString "x.org")) (by decide +kernel)
    (by decide +kernel)
  have answer : keepingTable.resolve (.user "b" (.ofString "x.org")) .all ≠
      .ok (.success []) := by
    decide +kernel
  refine ⟨success, ⟨later, answered, ?_⟩, (same _).2 (by decide +kernel)⟩
  rcases outcome with rfl | named
  · exact absurd answered answer
  · exact named

end RecipientRewriting.RuleTable
