import RecipientRewriting.RuleTable.Resolve

/-!
# What a lookup heeds

A lookup heeds the rules of the kinds it asks for, and error rules.  Of the others
it only notices whether there are any, since own rules hide those of a domain.  So
two tables that differ in nothing else give the same answer: the comparison goes
from the stored rules of an address to the rules that apply to it, and from there
along every chain.
-/

namespace RecipientRewriting

namespace RuleList

def heeded (rules : RuleList) (kinds : KindSet) : RuleList :=
  RuleList.select rules (kinds.including .error)

@[simp]
theorem rejection?_heeded (rules : RuleList) (kinds : KindSet) :
    rejection? (heeded rules kinds) = rejection? rules := by
  unfold rejection? heeded select
  rw [List.find?_filter]
  congr 2
  funext rule
  by_cases isError : rule.kind = .error <;> simp [KindSet.including, isError]

@[simp]
theorem select_heeded (rules : RuleList) (kinds : KindSet) :
    RuleList.select (heeded rules kinds) kinds = RuleList.select rules kinds := by
  unfold heeded select
  rw [List.filter_filter]
  refine List.filter_congr fun rule _ => ?_
  by_cases asked : kinds.contains rule.kind = true <;> simp [KindSet.including, asked]

end RuleList

namespace RuleTable

/-- The tables complete and follow targets in the same way, and a lookup for
`kinds` heeds the same rules of every source in both.  A source has rules in one
of them if it has any in the other. -/
structure AgreesOn (kinds : KindSet) (table other : RuleTable) : Prop where
  recursive : table.recursive = other.recursive
  defaultDomain : table.defaultDomain = other.defaultDomain
  occupied : ∀ source, table.stored source = [] ↔ other.stored source = []
  heeded : ∀ source,
    RuleList.heeded (table.stored source) kinds = RuleList.heeded (other.stored source) kinds

variable {table other : RuleTable} {kinds : KindSet}

/-! ## One step -/

/-- Where a rule leads depends on the table only for the domain that completes a
target. -/
theorem targetOf_congr (same : table.defaultDomain = other.defaultDomain) :
    table.targetOf = other.targetOf := by
  funext rule address
  unfold targetOf applyPattern
  rw [same]

theorem followRule_congr
    (sameRecursion : table.recursive = other.recursive)
    (sameDomain : table.defaultDomain = other.defaultDomain) :
    table.followRule = other.followRule := by
  funext follow address rule
  unfold followRule lacksDomain
  rw [sameRecursion, sameDomain, targetOf_congr sameDomain]

/-! ## Chains of steps -/

namespace AgreesOn

theorem heeded_effectiveRules (agree : table.AgreesOn kinds other) (address : Address) :
    RuleList.heeded (table.effectiveRules address) kinds =
      RuleList.heeded (other.effectiveRules address) kinds := by
  unfold effectiveRules
  cases Source.ofAddress? address with
  | none => rfl
  | some source =>
      have occupied := agree.occupied source
      have heeded := agree.heeded source
      cases own : table.stored source with
      | nil =>
          simp only [own, occupied.1 own]
          exact agree.heeded (.anyone address.domain)
      | cons rule rest =>
          cases otherOwn : other.stored source with
          | nil => simp [own, otherOwn] at occupied
          | cons otherRule otherRest => simpa only [own, otherOwn] using heeded

/-- However many addresses may be looked up, what is not heeded makes no difference. -/
theorem resolveAddress_eq (agree : table.AgreesOn kinds other) (remaining : Nat) :
    table.resolveAddress kinds remaining = other.resolveAddress kinds remaining := by
  induction remaining with
  | zero => rfl
  | succ remaining inductionHypothesis =>
      funext address
      have heeded := agree.heeded_effectiveRules address
      have sameRejection := congrArg RuleList.rejection? heeded
      have sameSelection := congrArg (RuleList.select · kinds) heeded
      simp only [RuleList.rejection?_heeded, RuleList.select_heeded] at sameRejection sameSelection
      simp only [resolveAddress]
      rw [sameRejection, sameSelection, inductionHypothesis,
        followRule_congr agree.recursive agree.defaultDomain]

theorem resolve_eq
    (agree : table.AgreesOn kinds other)
    (sameLimit : table.mappingLimit = other.mappingLimit) (source : Source) :
    table.resolve source kinds = other.resolve source kinds := by
  cases source with
  | user localPart domain =>
      unfold resolve
      rw [sameLimit, agree.resolveAddress_eq]
  | anyone domain =>
      have heeded := agree.heeded (.anyone domain)
      have sameRejection := congrArg RuleList.rejection? heeded
      have sameSelection := congrArg (RuleList.select · kinds) heeded
      simp only [RuleList.rejection?_heeded, RuleList.select_heeded] at sameRejection sameSelection
      simp only [resolve]
      rw [sameRejection, sameSelection]

end AgreesOn

end RuleTable

end RecipientRewriting
