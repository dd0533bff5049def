import RecipientRewriting.Proofs.Resolution.Walk

/-!
# When an address is accepted

Following rules rejects an address exactly if a walk from it is too long or
passes an address with an error rule.  The number of lookups that are left is
compared with the length of walks: with `limit` lookups, an address at the end
of a walk of fewer than `limit` steps is looked up, and one at the end of
`limit` steps is one too many.
-/

namespace RecipientRewriting.RuleTable

variable {table : RuleTable} {kinds : KindSet}

/-- Every pattern among the rules of an address that is looked up, and of the
addresses looked up for its sake, is one. -/
def PatternsCompile (table : RuleTable) (kinds : KindSet) (limit : Nat) (address : Address) :
    Prop :=
  ∀ length target, length < limit → table.Walk kinds length address target →
    ∀ rule ∈ table.applicable kinds target, ∀ pattern replacement,
      rule.patternParts? = some (pattern, replacement) →
        (Pattern.compileWhole? pattern).isSome = true

theorem applyPattern_error
    {rule : Rule} {address : Address} {failure : LookupError}
    (failed : table.applyPattern rule address = .error failure) :
    ∃ pattern replacement, rule.patternParts? = some (pattern, replacement) ∧
      Pattern.compileWhole? pattern = none := by
  unfold applyPattern at failed
  split at failed
  · simp at failed
  · rename_i pattern replacement parts
    split at failed
    · rename_i broken
      exact ⟨pattern, replacement, parts, broken⟩
    · split at failed
      · simp at failed
      · dsimp only at failed
        split at failed
        · split at failed <;> simp at failed
        · simp at failed

/-- Only a pattern that is none keeps a rule from being applied. -/
theorem targetOf_error
    {rule : Rule} {address : Address} {failure : LookupError}
    (failed : table.targetOf rule address = .error failure) :
    ∃ pattern replacement, rule.patternParts? = some (pattern, replacement) ∧
      Pattern.compileWhole? pattern = none := by
  unfold targetOf at failed
  cases kind : rule.kind with
  | regex =>
      simp only [kind] at failed
      exact applyPattern_error failed
  | userAlias | group | forward =>
      simp only [kind] at failed
      split at failed <;> simp at failed
  | domain | domainAlias | error =>
      simp [kind] at failed

/-! ## The three kinds of outcome -/

/-- A failure comes from a rule of an address that is looked up. -/
theorem resolveAddress_error
    {limit : Nat} {address : Address} {failure : LookupError}
    (failed : table.resolveAddress kinds limit address = .error failure) :
    ∃ length target, length < limit ∧ table.Walk kinds length address target ∧
      ∃ rule ∈ table.applicable kinds target,
        table.targetOf rule target = .error failure := by
  induction limit generalizing address with
  | zero => simp [resolveAddress] at failed
  | succ limit inductionHypothesis =>
      simp only [resolveAddress] at failed
      split at failed
      · simp at failed
      · obtain ⟨rule, member, ruleFailed⟩ := gather_error failed
        rcases followRule_error ruleFailed with problem | ⟨middle, leads, later⟩
        · exact ⟨0, address, by omega, .refl address, rule, member, problem⟩
        · obtain ⟨length, target, bound, walk, broken⟩ := inductionHypothesis later
          have step : table.Step kinds address middle := ⟨rule, member, leads⟩
          exact ⟨length + 1, target, by omega, .cons step walk, broken⟩

/-- What is accepted has no walk of `limit` steps, and no walk of fewer steps to
an address with an error rule. -/
theorem resolveAddress_success
    (recursive : table.recursive = true)
    {limit : Nat} {address : Address} {rules : RuleList}
    (success : table.resolveAddress kinds limit address = .ok (.success rules)) :
    (∀ target, ¬ table.Walk kinds limit address target) ∧
      ∀ length target, length < limit → table.Walk kinds length address target →
        RuleList.rejection? (table.effectiveRules target) = none := by
  induction limit generalizing address rules with
  | zero => simp [resolveAddress] at success
  | succ limit inductionHypothesis =>
      simp only [resolveAddress] at success
      split at success
      · simp at success
      · rename_i unrejected
        -- The address itself takes up one lookup, so every neighbour has been followed
        -- with one lookup less and walks from it are one step shorter.
        have below : ∀ middle, table.Step kinds address middle →
            ∃ children, table.resolveAddress kinds limit middle = .ok (.success children) := by
          rintro middle ⟨rule, member, leads⟩
          obtain ⟨part, contributes⟩ := (gather_success success).1 rule member
          exact followRule_success_leads recursive contributes leads
        constructor
        · intro target walk
          obtain ⟨middle, step, rest⟩ := Walk.succ_iff.1 walk
          obtain ⟨children, accepted⟩ := below middle step
          exact (inductionHypothesis accepted).1 target rest
        · intro length target bound walk
          cases walk with
          | refl => exact unrejected
          | @cons length _ middle _ step rest =>
              obtain ⟨children, accepted⟩ := below middle step
              exact (inductionHypothesis accepted).2 length target (by omega) rest

/-- A rejection gives its reason: the walk that is too long, or the first error
rule of an address on the way. -/
theorem resolveAddress_rejected
    {limit : Nat} {address : Address} {reason : String}
    (rejection : table.resolveAddress kinds limit address = .ok (.rejected reason)) :
    (reason = limitReason ∧ ∃ target, table.Walk kinds limit address target) ∨
      ∃ length target, length < limit ∧ table.Walk kinds length address target ∧
        RuleList.rejection? (table.effectiveRules target) = some reason := by
  induction limit generalizing address with
  | zero =>
      simp only [resolveAddress, Except.ok.injEq, Resolution.rejected.injEq] at rejection
      exact Or.inl ⟨rejection.symm, address, .refl address⟩
  | succ limit inductionHypothesis =>
      simp only [resolveAddress] at rejection
      split at rejection
      · rename_i first errorRule
        simp only [Except.ok.injEq, Resolution.rejected.injEq] at rejection
        exact Or.inr ⟨0, address, by omega, .refl address, by rw [errorRule, rejection]⟩
      · obtain ⟨rule, member, ruleRejects⟩ := gather_rejected rejection
        obtain ⟨middle, leads, later⟩ := followRule_rejected ruleRejects
        have step : table.Step kinds address middle := ⟨rule, member, leads⟩
        rcases inductionHypothesis later with
          ⟨tooLong, target, walk⟩ | ⟨length, target, bound, walk, errorRule⟩
        · exact Or.inl ⟨tooLong, target, .cons step walk⟩
        · exact Or.inr ⟨length + 1, target, by omega, .cons step walk, errorRule⟩

/-! ## The condition -/

/-- Following the rules of a recursive table fails only over a pattern that is
none.  Otherwise it accepts an address if and only if no walk of `limit` steps
starts there and no shorter one leads to an error rule; what it rejects has a
walk that is too long, or the first error rule of an address that is looked up,
for its reason.  An address that leads into a cycle is never accepted. -/
theorem resolveAddress_accepts_iff
    (table : RuleTable) (kinds : KindSet) (limit : Nat) (address : Address)
    (recursive : table.recursive = true) :
    (table.PatternsCompile kinds limit address →
      ∃ resolution, table.resolveAddress kinds limit address = .ok resolution) ∧
    (∀ resolution, table.resolveAddress kinds limit address = .ok resolution →
      ((∃ rules, resolution = .success rules) ↔
        (∀ target, ¬ table.Walk kinds limit address target) ∧
          ∀ length target, length < limit → table.Walk kinds length address target →
            RuleList.rejection? (table.effectiveRules target) = none) ∧
      ∀ reason, resolution = .rejected reason →
        (reason = limitReason ∧ ∃ target, table.Walk kinds limit address target) ∨
          ∃ length target, length < limit ∧ table.Walk kinds length address target ∧
            RuleList.rejection? (table.effectiveRules target) = some reason) ∧
    ∀ approach around middle, table.Walk kinds approach address middle →
      table.Walk kinds (around + 1) middle middle →
        ∀ rules, table.resolveAddress kinds limit address ≠ .ok (.success rules) := by
  refine ⟨?_, ?_, ?_⟩
  · intro compile
    cases outcome : table.resolveAddress kinds limit address with
    | ok resolution => exact ⟨resolution, rfl⟩
    | error failure =>
        obtain ⟨length, target, bound, walk, rule, member, failed⟩ :=
          resolveAddress_error outcome
        obtain ⟨pattern, replacement, parts, broken⟩ := targetOf_error failed
        have compiled := compile length target bound walk rule member pattern replacement parts
        simp [broken] at compiled
  · intro resolution outcome
    refine ⟨⟨?_, ?_⟩, ?_⟩
    · rintro ⟨rules, rfl⟩
      exact resolveAddress_success recursive outcome
    · rintro ⟨withinLimit, unrejected⟩
      cases resolution with
      | success rules => exact ⟨rules, rfl⟩
      | rejected reason =>
          rcases resolveAddress_rejected outcome with
            ⟨_, target, walk⟩ | ⟨length, target, bound, walk, errorRule⟩
          · exact absurd walk (withinLimit target)
          · rw [unrejected length target bound walk] at errorRule
            simp at errorRule
    · rintro reason rfl
      exact resolveAddress_rejected outcome
  · intro approach around middle arrival cycle rules success
    obtain ⟨target, walk⟩ := arrival.exists_of_cycle cycle limit
    exact (resolveAddress_success recursive success).1 target walk

/-! ## Two users who are aliases of each other, and two of others -/

def circularFirst : Address :=
  ⟨"a", .ofString "x.org"⟩

def circularSecond : Address :=
  ⟨"b", .ofString "x.org"⟩

/-- A user who is an alias of somebody without rules. -/
def deputy : Address :=
  ⟨"c", .ofString "x.org"⟩

/-- Somebody without rules, in a domain with an error rule. -/
def departed : Address :=
  ⟨"d", .ofString "x.org"⟩

/-- A user who is an alias of somebody in a domain without rules. -/
def emigrant : Address :=
  ⟨"e", .ofString "x.org"⟩

/-- A table in which either of two users is an alias of the other, and which looks up
three addresses in a row.  Users of the domain without rules of their own are unknown. -/
def circular : RuleTable where
  rules := .ofList [
    (.user "a" (.ofString "x.org"), [.forAddress .userAlias circularSecond]),
    (.user "b" (.ofString "x.org"), [.forAddress .userAlias circularFirst]),
    (.user "c" (.ofString "x.org"), [.forAddress .userAlias departed]),
    (.user "e" (.ofString "x.org"), [⟨.userAlias, "e@y.org"⟩]),
    (.anyone (.ofString "x.org"), [⟨.forward, "f@y.org"⟩, ⟨.error, "550 Unknown user"⟩])]
  recursive := true
  mappingLimit := 3
  defaultDomain := none

/-- A user of the circle is rejected for a walk that is too long.  If only aliases are
asked for, the deputy is rejected for the first error rule of an address on the way, which
is stored for the whole domain, and the emigrant is accepted, as no walk is too long and
no address on the way has an error rule. -/
theorem circular_rejects :
    circular.recursive = true ∧
      circular.resolveAddress .all circular.mappingLimit circularFirst =
        .ok (.rejected limitReason) ∧
      (∃ target, circular.Walk .all circular.mappingLimit circularFirst target) ∧
      (∀ rules, circular.resolveAddress .all circular.mappingLimit circularFirst ≠
        .ok (.success rules)) ∧
      circular.effectiveRules departed = circular.stored (.anyone departed.domain) ∧
      circular.effectiveRules ⟨"\"d\"", departed.domain⟩ = [] ∧
      circular.resolveAddress (.only .userAlias) circular.mappingLimit deputy =
        .ok (.rejected "550 Unknown user") ∧
      (∃ length target, length < circular.mappingLimit ∧
        circular.Walk (.only .userAlias) length deputy target ∧
          ∃ earlier later,
            circular.effectiveRules target = earlier ++ ⟨.error, "550 Unknown user"⟩ :: later ∧
              ∀ rule ∈ earlier, rule.kind ≠ .error) ∧
      circular.resolveAddress (.only .userAlias) circular.mappingLimit emigrant =
        .ok (.success [⟨.userAlias, "e@y.org"⟩]) ∧
      ∀ length target, length < circular.mappingLimit →
        circular.Walk (.only .userAlias) length emigrant target →
          ∀ rule ∈ circular.effectiveRules target, rule.kind ≠ .error := by
  have there : circular.Step .all circularFirst circularSecond :=
    ⟨.forAddress .userAlias circularSecond, by decide, rfl, rfl, by decide⟩
  have back : circular.Step .all circularSecond circularFirst :=
    ⟨.forAddress .userAlias circularFirst, by decide, rfl, rfl, by decide⟩
  have cycle : circular.Walk .all 2 circularFirst circularFirst :=
    .cons there (.cons back (.refl circularFirst))
  have tooLong : circular.resolveAddress .all circular.mappingLimit circularFirst =
      .ok (.rejected limitReason) := rfl
  have unknown : circular.resolveAddress (.only .userAlias) circular.mappingLimit deputy =
      .ok (.rejected "550 Unknown user") := rfl
  have accepted : circular.resolveAddress (.only .userAlias) circular.mappingLimit emigrant =
      .ok (.success [⟨.userAlias, "e@y.org"⟩]) := rfl
  obtain ⟨_, answers, cycles⟩ :=
    resolveAddress_accepts_iff circular .all circular.mappingLimit circularFirst rfl
  obtain ⟨_, rejections, _⟩ :=
    resolveAddress_accepts_iff circular (.only .userAlias) circular.mappingLimit deputy rfl
  obtain ⟨_, acceptances, _⟩ :=
    resolveAddress_accepts_iff circular (.only .userAlias) circular.mappingLimit emigrant rfl
  refine ⟨rfl, tooLong, ?_, cycles 0 1 circularFirst (.refl circularFirst) cycle,
    effectiveRules_of_none rfl rfl, effectiveRules_of_quoted (by decide), unknown, ?_, accepted, ?_⟩
  · rcases (answers _ tooLong).2 limitReason rfl with ⟨_, walk⟩ | ⟨_, _, _, _, _⟩
    · exact walk
    · exact Walk.exists_of_cycle (.refl circularFirst) cycle circular.mappingLimit
  · rcases (rejections _ unknown).2 _ rfl with ⟨limit, _⟩ | ⟨length, target, bound, walk, first⟩
    · exact absurd limit (by decide)
    · exact ⟨length, target, bound, walk, RuleList.rejection?_eq_some_iff.1 first⟩
  · obtain ⟨_, unrejected⟩ := (acceptances _ accepted).1.1 ⟨_, rfl⟩
    intro length target bound walk
    exact RuleList.rejection?_eq_none_iff.1 (unrejected length target bound walk)

end RecipientRewriting.RuleTable
