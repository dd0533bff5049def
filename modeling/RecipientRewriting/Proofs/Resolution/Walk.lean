import RecipientRewriting.RuleTable.Resolve

/-!
# Walks along rules

The rules of a table make a graph of addresses: a step leads from an address to
a different one that an applicable rule sends it to.  This module holds the
graph and what one level of following rules amounts to.  It says nothing yet
about how many levels there may be; that is the subject of the modules that
compare answers with walks.
-/

namespace RecipientRewriting.RuleTable

variable {table : RuleTable} {kinds : KindSet}

/-- The rules that apply to an address and are of a kind that is asked for. -/
def applicable (table : RuleTable) (kinds : KindSet) (address : Address) : RuleList :=
  RuleList.select (table.effectiveRules address) kinds

structure Leads (table : RuleTable) (rule : Rule) (source target : Address) : Prop where
  complete : table.lacksDomain rule = false
  sends : table.targetOf rule source = .ok (some target)
  moves : target ≠ source

def Step (table : RuleTable) (kinds : KindSet) (source target : Address) : Prop :=
  ∃ rule ∈ table.applicable kinds source, table.Leads rule source target

/-- `Walk table kinds length source target` holds if some `length` steps lead
from `source` to `target`. -/
inductive Walk (table : RuleTable) (kinds : KindSet) : Nat → Address → Address → Prop
  | refl (address : Address) : Walk table kinds 0 address address
  | cons {length : Nat} {source middle target : Address} :
      table.Step kinds source middle →
      Walk table kinds length middle target →
      Walk table kinds (length + 1) source target

def Reaches (table : RuleTable) (kinds : KindSet) (source target : Address) : Prop :=
  ∃ length, table.Walk kinds length source target

namespace Walk

theorem succ_iff {length : Nat} {source target : Address} :
    table.Walk kinds (length + 1) source target ↔
      ∃ middle, table.Step kinds source middle ∧
        table.Walk kinds length middle target := by
  constructor
  · intro walk
    cases walk with
    | cons step rest => exact ⟨_, step, rest⟩
  · rintro ⟨middle, step, rest⟩
    exact .cons step rest

theorem append
    {first second : Nat} {source middle target : Address}
    (front : table.Walk kinds first source middle)
    (back : table.Walk kinds second middle target) :
    table.Walk kinds (first + second) source target := by
  induction front with
  | refl => simpa using back
  | @cons length source next middle step rest inductionHypothesis =>
      have longer := Walk.cons step (inductionHypothesis back)
      rwa [Nat.add_right_comm]

/-- A walk passes an address after each smaller number of steps. -/
theorem exists_initial
    {length shorter : Nat} {source target : Address}
    (walk : table.Walk kinds length source target)
    (bound : shorter ≤ length) :
    ∃ middle, table.Walk kinds shorter source middle := by
  induction walk generalizing shorter with
  | refl address =>
      obtain rfl : shorter = 0 := by omega
      exact ⟨address, .refl address⟩
  | @cons length source next target step rest inductionHypothesis =>
      cases shorter with
      | zero => exact ⟨source, .refl source⟩
      | succ shorter =>
          obtain ⟨middle, initial⟩ := inductionHypothesis (by omega : shorter ≤ length)
          exact ⟨middle, .cons step initial⟩

/-- Going round a cycle often enough makes a walk as long as one likes. -/
theorem exists_of_cycle
    {approach around : Nat} {source middle : Address}
    (arrival : table.Walk kinds approach source middle)
    (cycle : table.Walk kinds (around + 1) middle middle)
    (length : Nat) :
    ∃ target, table.Walk kinds length source target := by
  have rounds : ∀ count, table.Walk kinds (count * (around + 1)) middle middle := by
    intro count
    induction count with
    | zero => simpa using Walk.refl middle
    | succ count inductionHypothesis =>
        have longer := inductionHypothesis.append cycle
        rwa [← Nat.succ_mul] at longer
  have long := arrival.append (rounds length)
  have enough : length ≤ approach + length * (around + 1) := by
    have := Nat.le_mul_of_pos_right length (by omega : 0 < around + 1)
    omega
  exact long.exists_initial enough

end Walk

theorem Reaches.refl (address : Address) : table.Reaches kinds address address :=
  ⟨0, .refl address⟩

theorem Reaches.head
    {source middle target : Address}
    (step : table.Step kinds source middle)
    (rest : table.Reaches kinds middle target) :
    table.Reaches kinds source target := by
  obtain ⟨length, walk⟩ := rest
  exact ⟨length + 1, .cons step walk⟩

/-- An address is reached in no step or through its first step. -/
theorem reaches_iff {source target : Address} :
    table.Reaches kinds source target ↔
      source = target ∨ ∃ middle, table.Step kinds source middle ∧
        table.Reaches kinds middle target := by
  constructor
  · rintro ⟨length, walk⟩
    cases walk with
    | refl => exact Or.inl rfl
    | cons step rest => exact Or.inr ⟨_, step, _, rest⟩
  · rintro (rfl | ⟨middle, step, rest⟩)
    · exact .refl source
    · exact .head step rest

/-! ## Gathering contributions -/

section Gather

variable {contribution : Rule → Except LookupError Resolution}

/-- What is gathered successfully is what was there before and what each rule
contributes, and each of them does contribute. -/
theorem gather_success
    {found rules gathered : RuleList}
    (success : gather contribution found rules = .ok (.success gathered)) :
    (∀ rule ∈ rules, ∃ part, contribution rule = .ok (.success part)) ∧
      ∀ item, item ∈ gathered ↔
        item ∈ found ∨ ∃ rule ∈ rules, ∃ part,
          contribution rule = .ok (.success part) ∧ item ∈ part := by
  induction rules generalizing found with
  | nil =>
      obtain rfl : found = gathered := by simpa [gather] using success
      simp
  | cons rule rest inductionHypothesis =>
      rw [gather] at success
      cases answer : contribution rule with
      | error failure => simp [answer] at success
      | ok resolution =>
          cases resolution with
          | rejected reason => simp [answer] at success
          | success part =>
              simp only [answer] at success
              obtain ⟨contributes, members⟩ := inductionHypothesis success
              refine ⟨?_, ?_⟩
              · intro other member
                rcases List.mem_cons.1 member with rfl | later
                · exact ⟨part, answer⟩
                · exact contributes other later
              · intro item
                rw [members]
                simp [answer, or_assoc]

theorem gather_nodup
    {found rules gathered : RuleList}
    (nodup : found.Nodup)
    (success : gather contribution found rules = .ok (.success gathered)) :
    gathered.Nodup := by
  induction rules generalizing found with
  | nil =>
      obtain rfl : found = gathered := by simpa [gather] using success
      exact nodup
  | cons rule rest inductionHypothesis =>
      rw [gather] at success
      split at success
      · simp at success
      · simp at success
      · exact inductionHypothesis (UniqueList.nodup_addAll nodup _) success

/-- A rejection is one of the contributions. -/
theorem gather_rejected
    {found rules : RuleList} {reason : String}
    (rejection : gather contribution found rules = .ok (.rejected reason)) :
    ∃ rule ∈ rules, contribution rule = .ok (.rejected reason) := by
  induction rules generalizing found with
  | nil => simp [gather] at rejection
  | cons rule rest inductionHypothesis =>
      rw [gather] at rejection
      split at rejection
      · simp at rejection
      · rename_i answer
        refine ⟨rule, by simp, ?_⟩
        rw [answer, ← rejection]
      · obtain ⟨other, member, answer⟩ := inductionHypothesis rejection
        exact ⟨other, by simp [member], answer⟩

/-- A failure is one of the contributions. -/
theorem gather_error
    {found rules : RuleList} {failure : LookupError}
    (failed : gather contribution found rules = .error failure) :
    ∃ rule ∈ rules, contribution rule = .error failure := by
  induction rules generalizing found with
  | nil => simp [gather] at failed
  | cons rule rest inductionHypothesis =>
      rw [gather] at failed
      split at failed
      · rename_i answer
        refine ⟨rule, by simp, ?_⟩
        rw [answer, ← failed]
      · simp at failed
      · obtain ⟨other, member, answer⟩ := inductionHypothesis failed
        exact ⟨other, by simp [member], answer⟩

end Gather

/-! ## One rule -/

section FollowRule

variable {follow : Address → Except LookupError Resolution} {address : Address} {rule : Rule}

/-- The four ways in which a rule of a recursive table contributes: it lacks a
domain, it gives no address, it gives the address itself, or it leads on. -/
theorem followRule_success_iff
    (recursive : table.recursive = true) {part : RuleList} :
    table.followRule follow address rule = .ok (.success part) ↔
      (table.lacksDomain rule = true ∧ part = [rule]) ∨
      (table.lacksDomain rule = false ∧ table.targetOf rule address = .ok none ∧
        part = []) ∨
      (table.lacksDomain rule = false ∧
        table.targetOf rule address = .ok (some address) ∧
        part = if rule.kind.keepsIdentity then [.forAddress rule.kind address] else []) ∨
      ∃ target children, table.Leads rule address target ∧
        follow target = .ok (.success children) ∧
        part = if children = [] then [.forAddress (answerKind rule.kind) target]
          else children := by
  constructor
  · intro contributes
    unfold followRule at contributes
    split at contributes
    · rename_i lacking
      simp only [Except.ok.injEq, Resolution.success.injEq] at contributes
      exact Or.inl ⟨lacking, contributes.symm⟩
    · rename_i complete
      replace complete : table.lacksDomain rule = false := by simpa using complete
      refine Or.inr ?_
      split at contributes
      · simp at contributes
      · rename_i nowhere
        simp only [Except.ok.injEq, Resolution.success.injEq] at contributes
        exact Or.inl ⟨complete, nowhere, contributes.symm⟩
      · rename_i target sends
        refine Or.inr ?_
        simp only [recursive, Bool.not_true, Bool.false_eq_true, if_false] at contributes
        split at contributes
        · rename_i same
          subst same
          refine Or.inl ⟨complete, sends, ?_⟩
          cases keeps : rule.kind.keepsIdentity <;>
            simp_all [answerKind]
        · rename_i different
          refine Or.inr ⟨target, ?_⟩
          have leads : table.Leads rule address target := ⟨complete, sends, different⟩
          split at contributes
          · simp at contributes
          · simp at contributes
          · rename_i ends
            simp only [Except.ok.injEq, Resolution.success.injEq] at contributes
            exact ⟨[], leads, ends, by simpa using contributes.symm⟩
          · rename_i children someLeft goesOn
            simp only [Except.ok.injEq, Resolution.success.injEq] at contributes
            have nonempty : children ≠ [] := by
              rintro rfl
              exact someLeft rfl
            rw [contributes] at nonempty goesOn
            exact ⟨part, leads, goesOn, by simp [nonempty]⟩
  · rintro (⟨lacking, rfl⟩ | ⟨complete, nowhere, rfl⟩ | ⟨complete, stays, rfl⟩ |
      ⟨target, children, leads, goesOn, rfl⟩)
    · simp [followRule, lacking]
    · simp [followRule, complete, nowhere]
    · cases keeps : rule.kind.keepsIdentity <;>
        simp [followRule, complete, stays, recursive, answerKind, keeps]
    · cases children <;>
        simp [followRule, leads.complete, leads.sends, recursive, leads.moves, goesOn]

theorem followRule_success_leads
    (recursive : table.recursive = true) {part : RuleList} {target : Address}
    (contributes : table.followRule follow address rule = .ok (.success part))
    (leads : table.Leads rule address target) :
    ∃ children, follow target = .ok (.success children) := by
  have sends := leads.sends
  rcases (followRule_success_iff recursive).1 contributes with
    ⟨lacking, _⟩ | ⟨_, nowhere, _⟩ | ⟨_, stays, _⟩ | ⟨other, children, otherLeads, goesOn, _⟩
  · simp [leads.complete] at lacking
  · simp [sends] at nowhere
  · rw [sends] at stays
    exact absurd (by simpa using stays) leads.moves
  · have same : target = other := by
      simpa [sends] using otherLeads.sends
    exact ⟨children, same ▸ goesOn⟩

/-- A rule rejects an address only if it leads to one that is rejected. -/
theorem followRule_rejected
    {reason : String}
    (rejection : table.followRule follow address rule = .ok (.rejected reason)) :
    ∃ target, table.Leads rule address target ∧
      follow target = .ok (.rejected reason) := by
  unfold followRule at rejection
  split at rejection
  · simp at rejection
  · rename_i complete
    split at rejection
    · simp at rejection
    · simp at rejection
    · rename_i target sends
      split at rejection
      · simp at rejection
      · split at rejection
        · simp at rejection
        · rename_i different
          have leads : table.Leads rule address target :=
            ⟨by simpa using complete, sends, different⟩
          split at rejection
          · simp at rejection
          · rename_i other answer
            exact ⟨target, leads, by rw [answer, ← rejection]⟩
          · simp at rejection
          · simp at rejection

/-- A rule fails only if it cannot be applied or leads to an address for which
following rules fails. -/
theorem followRule_error
    {failure : LookupError}
    (failed : table.followRule follow address rule = .error failure) :
    table.targetOf rule address = .error failure ∨
      ∃ target, table.Leads rule address target ∧ follow target = .error failure := by
  unfold followRule at failed
  split at failed
  · simp at failed
  · rename_i complete
    split at failed
    · rename_i problem
      cases failed
      exact Or.inl problem
    · simp at failed
    · rename_i target sends
      split at failed
      · simp at failed
      · split at failed
        · simp at failed
        · rename_i different
          have leads : table.Leads rule address target :=
            ⟨by simpa using complete, sends, different⟩
          split at failed
          · rename_i answer
            exact Or.inr ⟨target, leads, by rw [answer, ← failed]⟩
          · simp at failed
          · simp at failed
          · simp at failed

end FollowRule

end RecipientRewriting.RuleTable
