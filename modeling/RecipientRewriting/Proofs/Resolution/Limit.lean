import RecipientRewriting.Proofs.Resolution.Heeding

/-!
# What the limit does

The limit of a table says how many addresses in a row are looked up.  A lower limit
may turn an answer into the rejection that says so, and does nothing else to it.
The invariant is stated for one lookup with another one behind it: if what follows
a rule is at most curtailed, so are the contribution of the rule, what is gathered
from several of them, and the answer for the address.
-/

namespace RecipientRewriting

/-- The first answer is the second one, unless the limit has been reached. -/
def Resolution.Curtails (answer other : Except LookupError Resolution) : Prop :=
  answer = other ∨ answer = .ok (.rejected RuleTable.limitReason)

namespace RuleTable

open Resolution (Curtails)

variable {table : RuleTable} {kinds : KindSet}
  {follow further : Address → Except LookupError Resolution}

def withLimit (table : RuleTable) (limit : Nat) : RuleTable :=
  { table with mappingLimit := limit }

theorem withLimit_agreesOn (table : RuleTable) (kinds : KindSet) (limit : Nat) :
    (table.withLimit limit).AgreesOn kinds table :=
  ⟨rfl, rfl, fun _ => Iff.rfl, fun _ => rfl⟩

/-! ## One address -/

theorem followRule_curtails
    (curtails : ∀ target, Curtails (follow target) (further target))
    (address : Address) (rule : Rule) :
    Curtails (table.followRule follow address rule) (table.followRule further address rule) := by
  unfold followRule
  split
  · exact Or.inl rfl
  · split
    · exact Or.inl rfl
    · exact Or.inl rfl
    · rename_i target leads
      dsimp only
      split
      · exact Or.inl rfl
      · split
        · exact Or.inl rfl
        · rcases curtails target with same | limited
          · rw [same]
            exact Or.inl rfl
          · rw [limited]
            exact Or.inr rfl

/-- What is found in front of a curtailed contribution does not matter, since that
ends the lookup. -/
theorem gather_curtails
    {contribution longer : Rule → Except LookupError Resolution}
    (curtails : ∀ rule, Curtails (contribution rule) (longer rule))
    (found rules : RuleList) :
    Curtails (gather contribution found rules) (gather longer found rules) := by
  induction rules generalizing found with
  | nil => exact Or.inl rfl
  | cons rule rest inductionHypothesis =>
      rcases curtails rule with same | limited
      · simp only [gather, same]
        split
        · exact Or.inl rfl
        · exact Or.inl rfl
        · exact inductionHypothesis _
      · simp only [gather, limited]
        exact Or.inr rfl

/-! ## Chains of addresses -/

theorem resolveAddress_curtails
    {limit higher : Nat} (lower : limit ≤ higher) (address : Address) :
    Curtails (table.resolveAddress kinds limit address)
      (table.resolveAddress kinds higher address) := by
  induction limit generalizing higher address with
  | zero => exact Or.inr rfl
  | succ limit inductionHypothesis =>
      obtain ⟨higher, rfl⟩ : ∃ less, higher = less + 1 := ⟨higher - 1, by omega⟩
      simp only [resolveAddress]
      split
      · exact Or.inl rfl
      · refine gather_curtails ?_ [] _
        exact followRule_curtails (fun target => inductionHypothesis (by omega) target) address

theorem resolve_curtails
    {limit higher : Nat} (lower : limit ≤ higher) (source : Source) :
    Curtails ((table.withLimit limit).resolve source kinds)
      ((table.withLimit higher).resolve source kinds) := by
  cases source with
  | anyone domain => exact Or.inl rfl
  | user localPart domain =>
      simp only [resolve, (table.withLimit_agreesOn kinds _).resolveAddress_eq]
      split
      · exact Or.inl rfl
      · exact resolveAddress_curtails lower _

/-- With a lower limit, a table gives the same answer for a source or rejects it for
the limit.  So an answer of rules or a failure stays what it is with every higher
limit. -/
theorem limit_curtails
    (table : RuleTable) (source : Source) (kinds : KindSet) {limit higher : Nat}
    (lower : limit ≤ higher) :
    ((table.withLimit limit).resolve source kinds = (table.withLimit higher).resolve source kinds ∨
      (table.withLimit limit).resolve source kinds = .ok (.rejected limitReason)) ∧
    (∀ rules, (table.withLimit limit).resolve source kinds = .ok (.success rules) →
      (table.withLimit higher).resolve source kinds = .ok (.success rules)) ∧
    ∀ failure, (table.withLimit limit).resolve source kinds = .error failure →
      (table.withLimit higher).resolve source kinds = .error failure := by
  have curtails : Curtails ((table.withLimit limit).resolve source kinds)
      ((table.withLimit higher).resolve source kinds) :=
    resolve_curtails lower source
  refine ⟨curtails, ?_, ?_⟩
  · intro rules success
    rcases curtails with same | limited
    · rw [← same, success]
    · rw [success] at limited
      cases limited
  · intro failure failed
    rcases curtails with same | limited
    · rw [← same, failed]
    · rw [failed] at limited
      cases limited

/-! ## A chain of two addresses -/

/-- A user whose mail somebody else reads. -/
def absentee : Source :=
  .user "a" (.ofString "x.org")

/-- The table in which that user is an alias of a second one. -/
def deputized : RuleTable :=
  RuleTable.empty.addRule absentee ⟨.userAlias, "b@x.org"⟩

/-- Two lookups reach the deputy, and so do nine; one lookup is curtailed. -/
theorem deputized_curtailed :
    1 ≤ 2 ∧ 2 ≤ 9 ∧
      (deputized.withLimit 1).resolve absentee .all = .ok (.rejected limitReason) ∧
      (deputized.withLimit 2).resolve absentee .all = .ok (.success [⟨.userAlias, "b@x.org"⟩]) ∧
      (deputized.withLimit 9).resolve absentee .all =
        .ok (.success [⟨.userAlias, "b@x.org"⟩]) := by
  have reached : (deputized.withLimit 2).resolve absentee .all =
      .ok (.success [⟨.userAlias, "b@x.org"⟩]) := by
    rfl
  have shorter := (limit_curtails deputized absentee .all (show 1 ≤ 2 by omega)).1
  have longer := (limit_curtails deputized absentee .all (show 2 ≤ 9 by omega)).2.1 _ reached
  have unreached : (deputized.withLimit 1).resolve absentee .all ≠
      (deputized.withLimit 2).resolve absentee .all := by
    rw [reached]
    intro same
    cases same
  exact ⟨by omega, by omega, shorter.resolve_left unreached, reached, longer⟩

end RuleTable

end RecipientRewriting
