import RecipientRewriting.OrderedMap
import RecipientRewriting.Rule.Source

/-!
# Rule tables

A rule table stores rules under their sources, together with the settings
that say how far chains of rules are followed.  A source without rules has no
entry, since the rules of a whole domain apply to a user only while the user
has none.
-/

namespace RecipientRewriting

structure RuleTable where
  /-- The rules of each source that has any. -/
  rules : OrderedMap Source RuleList
  /-- Whether the addresses that rules lead to are looked up in turn. -/
  recursive : Bool
  /-- How many addresses in a row may be looked up. -/
  mappingLimit : Nat
  /-- What completes a target without a domain while chains are followed. -/
  defaultDomain : Option Domain
  deriving DecidableEq, Repr

namespace RuleTable

def defaultMappingLimit : Nat :=
  10

def empty : RuleTable where
  rules := .empty
  recursive := true
  mappingLimit := defaultMappingLimit
  defaultDomain := none

/-- The rules stored under exactly this source. -/
def stored (table : RuleTable) (source : Source) : RuleList :=
  (table.rules.find? source).getD []

/-- Stores a rule behind the others of its source, unless it is there already. -/
def addRule (table : RuleTable) (source : Source) (rule : Rule) : RuleTable :=
  let rules := (RuleList.insert (table.stored source) rule).2
  { table with rules := table.rules.insert source rules }

/-- Takes a rule out, and the entry of its source with the last one; the answer says
whether the rule was stored. -/
def removeRule (table : RuleTable) (source : Source) (rule : Rule) : Bool × RuleTable :=
  match table.rules.find? source with
  | none => (false, table)
  | some rules =>
      let (removed, kept) := RuleList.remove rules rule
      let entries :=
        if kept.isEmpty then table.rules.erase source else table.rules.insert source kept
      (removed, { table with rules := entries })

def addRules (table : RuleTable) (source : Source) (rules : RuleList) : RuleTable :=
  rules.foldl (fun table rule => table.addRule source rule) table

def allRules (table : RuleTable) : List (Source × RuleList) :=
  table.rules.entries

/-- The forwarding rules stored under exactly this source. -/
def forwardRules (table : RuleTable) (source : Source) : RuleList :=
  RuleList.ofKind (table.stored source) .forward

/-- The rules that apply to an address: its own if it has any, otherwise those
of its domain.  A quoted local part has none. -/
def effectiveRules (table : RuleTable) (address : Address) : RuleList :=
  match Source.ofAddress? address with
  | none => []
  | some source =>
      match table.stored source with
      | [] => table.stored (.anyone address.domain)
      | own => own

/-! ## Stored rules -/

theorem stored_addRule (table : RuleTable) (source other : Source) (rule : Rule) :
    (table.addRule source rule).stored other =
      if other = source then UniqueList.add (table.stored source) rule else table.stored other := by
  by_cases same : other = source
  · simp [stored, addRule, same]
  · simp [stored, addRule, same]

theorem stored_addRules (table : RuleTable) (source other : Source) (rules : RuleList) :
    (table.addRules source rules).stored other =
      if other = source then UniqueList.addAll (table.stored source) rules
      else table.stored other := by
  induction rules generalizing table with
  | nil =>
      by_cases same : other = source
      · simp [addRules, same]
      · simp [addRules, same]
  | cons rule rest inductionHypothesis =>
      have step : table.addRules source (rule :: rest) =
          (table.addRule source rule).addRules source rest :=
        rfl
      rw [step, inductionHypothesis, stored_addRule, stored_addRule, if_pos rfl]
      by_cases same : other = source
      · simp [same]
      · simp [same]

theorem stored_eq_of_find {table : RuleTable} {source : Source} {rules : RuleList}
    (found : table.rules.find? source = some rules) : table.stored source = rules := by
  simp [stored, found]

theorem stored_removeRule (table : RuleTable) (source other : Source) (rule : Rule) :
    (table.removeRule source rule).2.stored other =
      if other = source then (RuleList.remove (table.stored source) rule).2
      else table.stored other := by
  unfold removeRule
  cases found : table.rules.find? source with
  | none =>
      by_cases same : other = source
      · simp [stored, same, found, RuleList.remove]
      · simp [same]
  | some rules =>
      rw [stored_eq_of_find found]
      by_cases same : other = source
      · by_cases nothing : (RuleList.remove rules rule).2 = []
        · simp [stored, same, nothing]
        · simp [stored, same, nothing]
      · by_cases nothing : (RuleList.remove rules rule).2 = []
        · simp [stored, same, nothing]
        · simp [stored, same, nothing]

/-- A removal tells whether the rule was stored. -/
theorem removeRule_fst {table : RuleTable} {source : Source} {rule : Rule} :
    (table.removeRule source rule).1 = true ↔ rule ∈ table.stored source := by
  unfold removeRule
  cases found : table.rules.find? source with
  | none => simp [stored, found]
  | some rules => simp [stored_eq_of_find found]

/-! ## Rules that apply to an address -/

section EffectiveRules

variable {table : RuleTable} {address : Address} {source : Source}

theorem effectiveRules_of_own
    (named : Source.ofAddress? address = some source) (own : table.stored source ≠ []) :
    table.effectiveRules address = table.stored source := by
  unfold effectiveRules
  rw [named]
  dsimp only
  split
  · rename_i empty
    exact absurd empty own
  · rfl

theorem effectiveRules_of_none
    (named : Source.ofAddress? address = some source) (none : table.stored source = []) :
    table.effectiveRules address = table.stored (.anyone address.domain) := by
  unfold effectiveRules
  rw [named]
  simp only [none]

theorem effectiveRules_of_quoted (quoted : address.isQuoted = true) :
    table.effectiveRules address = [] := by
  simp [effectiveRules, Source.ofAddress?, quoted]

theorem mem_effectiveRules {rule : Rule} :
    rule ∈ table.effectiveRules address ↔
      ∃ source, Source.ofAddress? address = some source ∧
        (rule ∈ table.stored source ∨
          table.stored source = [] ∧ rule ∈ table.stored (.anyone address.domain)) := by
  cases named : Source.ofAddress? address with
  | none => simp [effectiveRules, named]
  | some source =>
      by_cases own : table.stored source = []
      · simp [effectiveRules_of_none named own, own]
      · simp [effectiveRules_of_own named own, own]

end EffectiveRules

/-! ## Settings of a table -/

/-- Storing rules leaves the settings of a table alone. -/
theorem exists_addRules_eq (table : RuleTable) (source : Source) (rules : RuleList) :
    ∃ stored, table.addRules source rules = { table with rules := stored } := by
  induction rules generalizing table with
  | nil => exact ⟨table.rules, rfl⟩
  | cons rule rest inductionHypothesis =>
      obtain ⟨stored, same⟩ := inductionHypothesis (table.addRule source rule)
      exact ⟨stored, same⟩

end RuleTable

end RecipientRewriting
