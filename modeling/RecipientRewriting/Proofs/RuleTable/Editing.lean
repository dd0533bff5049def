import Mathlib.Data.List.Induction
import RecipientRewriting.Proofs.OrderedMap
import RecipientRewriting.RuleTable.Resolve

/-!
# Edited tables

What a table holds after rules have been added and removed in any order: the rules
whose last edit added them, in the order in which they came, and no entry for a
source without rules.  Edits of different sources do not depend on each other.
-/

namespace RecipientRewriting

/-! ## Edits -/

inductive Edit
  | add (source : Source) (rule : Rule)
  | remove (source : Source) (rule : Rule)
  deriving DecidableEq, Repr

namespace Edit

def source : Edit → Source
  | add source _ | remove source _ => source

def rule : Edit → Rule
  | add _ rule | remove _ rule => rule

/-- What an edit makes of the rules of its source. -/
def change (rules : RuleList) : Edit → RuleList
  | add _ rule => (RuleList.insert rules rule).2
  | remove _ rule => (RuleList.remove rules rule).2

/-- The last edit of a rule of a source adds it. -/
def LastAdds (edits : List Edit) (source : Source) (rule : Rule) : Prop :=
  (edits.filter fun edit => edit.source = source ∧ edit.rule = rule).getLast? =
    some (.add source rule)

/-- The edit at a position adds a rule that is not in place there. -/
def NewlyAdds (edits : List Edit) (source : Source) (rule : Rule) (position : Nat) : Prop :=
  edits[position]? = some (.add source rule) ∧ ¬ LastAdds (edits.take position) source rule

/-- The edit at a position is the last one that newly adds a rule. -/
def LastNewlyAdds (edits : List Edit) (source : Source) (rule : Rule) (position : Nat) : Prop :=
  NewlyAdds edits source rule position ∧
    ∀ other, NewlyAdds edits source rule other → other ≤ position

instance (edits : List Edit) (source : Source) (rule : Rule) :
    Decidable (LastAdds edits source rule) :=
  inferInstanceAs (Decidable (_ = _))

variable {edits : List Edit} {edit : Edit} {source : Source} {rule : Rule} {position : Nat}

theorem not_lastAdds_nil : ¬ LastAdds [] source rule := by
  simp [LastAdds]

theorem lastAdds_append_of_concerns
    (concerns : edit.source = source ∧ edit.rule = rule) :
    LastAdds (edits ++ [edit]) source rule ↔ edit = .add source rule := by
  simp [LastAdds, concerns]

theorem lastAdds_append_of_other
    (other : ¬ (edit.source = source ∧ edit.rule = rule)) :
    LastAdds (edits ++ [edit]) source rule ↔ LastAdds edits source rule := by
  simp only [LastAdds, List.filter_append, List.filter_cons, other, decide_false,
    Bool.false_eq_true, if_false, List.filter_nil, List.append_nil]

/-! ## When a rule came -/

theorem NewlyAdds.lt_length (newly : NewlyAdds edits source rule position) :
    position < edits.length :=
  (List.getElem?_eq_some_iff.1 newly.1).1

theorem LastNewlyAdds.unique
    {other : Nat}
    (last : LastNewlyAdds edits source rule position)
    (otherLast : LastNewlyAdds edits source rule other) :
    position = other :=
  Nat.le_antisymm (otherLast.2 position last.1) (last.2 other otherLast.1)

/-- Of one more edit, only the last position is new. -/
theorem newlyAdds_append :
    NewlyAdds (edits ++ [edit]) source rule position ↔
      NewlyAdds edits source rule position ∨
        position = edits.length ∧ edit = .add source rule ∧ ¬ LastAdds edits source rule := by
  unfold NewlyAdds
  rcases Nat.lt_trichotomy position edits.length with before | rfl | behind
  · have different : position ≠ edits.length := by omega
    rw [List.getElem?_append_left before, List.take_append_of_le_length (by omega)]
    simp [different]
  · simp
  · have outside : edits.length ≤ position := by omega
    have different : position ≠ edits.length := by omega
    have beyond : (edits ++ [edit])[position]? = none := by
      rw [List.getElem?_eq_none_iff, List.length_append, List.length_singleton]
      omega
    have nothing : edits[position]? = none := List.getElem?_eq_none_iff.2 outside
    simp [beyond, nothing, different]

/-- A rule that is newly added came last. -/
theorem lastNewlyAdds_append_of_new
    (absent : ¬ LastAdds edits source rule) :
    LastNewlyAdds (edits ++ [.add source rule]) source rule edits.length := by
  refine ⟨newlyAdds_append.2 (Or.inr ⟨rfl, rfl, absent⟩), ?_⟩
  intro other newly
  rcases newlyAdds_append.1 newly with earlier | ⟨rfl, _, _⟩
  · exact Nat.le_of_lt earlier.lt_length
  · exact Nat.le_refl _

/-- Any other edit leaves the position of a rule alone. -/
theorem lastNewlyAdds_append_of_old
    (old : edit ≠ .add source rule ∨ LastAdds edits source rule) :
    LastNewlyAdds (edits ++ [edit]) source rule position ↔
      LastNewlyAdds edits source rule position := by
  have same (tested : Nat) : NewlyAdds (edits ++ [edit]) source rule tested ↔
      NewlyAdds edits source rule tested := by
    rw [newlyAdds_append]
    refine ⟨?_, Or.inl⟩
    rintro (earlier | ⟨_, adds, absent⟩)
    · exact earlier
    · rcases old with other | present
      · exact absurd adds other
      · exact absurd present absent
  simp only [LastNewlyAdds, same]

/-- Rules of a source stand in the order in which they were last newly added. -/
structure InOrder (edits : List Edit) (source : Source) (rules : RuleList) : Prop where
  came : ∀ rule ∈ rules, ∃ position, LastNewlyAdds edits source rule position
  ascending : rules.Pairwise fun earlier later =>
    ∀ position behind, LastNewlyAdds edits source earlier position →
      LastNewlyAdds edits source later behind → position < behind

theorem InOrder.append_of_old
    {rules kept : RuleList}
    (inOrder : InOrder edits source rules)
    (sublist : List.Sublist kept rules)
    (old : ∀ rule ∈ kept, edit ≠ .add source rule ∨ LastAdds edits source rule) :
    InOrder (edits ++ [edit]) source kept := by
  refine ⟨fun rule member => ?_, ?_⟩
  · obtain ⟨position, last⟩ := inOrder.came rule (sublist.mem member)
    exact ⟨position, (lastNewlyAdds_append_of_old (old rule member)).2 last⟩
  · refine (inOrder.ascending.sublist sublist).imp_of_mem ?_
    intro earlier later inFront behind ascends position other last otherLast
    exact ascends position other ((lastNewlyAdds_append_of_old (old earlier inFront)).1 last)
      ((lastNewlyAdds_append_of_old (old later behind)).1 otherLast)

theorem InOrder.append_of_new
    {rules : RuleList}
    (inOrder : InOrder edits source rules)
    (fresh : rule ∉ rules)
    (absent : ¬ LastAdds edits source rule) :
    InOrder (edits ++ [.add source rule]) source (rules ++ [rule]) := by
  have other {earlier : Rule} (member : earlier ∈ rules) :
      Edit.add source rule ≠ .add source earlier ∨ LastAdds edits source earlier := by
    refine Or.inl fun same => fresh ?_
    rw [(Edit.add.inj same).2]
    exact member
  have before := inOrder.append_of_old (List.Sublist.refl rules) fun _ => other
  have newest := lastNewlyAdds_append_of_new absent
  refine ⟨?_, List.pairwise_append.2 ⟨before.ascending, List.pairwise_singleton _ _, ?_⟩⟩
  · intro tested member
    rcases List.mem_append.1 member with inFront | last
    · exact before.came tested inFront
    · obtain rfl : tested = rule := by simpa using last
      exact ⟨_, newest⟩
  · intro earlier inFront last isLast position behind came cameLast
    obtain rfl : last = rule := by simpa using isLast
    rw [cameLast.unique newest]
    exact ((lastNewlyAdds_append_of_old (other inFront)).1 came).1.lt_length

end Edit

namespace RuleTable

/-! ## Applying edits -/

def apply (table : RuleTable) : Edit → RuleTable
  | .add source rule => table.addRule source rule
  | .remove source rule => (table.removeRule source rule).2

def applyAll (table : RuleTable) (edits : List Edit) : RuleTable :=
  edits.foldl apply table

theorem applyAll_concat (table : RuleTable) (edits : List Edit) (edit : Edit) :
    table.applyAll (edits ++ [edit]) = (table.applyAll edits).apply edit := by
  simp [applyAll]

/-- An edit changes the rules of its own source and no others. -/
theorem stored_apply (table : RuleTable) (edit : Edit) (source : Source) :
    (table.apply edit).stored source =
      if edit.source = source then edit.change (table.stored source) else table.stored source := by
  cases edit with
  | add changed rule =>
      rw [apply, stored_addRule]
      by_cases same : source = changed
      · simp [same, Edit.source, Edit.change]
      · simp [same, Ne.symm same, Edit.source]
  | remove changed rule =>
      rw [apply, stored_removeRule]
      by_cases same : source = changed
      · simp [same, Edit.source, Edit.change]
      · simp [same, Ne.symm same, Edit.source]

/-- The rules of a source are what its own edits make of them. -/
theorem stored_applyAll (table : RuleTable) (edits : List Edit) (source : Source) :
    (table.applyAll edits).stored source =
      (edits.filter fun edit => edit.source = source).foldl Edit.change (table.stored source) := by
  induction edits using List.reverseRecOn with
  | nil => rfl
  | append_singleton edits edit inductionHypothesis =>
      rw [applyAll_concat, stored_apply, inductionHypothesis, List.filter_append,
        List.foldl_append]
      by_cases same : edit.source = source
      · simp [same]
      · simp [same]

/-- Edits leave the settings of a table alone. -/
theorem apply_eq (table : RuleTable) (edit : Edit) :
    table.apply edit = { table with rules := (table.apply edit).rules } := by
  cases edit with
  | add source rule => rfl
  | remove source rule =>
      change (table.removeRule source rule).2 =
        { table with rules := (table.removeRule source rule).2.rules }
      unfold removeRule
      split
      · rfl
      · rfl

theorem applyAll_eq (table : RuleTable) (edits : List Edit) :
    table.applyAll edits = { table with rules := (table.applyAll edits).rules } := by
  induction edits using List.reverseRecOn with
  | nil => rfl
  | append_singleton edits edit inductionHypothesis =>
      rw [applyAll_concat, apply_eq, inductionHypothesis]

/-! ## Order among the entries -/

/-- Each source has at least one rule and none twice. -/
structure Tidy (table : RuleTable) : Prop where
  nonempty : ∀ entry ∈ table.allRules, entry.2 ≠ []
  nodup : ∀ entry ∈ table.allRules, entry.2.Nodup

namespace Tidy

variable {table other : RuleTable}

theorem mem_allRules_iff
    (tidy : table.Tidy) {source : Source} {rules : RuleList} :
    (source, rules) ∈ table.allRules ↔ table.stored source = rules ∧ rules ≠ [] := by
  unfold allRules
  rw [OrderedMap.mem_entries_iff]
  constructor
  · intro found
    have member : (source, rules) ∈ table.allRules := OrderedMap.mem_entries_iff.2 found
    exact ⟨by simp [stored, found], tidy.nonempty _ member⟩
  · rintro ⟨rfl, something⟩
    unfold stored at something ⊢
    cases found : table.rules.find? source with
    | none => simp [found] at something
    | some rules => rfl

theorem nodup_stored (tidy : table.Tidy) (source : Source) : (table.stored source).Nodup := by
  by_cases nothing : table.stored source = []
  · rw [nothing]
    exact List.nodup_nil
  · exact tidy.nodup _ (tidy.mem_allRules_iff.2 ⟨rfl, nothing⟩)

/-- Tidy tables that store the same rules have the same entries. -/
theorem rules_eq
    (tidy : table.Tidy) (otherTidy : other.Tidy)
    (same : ∀ source, table.stored source = other.stored source) :
    table.rules = other.rules := by
  refine OrderedMap.ext_mem ?_
  rintro ⟨source, rules⟩
  change (source, rules) ∈ table.allRules ↔ (source, rules) ∈ other.allRules
  rw [tidy.mem_allRules_iff, otherTidy.mem_allRules_iff, same]

theorem insert
    (tidy : table.Tidy) {source : Source} {rules : RuleList}
    (something : rules ≠ []) (nodup : rules.Nodup) :
    Tidy { table with rules := table.rules.insert source rules } := by
  refine ⟨?_, ?_⟩
  · intro entry member
    rcases OrderedMap.mem_place member with rfl | old
    · exact something
    · exact tidy.nonempty entry old
  · intro entry member
    rcases OrderedMap.mem_place member with rfl | old
    · exact nodup
    · exact tidy.nodup entry old

theorem erase (tidy : table.Tidy) (source : Source) :
    Tidy { table with rules := table.rules.erase source } := by
  refine ⟨?_, ?_⟩
  · intro entry member
    exact tidy.nonempty entry (List.mem_of_mem_filter member)
  · intro entry member
    exact tidy.nodup entry (List.mem_of_mem_filter member)

theorem apply (tidy : table.Tidy) (edit : Edit) : (table.apply edit).Tidy := by
  cases edit with
  | add source rule =>
      have added : rule ∈ (RuleList.insert (table.stored source) rule).2 := by simp
      refine tidy.insert (List.ne_nil_of_mem added) ?_
      rw [RuleList.insert_snd]
      exact UniqueList.nodup_add (tidy.nodup_stored source) rule
  | remove source rule =>
      change (table.removeRule source rule).2.Tidy
      unfold removeRule
      cases found : table.rules.find? source with
      | none => exact tidy
      | some rules =>
          have nodup : rules.Nodup := stored_eq_of_find found ▸ tidy.nodup_stored source
          by_cases nothing : (RuleList.remove rules rule).2 = []
          · simpa [nothing] using tidy.erase source
          · simpa [nothing] using tidy.insert nothing (nodup.sublist RuleList.remove_sublist)

theorem applyAll (tidy : table.Tidy) (edits : List Edit) : (table.applyAll edits).Tidy := by
  induction edits using List.reverseRecOn with
  | nil => exact tidy
  | append_singleton edits edit inductionHypothesis =>
      rw [applyAll_concat]
      exact inductionHypothesis.apply edit

end Tidy

/-! ## Tables that start without rules -/

section Start

variable {start : RuleTable} {edits : List Edit} {source : Source} {rule : Rule}

theorem stored_eq_nil (bare : start.rules = .empty) (source : Source) :
    start.stored source = [] := by
  simp [stored, bare]

theorem tidy_of_bare (bare : start.rules = .empty) : start.Tidy := by
  have nothing : start.allRules = [] := by
    unfold allRules
    rw [bare]
    rfl
  exact ⟨by simp [nothing], by simp [nothing]⟩

/-- A rule is stored exactly if the last edit of it adds it. -/
theorem mem_stored_applyAll
    (bare : start.rules = .empty) :
    rule ∈ (start.applyAll edits).stored source ↔ Edit.LastAdds edits source rule := by
  induction edits using List.reverseRecOn with
  | nil => simp [applyAll, stored_eq_nil bare, Edit.not_lastAdds_nil]
  | append_singleton edits edit inductionHypothesis =>
      rw [applyAll_concat, stored_apply]
      by_cases concerns : edit.source = source ∧ edit.rule = rule
      · obtain ⟨rfl, rfl⟩ := concerns
        rw [if_pos rfl, Edit.lastAdds_append_of_concerns ⟨rfl, rfl⟩]
        cases edit with
        | add source rule => simp [Edit.change, Edit.source, Edit.rule]
        | remove source rule => simp [Edit.change, Edit.source, Edit.rule]
      · rw [Edit.lastAdds_append_of_other concerns, ← inductionHypothesis]
        split
        · rename_i same
          have different : rule ≠ edit.rule := fun equality => concerns ⟨same, equality.symm⟩
          cases edit with
          | add source other =>
              change rule ≠ other at different
              simp [Edit.change, different]
          | remove source other =>
              change rule ≠ other at different
              simp [Edit.change, different]
        · exact Iff.rfl

theorem inOrder_stored_applyAll (bare : start.rules = .empty) :
    Edit.InOrder edits source ((start.applyAll edits).stored source) := by
  induction edits using List.reverseRecOn with
  | nil =>
      rw [applyAll, List.foldl_nil, stored_eq_nil bare]
      exact ⟨by simp, List.Pairwise.nil⟩
  | append_singleton edits edit inductionHypothesis =>
      rw [applyAll_concat, stored_apply]
      split
      · rename_i same
        subst same
        cases edit with
        | add source rule =>
            change Edit.InOrder _ source (RuleList.insert _ rule).2
            rw [RuleList.insert_snd, UniqueList.add]
            split
            · rename_i present
              refine inductionHypothesis.append_of_old (List.Sublist.refl _) fun other _ => ?_
              by_cases equal : other = rule
              · rw [equal]
                exact Or.inr ((mem_stored_applyAll bare).1 present)
              · exact Or.inl fun adds => equal (Edit.add.inj adds).2.symm
            · rename_i fresh
              exact inductionHypothesis.append_of_new fresh
                fun last => fresh ((mem_stored_applyAll bare).2 last)
        | remove source rule =>
            exact inductionHypothesis.append_of_old RuleList.remove_sublist fun _ _ => Or.inl (by simp)
      · rename_i different
        refine inductionHypothesis.append_of_old (List.Sublist.refl _) fun _ _ => Or.inl ?_
        rintro rfl
        exact different rfl

end Start

end RuleTable

end RecipientRewriting
