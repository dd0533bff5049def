import RecipientRewriting.Configuration
import RecipientRewriting.Proofs.Notation.Records
import RecipientRewriting.Proofs.RuleTable.Editing

/-!
# The contents of rule tables

What a table lists and answers after any edits, and which rules a table has that a
configuration describes.
-/

namespace RecipientRewriting

/-! ## Configured tables -/

namespace TableSettings

def StatesOnce (settings : TableSettings) : Prop :=
  ∀ entry ∈ settings.mappings.entries, entry.2.Nodup

open Notation in
/-- Whatever way a configuration is written, rules are read once. -/
theorem statesOnce_of_read
    {text : String} {settings : TableSettings}
    (read : format.read text = .ok settings) :
    settings.StatesOnce := by
  have rules : Reader.Ensures (fun rules : RuleList => rules.Nodup) RuleList.format.reader :=
    Reader.ensures_map (Reader.ensures_true _) fun rules _ => UniqueList.nodup_ofList rules
  have mappings : Reader.Ensures
      (fun map : OrderedMap Source RuleList => ∀ entry ∈ map.entries, entry.2.Nodup)
      (Format.orderedMap Source.format RuleList.format).reader :=
    Reader.ensures_map (Reader.ensures_entries rules) fun pairs nodup entry member =>
      nodup entry (OrderedMap.mem_of_mem_ofList member)
  refine (Reader.ensures_record "TableConfig" ?_ ?_).of_read read
  · simp [StatesOnce, default, OrderedMap.empty]
  · intro field member
    simp only [List.map_cons, List.map_nil, List.mem_cons, List.not_mem_nil, or_false] at member
    rcases member with rfl | rfl | rfl
    · exact Reader.preserves_of (Reader.ensures_true _) fun _ _ _ once => once
    · exact Reader.preserves_of (Reader.ensures_true _) fun _ _ _ once => once
    · exact Reader.preserves_of mappings fun _ once _ _ => once

/-- Each source gets the rules that are stated for it. -/
theorem stored_foldl_addRules
    {entries : List (Source × RuleList)}
    (nodup : (entries.map Prod.fst).Nodup)
    (table : RuleTable) (source : Source) :
    (entries.foldl (fun table (source, rules) => table.addRules source rules) table).stored source =
      UniqueList.addAll (table.stored source) ((OrderedMap.lookup source entries).getD []) := by
  induction entries generalizing table with
  | nil => rfl
  | cons entry rest inductionHypothesis =>
      obtain ⟨first, rules⟩ := entry
      obtain ⟨fresh, restNodup⟩ := List.nodup_cons.1 nodup
      rw [List.foldl_cons, inductionHypothesis restNodup, RuleTable.stored_addRules,
        OrderedMap.lookup]
      by_cases same : source = first
      · subst same
        rw [if_pos rfl, if_pos rfl, OrderedMap.lookup_eq_none fresh]
        rfl
      · rw [if_neg same, if_neg same]

theorem tidy_addRules
    {table : RuleTable} (tidy : table.Tidy) (source : Source) (rules : RuleList) :
    (table.addRules source rules).Tidy := by
  have edits : table.addRules source rules = table.applyAll (rules.map (Edit.add source)) := by
    rw [RuleTable.applyAll, List.foldl_map]
    rfl
  rw [edits]
  exact tidy.applyAll _

theorem tidy_toTable (settings : TableSettings) (defaultDomain : Option Domain) :
    (settings.toTable defaultDomain).Tidy := by
  unfold toTable
  refine List.foldlRecOn (motive := RuleTable.Tidy) settings.mappings.entries _
    (RuleTable.tidy_of_bare rfl) ?_
  intro table tidy entry _
  exact tidy_addRules tidy entry.1 entry.2

/-- A table stores what is stated for those sources that anything is stated for. -/
theorem allRules_toTable
    {settings : TableSettings}
    (once : settings.StatesOnce) (defaultDomain : Option Domain) :
    (settings.toTable defaultDomain).allRules =
      settings.mappings.entries.filter fun entry => !entry.2.isEmpty := by
  have tidy := settings.tidy_toTable defaultDomain
  have same : (settings.toTable defaultDomain).rules =
      settings.mappings.filter fun entry => !entry.2.isEmpty := by
    refine OrderedMap.ext_mem ?_
    rintro ⟨source, rules⟩
    change (source, rules) ∈ (settings.toTable defaultDomain).allRules ↔ _
    have stored : (settings.toTable defaultDomain).stored source =
        UniqueList.ofList ((settings.mappings.find? source).getD []) :=
      stored_foldl_addRules settings.mappings.nodup_keys _ source
    rw [tidy.mem_allRules_iff, stored, OrderedMap.filter, List.mem_filter,
      OrderedMap.mem_entries_iff]
    cases found : settings.mappings.find? source with
    | none => simp [UniqueList.ofList]
    | some stated =>
        have nodup := once _ (OrderedMap.mem_entries_iff.2 found)
        rw [Option.getD_some, UniqueList.ofList_eq_self nodup]
        simp
  rw [RuleTable.allRules, same]
  rfl

end TableSettings

namespace RuleTable

variable {table start : RuleTable} {edits others : List Edit}

/-! ## Answers about edits -/

/-- A removal tells whether it changes the table. -/
theorem removeRule_fst_iff_ne
    (tidy : table.Tidy) {source : Source} {rule : Rule} :
    (table.removeRule source rule).1 = true ↔ (table.removeRule source rule).2 ≠ table := by
  rw [removeRule_fst]
  constructor
  · intro present unchanged
    have removed := stored_removeRule table source source rule
    rw [unchanged, if_pos rfl] at removed
    rw [removed] at present
    simp at present
  · intro changes
    by_contra absent
    have same (other : Source) :
        (table.removeRule source rule).2.stored other = table.stored other := by
      rw [stored_removeRule, RuleList.remove_snd_of_not_mem absent]
      by_cases equal : other = source
      · rw [if_pos equal, equal]
      · rw [if_neg equal]
    have rules := (tidy.apply (.remove source rule)).rules_eq tidy same
    have whole := table.apply_eq (.remove source rule)
    rw [rules] at whole
    exact changes whole

/-- Only the order of the edits of one source matters. -/
theorem applyAll_congr
    (tidy : table.Tidy)
    (same : ∀ source, edits.filter (fun edit => edit.source = source) =
      others.filter fun edit => edit.source = source) :
    table.applyAll edits = table.applyAll others := by
  have rules : (table.applyAll edits).rules = (table.applyAll others).rules := by
    refine (tidy.applyAll edits).rules_eq (tidy.applyAll others) fun source => ?_
    rw [stored_applyAll, stored_applyAll, same]
  rw [applyAll_eq, rules, ← applyAll_eq]

/-- What a table lists and answers that starts without rules.  Sources stand in
strictly increasing order, each with some rules and none twice.  A rule is stored
exactly if its last edit adds it, which is what its removal answers and also when that
changes anything, and the rules of a source stand in the order in which they were last newly added.
How edits of different sources are interleaved makes no difference.  A table that a
configuration describes stores the entries in which it states any rules. -/
theorem edited_exactly
    (start : RuleTable) (bare : start.rules = .empty) (edits : List Edit) :
    ((start.applyAll edits).allRules.map Prod.fst).Pairwise
      (fun earlier later => compare earlier later = .lt) ∧
    (∀ entry ∈ (start.applyAll edits).allRules, entry.2 ≠ [] ∧ entry.2.Nodup) ∧
    (∀ source rule,
      (∃ rules, (source, rules) ∈ (start.applyAll edits).allRules ∧ rule ∈ rules) ↔
        Edit.LastAdds edits source rule) ∧
    (∀ source rules, (source, rules) ∈ (start.applyAll edits).allRules →
      Edit.InOrder edits source rules) ∧
    (∀ source rule,
      (((start.applyAll edits).removeRule source rule).1 = true ↔
        Edit.LastAdds edits source rule) ∧
      (((start.applyAll edits).removeRule source rule).1 = true ↔
        ((start.applyAll edits).removeRule source rule).2 ≠ start.applyAll edits)) ∧
    (∀ others : List Edit,
      (∀ source, edits.filter (fun edit => edit.source = source) =
        others.filter fun edit => edit.source = source) →
      (start.applyAll edits).allRules = (start.applyAll others).allRules ∧
        ∀ source kinds, (start.applyAll edits).resolve source kinds =
          (start.applyAll others).resolve source kinds) ∧
    (∀ text settings defaultDomain, TableSettings.format.read text = .ok settings →
      (settings.toTable defaultDomain).allRules =
        settings.mappings.entries.filter fun entry => !entry.2.isEmpty) ∧
    ∀ settings : TableSettings, ∀ defaultDomain, settings.StatesOnce →
      (settings.toTable defaultDomain).allRules =
        settings.mappings.entries.filter fun entry => !entry.2.isEmpty := by
  have tidy := (tidy_of_bare bare).applyAll edits
  refine ⟨List.pairwise_map.2 (start.applyAll edits).rules.increasing,
    fun entry member => ⟨tidy.nonempty entry member, tidy.nodup entry member⟩, ?_, ?_, ?_, ?_,
    fun _ settings defaultDomain read =>
      TableSettings.allRules_toTable (TableSettings.statesOnce_of_read read) defaultDomain,
    fun settings defaultDomain once => TableSettings.allRules_toTable once defaultDomain⟩
  · intro source rule
    rw [← mem_stored_applyAll bare]
    constructor
    · rintro ⟨rules, listed, member⟩
      rw [(tidy.mem_allRules_iff.1 listed).1]
      exact member
    · intro member
      exact ⟨_, tidy.mem_allRules_iff.2 ⟨rfl, List.ne_nil_of_mem member⟩, member⟩
  · intro source rules listed
    rw [← (tidy.mem_allRules_iff.1 listed).1]
    exact inOrder_stored_applyAll bare
  · intro source rule
    exact ⟨removeRule_fst.trans (mem_stored_applyAll bare), removeRule_fst_iff_ne tidy⟩
  · intro others same
    rw [applyAll_congr (tidy_of_bare bare) same]
    exact ⟨rfl, fun _ _ => rfl⟩

/-! ### Two sources, edited in turn -/

def housemate : Source :=
  .user "carl" (.ofString "x.org")

def household : Source :=
  .anyone (.ofString "x.org")

/-- One rule leaves and comes back behind the other one, which is added twice, while
the only rule of everybody comes and goes. -/
def shuffled : List Edit :=
  [.add housemate ⟨.userAlias, "anne@y.org"⟩, .add household ⟨.error, ""⟩,
   .add housemate ⟨.forward, "bert@y.org"⟩, .remove housemate ⟨.userAlias, "anne@y.org"⟩,
   .remove household ⟨.error, ""⟩, .add housemate ⟨.forward, "bert@y.org"⟩,
   .add housemate ⟨.userAlias, "anne@y.org"⟩]

/-- The same edits, those of everybody first. -/
def regrouped : List Edit :=
  shuffled.filter (fun edit => edit.source = household) ++
    shuffled.filter fun edit => edit.source = housemate

/-- A configuration of one user with both rules, and of everybody without any. -/
def stated : TableSettings :=
  { TableSettings.default with
    mappings := .ofList
      [(housemate, [⟨.forward, "bert@y.org"⟩, ⟨.userAlias, "anne@y.org"⟩]), (household, [])] }

theorem shuffled_edited :
    RuleTable.empty.rules = .empty ∧
      ((RuleTable.empty.applyAll shuffled).removeRule housemate
        ⟨.userAlias, "anne@y.org"⟩).1 = true ∧
      (RuleTable.empty.applyAll shuffled).removeRule household ⟨.error, ""⟩ =
        (false, RuleTable.empty.applyAll shuffled) ∧
      Edit.InOrder shuffled housemate [⟨.forward, "bert@y.org"⟩, ⟨.userAlias, "anne@y.org"⟩] ∧
      (RuleTable.empty.applyAll shuffled).allRules =
        (RuleTable.empty.applyAll regrouped).allRules ∧
      (RuleTable.empty.applyAll shuffled).resolve housemate .all =
        (RuleTable.empty.applyAll regrouped).resolve housemate .all ∧
      (stated.toTable none).allRules = (RuleTable.empty.applyAll shuffled).allRules := by
  obtain ⟨_, _, _, inOrder, answers, order, _, configured⟩ :=
    edited_exactly RuleTable.empty rfl shuffled
  have once : stated.StatesOnce := by
    unfold TableSettings.StatesOnce
    decide +kernel
  have bySource (source : Source) : shuffled.filter (fun edit => edit.source = source) =
      regrouped.filter fun edit => edit.source = source := by
    by_cases edited : source ∈ [housemate, household]
    · rcases List.mem_pair.1 edited with rfl | rfl
      · decide +kernel
      · decide +kernel
    · have nothing (edits : List Edit)
          (sources : ∀ edit ∈ edits, edit.source ∈ [housemate, household]) :
          edits.filter (fun edit => edit.source = source) = [] := by
        refine List.filter_eq_nil_iff.2 fun edit member => ?_
        have different : edit.source ≠ source := fun same => edited (same ▸ sources edit member)
        simpa using different
      rw [nothing shuffled (by decide +kernel), nothing regrouped (by decide +kernel)]
  have absent : ((RuleTable.empty.applyAll shuffled).removeRule household ⟨.error, ""⟩).1 = false :=
    Bool.eq_false_iff.2 fun present =>
      absurd ((answers household ⟨.error, ""⟩).1.1 present) (by decide +kernel)
  have unchanged : ((RuleTable.empty.applyAll shuffled).removeRule household ⟨.error, ""⟩).2 =
      RuleTable.empty.applyAll shuffled := by
    by_contra changes
    have removed := (answers household ⟨.error, ""⟩).2.2 changes
    simp [absent] at removed
  exact ⟨rfl, (answers _ _).1.2 (by decide +kernel), Prod.ext absent unchanged,
    inOrder _ _ (by decide +kernel), (order regrouped bySource).1,
    (order regrouped bySource).2 _ _, (configured stated none once).trans (by decide +kernel)⟩

end RuleTable

end RecipientRewriting
