/-!
# Lists without repetition

Rule lists, recipient lists and ledgers all keep the order in which their
members first appeared and never hold a member twice.  They are plain lists,
grown only by `UniqueList.add` and `UniqueList.addAll`; the lemmas say what a
list holds after either, and that neither introduces a repetition.
-/

namespace RecipientRewriting.UniqueList

universe u

variable {alpha : Type u} [DecidableEq alpha]

/-- Puts `candidate` behind `items`, unless it is among them already. -/
def add (items : List alpha) (candidate : alpha) : List alpha :=
  if candidate ∈ items then items else items ++ [candidate]

def addAll (items candidates : List alpha) : List alpha :=
  candidates.foldl add items

/-- The candidates without their repetitions, in order of first appearance. -/
def ofList (candidates : List alpha) : List alpha :=
  addAll [] candidates

/-! ## Membership -/

@[simp]
theorem mem_add {items : List alpha} {candidate item : alpha} :
    item ∈ add items candidate ↔ item ∈ items ∨ item = candidate := by
  unfold add
  split
  · rename_i present
    constructor
    · exact Or.inl
    · rintro (member | rfl)
      · exact member
      · exact present
  · simp

@[simp]
theorem addAll_nil (items : List alpha) : addAll items [] = items :=
  rfl

@[simp]
theorem addAll_cons (items rest : List alpha) (candidate : alpha) :
    addAll items (candidate :: rest) = addAll (add items candidate) rest :=
  rfl

@[simp]
theorem mem_addAll {items candidates : List alpha} {item : alpha} :
    item ∈ addAll items candidates ↔ item ∈ items ∨ item ∈ candidates := by
  induction candidates generalizing items with
  | nil => simp
  | cons candidate rest inductionHypothesis =>
      simp [inductionHypothesis, or_assoc]

@[simp]
theorem mem_ofList {candidates : List alpha} {item : alpha} :
    item ∈ ofList candidates ↔ item ∈ candidates := by
  simp [ofList]

/-! ## Absence of repetitions -/

theorem nodup_add {items : List alpha} (nodup : items.Nodup) (candidate : alpha) :
    (add items candidate).Nodup := by
  unfold add
  split
  · exact nodup
  · rename_i absent
    refine List.nodup_append.2 ⟨nodup, by simp, ?_⟩
    intro item member other otherMember equality
    have : other = candidate := by simpa using otherMember
    exact absent (this ▸ equality ▸ member)

theorem nodup_addAll {items : List alpha} (nodup : items.Nodup) (candidates : List alpha) :
    (addAll items candidates).Nodup := by
  induction candidates generalizing items with
  | nil => exact nodup
  | cons candidate rest inductionHypothesis =>
      exact inductionHypothesis (nodup_add nodup candidate)

theorem nodup_ofList (candidates : List alpha) : (ofList candidates).Nodup :=
  nodup_addAll List.nodup_nil candidates

theorem add_of_not_mem {items : List alpha} {candidate : alpha} (absent : candidate ∉ items) :
    add items candidate = items ++ [candidate] := by
  rw [add, if_neg absent]

/-- Adding a list of which nothing is there yet puts it behind. -/
theorem addAll_eq_append {items candidates : List alpha} (nodup : (items ++ candidates).Nodup) :
    addAll items candidates = items ++ candidates := by
  induction candidates generalizing items with
  | nil => simp
  | cons candidate rest inductionHypothesis =>
      have absent : candidate ∉ items := by
        intro member
        exact (List.nodup_append.1 nodup).2.2 candidate member candidate List.mem_cons_self rfl
      rw [addAll_cons, add_of_not_mem absent, inductionHypothesis]
      · simp
      · simpa using nodup

/-- A list without repetitions is left as it is. -/
theorem ofList_eq_self {candidates : List alpha} (nodup : candidates.Nodup) :
    ofList candidates = candidates :=
  @addAll_eq_append _ _ [] candidates nodup

/-- Adding a list that is already part of `items` changes nothing. -/
theorem addAll_eq_self {items candidates : List alpha}
    (subset : ∀ item ∈ candidates, item ∈ items) : addAll items candidates = items := by
  induction candidates with
  | nil => rfl
  | cons candidate rest inductionHypothesis =>
      have head : candidate ∈ items := subset candidate (by simp)
      have unchanged : add items candidate = items := by simp [add, head]
      rw [addAll_cons, unchanged]
      exact inductionHypothesis fun item member => subset item (by simp [member])

end RecipientRewriting.UniqueList
