import RecipientRewriting.UniqueList

/-!
# Adding up lists without repetition

Adding candidates one by one, some of them later, or a list of them that has
been freed of repetitions before, always comes to the same list: first what was
there, then what is new, in order of first appearance.
-/

namespace RecipientRewriting.UniqueList

universe u

variable {alpha : Type u} [DecidableEq alpha]

/-! ## What comes behind -/

theorem removeAll_append_singleton
    (candidates items : List alpha) (candidate : alpha) :
    candidates.removeAll (items ++ [candidate]) =
      (candidates.removeAll items).filter fun item => !item == candidate := by
  simp only [List.removeAll, List.filter_filter]
  refine List.filter_congr fun item _ => ?_
  rw [Bool.eq_iff_iff]
  simp [and_comm]

/-- New candidates come behind the items, each where it appears first. -/
theorem addAll_eq
    (items candidates : List alpha) :
    addAll items candidates = items ++ (candidates.removeAll items).eraseDups := by
  induction candidates generalizing items with
  | nil => simp [List.removeAll]
  | cons candidate rest inductionHypothesis =>
      rw [addAll_cons, inductionHypothesis, List.cons_removeAll]
      by_cases present : candidate ∈ items
      · have unchanged : add items candidate = items := by simp [add, present]
        have skipped : ¬ items.contains candidate = false := by simpa using present
        rw [unchanged, if_neg skipped]
      · have taken : items.contains candidate = false := by simpa using present
        rw [add_of_not_mem present, if_pos taken, List.eraseDups_cons,
          removeAll_append_singleton]
        simp

theorem ofList_eq_eraseDups (candidates : List alpha) :
    ofList candidates = candidates.eraseDups := by
  rw [ofList, addAll_eq]
  simp

/-! ## Adding in parts -/

theorem addAll_append (items earlier later : List alpha) :
    addAll items (earlier ++ later) = addAll (addAll items earlier) later :=
  List.foldl_append

theorem addAll_add (items earlier : List alpha) (candidate : alpha) :
    addAll items (add earlier candidate) = add (addAll items earlier) candidate := by
  by_cases present : candidate ∈ earlier
  · have alreadyThere : candidate ∈ addAll items earlier := mem_addAll.2 (Or.inr present)
    simp [add, present, alreadyThere]
  · rw [add_of_not_mem present, addAll_append]
    rfl

theorem addAll_assoc (items earlier later : List alpha) :
    addAll (addAll items earlier) later = addAll items (addAll earlier later) := by
  induction later generalizing earlier with
  | nil => rfl
  | cons candidate rest inductionHypothesis =>
      rw [addAll_cons, addAll_cons, ← inductionHypothesis, addAll_add]

/-- Repetitions may be dropped before adding as well as while adding. -/
theorem addAll_ofList (items candidates : List alpha) :
    addAll items (ofList candidates) = addAll items candidates := by
  rw [ofList, ← addAll_assoc, addAll_nil]

theorem ofList_append (earlier later : List alpha) :
    ofList (earlier ++ later) = addAll (ofList earlier) (ofList later) := by
  rw [addAll_ofList, ofList, addAll_append]
  rfl

/-- Which of two lists comes first matters for the order only. -/
theorem addAll_perm
    {left right : List alpha}
    (leftNodup : left.Nodup)
    (rightNodup : right.Nodup) :
    (addAll left right).Perm (addAll right left) := by
  refine (List.perm_ext_iff_of_nodup (nodup_addAll leftNodup right)
    (nodup_addAll rightNodup left)).2 fun item => ?_
  rw [mem_addAll, mem_addAll]
  exact Or.comm

end RecipientRewriting.UniqueList
