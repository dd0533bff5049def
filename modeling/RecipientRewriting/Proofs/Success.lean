/-!
# Success of steps that may fail

A sequence of steps that may fail succeeds exactly if every step does.
-/

namespace RecipientRewriting

universe u v w

variable {error : Type u} {alpha beta : Type v}

theorem bind_eq_ok_iff
    {first : Except error alpha} {next : alpha → Except error beta} {value : beta} :
    first >>= next = .ok value ↔
      ∃ middle, first = .ok middle ∧ next middle = .ok value := by
  cases first with
  | error fault => simp [bind, Except.bind]
  | ok middle => simp [bind, Except.bind]

/-- A check in front of another step. -/
theorem check_bind_eq_ok_iff
    {check : Except error PUnit} {next : Except error alpha} {value : alpha} :
    (check >>= fun _ => next) = .ok value ↔ check = .ok ⟨⟩ ∧ next = .ok value := by
  cases check with
  | error fault => simp [bind, Except.bind]
  | ok passed => simp [bind, Except.bind]

theorem map_eq_ok_iff
    {first : Except error alpha} {change : alpha → beta} {value : beta} :
    first.map change = .ok value ↔
      ∃ middle, first = .ok middle ∧ change middle = value := by
  cases first with
  | error fault => simp [Except.map]
  | ok middle => simp [Except.map]

theorem forM_eq_ok_iff
    {item : Type w} {check : item → Except error PUnit} {items : List item} :
    forM items check = .ok ⟨⟩ ↔ ∀ tested ∈ items, check tested = .ok ⟨⟩ := by
  induction items with
  | nil => simp [pure, Except.pure]
  | cons first rest inductionHypothesis =>
      rw [List.forM_cons, check_bind_eq_ok_iff, List.forall_mem_cons, inductionHypothesis]

end RecipientRewriting
