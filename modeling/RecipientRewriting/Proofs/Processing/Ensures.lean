import RecipientRewriting.Processing.Run

/-!
# What a computation in a pass ensures

A computation in a pass adds effects to the trace and takes none away.
`Ensures` relates its result to the effects it adds, from wherever it starts;
since nothing is assumed of the surroundings, what is ensured holds for every
directory and every transport.
-/

namespace RecipientRewriting

namespace Pass

/-! ## Running computations one after the other -/

section Running

variable {state alpha beta : Type}
  {first : ExceptT ProcessingError (StateM state) alpha}
  {next : alpha → ExceptT ProcessingError (StateM state) beta} {start middle : state}

theorem run_pure (value : alpha) (start : state) :
    (pure value : ExceptT ProcessingError (StateM state) alpha).run start = (.ok value, start) :=
  rfl

theorem run_bind
    (first : ExceptT ProcessingError (StateM state) alpha)
    (next : alpha → ExceptT ProcessingError (StateM state) beta) (start : state) :
    (first >>= next).run start =
      match first.run start with
      | (.ok value, middle) => (next value).run middle
      | (.error failure, middle) => (.error failure, middle) := by
  change (StateT.bind first.run (ExceptT.bindCont next)) start = _
  unfold StateT.bind
  cases first.run start with
  | mk result middle =>
      cases result with
      | ok value => rfl
      | error failure => rfl

theorem run_bind_of_ok
    {value : alpha} (succeeds : first.run start = (.ok value, middle)) :
    (first >>= next).run start = (next value).run middle := by
  rw [run_bind, succeeds]

theorem run_bind_of_error
    {failure : ProcessingError} (fails : first.run start = (.error failure, middle)) :
    (first >>= next).run start = (.error failure, middle) := by
  rw [run_bind, fails]

end Running

variable {directoryWorld transportWorld alpha beta : Type}

/-- Wherever the computation starts, its result and the effects it adds to the
trace are as `post` says. -/
def Ensures (computation : Pass directoryWorld transportWorld alpha)
    (post : Except ProcessingError alpha → List Effect → Prop) : Prop :=
  ∀ start : PassState directoryWorld transportWorld, ∃ added,
    (computation.run start).2.trace = start.trace ++ added ∧
      post (computation.run start).1 added

variable {computation first : Pass directoryWorld transportWorld alpha}
  {next : alpha → Pass directoryWorld transportWorld beta}

theorem Ensures.mono
    {post weaker : Except ProcessingError alpha → List Effect → Prop}
    (ensures : computation.Ensures post)
    (implies : ∀ result added, post result added → weaker result added) :
    computation.Ensures weaker := by
  intro start
  obtain ⟨added, trace, holds⟩ := ensures start
  exact ⟨added, trace, implies _ added holds⟩

theorem ensures_pure
    {post : Except ProcessingError alpha → List Effect → Prop}
    {value : alpha}
    (holds : post (.ok value) []) :
    (pure value : Pass directoryWorld transportWorld alpha).Ensures post := by
  intro start
  exact ⟨[], by simp [run_pure], holds⟩

theorem ensures_bind
    {middle : Except ProcessingError alpha → List Effect → Prop}
    {post : Except ProcessingError beta → List Effect → Prop}
    (firstEnsures : first.Ensures middle)
    (fails : ∀ failure added, middle (.error failure) added → post (.error failure) added)
    (nextEnsures : ∀ value before, middle (.ok value) before →
      (next value).Ensures fun result added => post result (before ++ added)) :
    (first >>= next).Ensures post := by
  intro start
  obtain ⟨before, firstTrace, holds⟩ := firstEnsures start
  rw [run_bind]
  cases outcome : first.run start with
  | mk result reached =>
      rw [outcome] at firstTrace holds
      cases result with
      | error failure => exact ⟨before, firstTrace, fails failure before holds⟩
      | ok value =>
          obtain ⟨added, nextTrace, holdsNext⟩ := nextEnsures value before holds reached
          refine ⟨before ++ added, ?_, holdsNext⟩
          rw [nextTrace, firstTrace, List.append_assoc]

/-- The computation does not end early; its value and the effects it adds are as
`post` says. -/
def Succeeds (computation : Pass directoryWorld transportWorld alpha)
    (post : alpha → List Effect → Prop) : Prop :=
  computation.Ensures fun result added => ∃ value, result = .ok value ∧ post value added

theorem Succeeds.mono
    {post weaker : alpha → List Effect → Prop}
    (succeeds : computation.Succeeds post)
    (implies : ∀ value added, post value added → weaker value added) :
    computation.Succeeds weaker := by
  refine Ensures.mono succeeds ?_
  intro result added outcome
  obtain ⟨value, same, holds⟩ := outcome
  exact ⟨value, same, implies value added holds⟩

theorem succeeds_pure
    {post : alpha → List Effect → Prop} {value : alpha}
    (holds : post value []) :
    (pure value : Pass directoryWorld transportWorld alpha).Succeeds post :=
  ensures_pure ⟨value, rfl, holds⟩

/-- What ends early behind a computation that does not is what comes after it. -/
theorem Succeeds.bind
    {middle : alpha → List Effect → Prop}
    {post : Except ProcessingError beta → List Effect → Prop}
    (succeeds : first.Succeeds middle)
    (nextEnsures : ∀ value before, middle value before →
      (next value).Ensures fun result added => post result (before ++ added)) :
    (first >>= next).Ensures post := by
  refine ensures_bind succeeds ?_ ?_
  · intro failure added outcome
    obtain ⟨value, impossible, _⟩ := outcome
    simp at impossible
  · intro value before outcome
    obtain ⟨other, same, holds⟩ := outcome
    obtain rfl : value = other := by simpa using same
    exact nextEnsures value before holds

/-- A computation that adds nothing in front of one that may. -/
theorem Succeeds.bind_silent
    {holds : alpha → Prop}
    {post : Except ProcessingError beta → List Effect → Prop}
    (succeeds : first.Succeeds fun value added => added = [] ∧ holds value)
    (nextEnsures : ∀ value, holds value → (next value).Ensures post) :
    (first >>= next).Ensures post := by
  refine succeeds.bind ?_
  intro value before outcome
  obtain ⟨rfl, valueHolds⟩ := outcome
  exact nextEnsures value valueHolds

/-! ## Single steps -/

theorem note_succeeds (effect : Effect) :
    (note effect : Pass directoryWorld transportWorld Unit).Succeeds fun _ added =>
      added = [effect] := by
  intro start
  exact ⟨[effect], rfl, (), rfl, rfl⟩

theorem consult_succeeds (question : directoryWorld → alpha × directoryWorld) :
    (consult question : Pass directoryWorld transportWorld alpha).Succeeds fun reply added =>
      added = [] ∧ ∃ world, reply = (question world).1 := by
  intro start
  exact ⟨[], (List.append_nil _).symm, _, rfl, rfl, start.directory, rfl⟩

theorem get_succeeds :
    (get : Pass directoryWorld transportWorld (PassState directoryWorld transportWorld)).Succeeds
      fun _ added => added = [] ∧ True := by
  intro start
  exact ⟨[], (List.append_nil _).symm, start, rfl, rfl, trivial⟩

theorem modify_succeeds
    {change : PassState directoryWorld transportWorld → PassState directoryWorld transportWorld}
    (silent : ∀ state, (change state).trace = state.trace) :
    (modify change : Pass directoryWorld transportWorld Unit).Succeeds
      fun _ added => added = [] ∧ True := by
  intro start
  exact ⟨[], (silent start).trans (List.append_nil _).symm, (), rfl, rfl, trivial⟩

theorem duplicate_succeeds (mail : Mail) :
    (duplicate mail : Pass directoryWorld transportWorld Mail).Succeeds fun copy added =>
      added = [] ∧ ∃ name, copy = mail.duplicate name := by
  intro start
  exact ⟨[], (List.append_nil _).symm, _, rfl, rfl, _, rfl⟩

theorem audit_succeeds (events : List AuditEvent) :
    (audit events : Pass directoryWorld transportWorld Unit).Succeeds fun _ added =>
      added = events.map .audited := by
  induction events with
  | nil => exact succeeds_pure rfl
  | cons event rest inductionHypothesis =>
      refine (note_succeeds (.audited event)).bind ?_
      intro value before noted
      obtain rfl := noted
      refine Succeeds.mono inductionHypothesis ?_
      intro value added recorded
      rw [recorded]
      rfl

/-- A failed lookup ends the pass. -/
theorem require_ensures (reply : Except LookupError alpha) :
    (require reply : Pass directoryWorld transportWorld alpha).Ensures fun result added =>
      result = reply.mapError .lookup ∧ added = [] := by
  intro start
  cases reply with
  | ok value => exact ⟨[], (List.append_nil _).symm, rfl, rfl⟩
  | error failure => exact ⟨[], (List.append_nil _).symm, rfl, rfl⟩

end Pass

namespace Processor

variable {directoryWorld transportWorld : Type}

theorem inject_succeeds
    (processor : Processor directoryWorld transportWorld) (reason : CopyReason)
    (injection : Injection) :
    (processor.inject reason injection).Succeeds fun answer added =>
      added = [.injected reason injection answer] := by
  intro start
  exact ⟨[_], rfl, _, rfl, rfl⟩

/-- A copy that must be taken ends the pass if it is refused. -/
theorem injectOrFail_ensures
    (processor : Processor directoryWorld transportWorld) (reason : CopyReason)
    (injection : Injection) :
    (processor.injectOrFail reason injection).Ensures fun result added =>
      ∃ answer, result = answer.mapError .transport ∧
        added = [.injected reason injection answer] := by
  refine (processor.inject_succeeds reason injection).bind ?_
  intro answer before handed
  obtain rfl := handed
  cases answer with
  | ok taken => exact Pass.ensures_pure ⟨.ok taken, rfl, rfl⟩
  | error failure =>
      intro start
      exact ⟨[], (List.append_nil _).symm, .error failure, rfl, rfl⟩

end Processor

end RecipientRewriting
