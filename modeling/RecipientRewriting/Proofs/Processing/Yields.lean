import RecipientRewriting.Proofs.Processing.Ensures

/-!
# What a computation in a pass yields

Targets without a domain are completed with the default domain, which a pass
remembers once it has asked for it.  So what a computation returns depends on
where it starts, and only states in which the remembered domain is one that the
directory has answered with are of interest.  `Yields` says what a computation
returns when it starts in such a state, and that it ends in one.
-/

namespace RecipientRewriting

/-- At some time the directory answers with this default domain. -/
def Directory.Supplies {world : Type} (directory : Directory world) (domain : Domain) : Prop :=
  ∃ now, (directory.defaultDomain now).1 = .ok domain

/-- The default domain that a pass remembers, if it does, comes from the
directory. -/
def PassState.Supplied {directoryWorld transportWorld : Type}
    (state : PassState directoryWorld transportWorld) (directory : Directory directoryWorld) :
    Prop :=
  ∀ domain, state.defaultDomain = some domain → directory.Supplies domain

theorem PassState.start_supplied
    {directoryWorld transportWorld : Type}
    (surroundings : Surroundings directoryWorld transportWorld)
    (directory : Directory directoryWorld) :
    (PassState.start surroundings).Supplied directory := by
  intro domain remembered
  simp [PassState.start] at remembered

namespace Pass

variable {directoryWorld transportWorld alpha beta : Type}
  {directory : Directory directoryWorld}

theorem run_bind_eq_ok_iff
    {first : Pass directoryWorld transportWorld alpha}
    {next : alpha → Pass directoryWorld transportWorld beta}
    {start last : PassState directoryWorld transportWorld} {value : beta} :
    (first >>= next).run start = (.ok value, last) ↔
      ∃ found middle, first.run start = (.ok found, middle) ∧
        (next found).run middle = (.ok value, last) := by
  rw [run_bind]
  cases outcome : first.run start with
  | mk result middle =>
      cases result with
      | error failure =>
          constructor
          · intro failed
            cases failed
          · rintro ⟨found, reached, failed, _⟩
            cases failed
      | ok found =>
          constructor
          · intro returned
            exact ⟨found, middle, rfl, returned⟩
          · rintro ⟨other, reached, same, returned⟩
            cases same
            exact returned

/-- From a state that remembers no other default domain than one of the
directory's, the computation leads to such a state, and what it returns is as
`post` says. -/
def Yields (directory : Directory directoryWorld)
    (computation : Pass directoryWorld transportWorld alpha) (post : alpha → Prop) : Prop :=
  ∀ start : PassState directoryWorld transportWorld, start.Supplied directory →
    (computation.run start).2.Supplied directory ∧
      ∀ value, (computation.run start).1 = .ok value → post value

variable {computation first : Pass directoryWorld transportWorld alpha}
  {next : alpha → Pass directoryWorld transportWorld beta}

theorem Yields.of_run
    {post : alpha → Prop} {start last : PassState directoryWorld transportWorld} {value : alpha}
    (yields : computation.Yields directory post)
    (supplied : start.Supplied directory)
    (outcome : computation.run start = (.ok value, last)) :
    last.Supplied directory ∧ post value := by
  obtain ⟨lastSupplied, holds⟩ := yields start supplied
  rw [outcome] at lastSupplied holds
  exact ⟨lastSupplied, holds value rfl⟩

theorem Yields.mono
    {post weaker : alpha → Prop}
    (yields : computation.Yields directory post)
    (implies : ∀ value, post value → weaker value) :
    computation.Yields directory weaker := by
  intro start supplied
  obtain ⟨lastSupplied, holds⟩ := yields start supplied
  exact ⟨lastSupplied, fun value returned => implies value (holds value returned)⟩

theorem yields_pure
    {post : alpha → Prop} {value : alpha} (holds : post value) :
    (pure value : Pass directoryWorld transportWorld alpha).Yields directory post := by
  intro start supplied
  refine ⟨supplied, ?_⟩
  intro other returned
  cases returned
  exact holds

theorem yields_bind
    {middle : alpha → Prop} {post : beta → Prop}
    (firstYields : first.Yields directory middle)
    (nextYields : ∀ value, middle value → (next value).Yields directory post) :
    (first >>= next).Yields directory post := by
  intro start supplied
  obtain ⟨reachedSupplied, holds⟩ := firstYields start supplied
  rw [run_bind]
  cases outcome : first.run start with
  | mk result reached =>
      rw [outcome] at reachedSupplied holds
      cases result with
      | error failure => exact ⟨reachedSupplied, by simp⟩
      | ok value => exact nextYields value (holds value rfl) reached reachedSupplied

/-- Most steps have nothing to do with the default domain. -/
theorem yields_of_remembers
    {post : alpha → Prop}
    (remembers : ∀ start, (computation.run start).2.defaultDomain = start.defaultDomain)
    (holds : ∀ start value, (computation.run start).1 = .ok value → post value) :
    computation.Yields directory post := by
  intro start supplied
  refine ⟨?_, holds start⟩
  intro domain remembered
  rw [remembers] at remembered
  exact supplied domain remembered

/-! ## Single steps -/

theorem note_yields (effect : Effect) :
    (note effect : Pass directoryWorld transportWorld Unit).Yields directory fun _ => True :=
  yields_of_remembers (fun _ => rfl) (fun _ _ _ => trivial)

theorem get_yields :
    (get : Pass directoryWorld transportWorld (PassState directoryWorld transportWorld)).Yields
      directory fun state => state.Supplied directory := by
  intro start supplied
  refine ⟨supplied, ?_⟩
  intro state returned
  cases returned
  exact supplied

theorem remember_yields
    {domain : Domain} (supplies : directory.Supplies domain) :
    (modify fun state => { state with defaultDomain := some domain } :
      Pass directoryWorld transportWorld Unit).Yields directory fun _ => True := by
  intro start _
  refine ⟨?_, fun _ _ => trivial⟩
  intro other remembered
  cases remembered
  exact supplies

theorem consult_yields (question : directoryWorld → alpha × directoryWorld) :
    (consult question : Pass directoryWorld transportWorld alpha).Yields directory fun reply =>
      ∃ now, (question now).1 = reply := by
  refine yields_of_remembers (fun _ => rfl) ?_
  intro start reply returned
  cases returned
  exact ⟨start.directory, rfl⟩

theorem require_yields (reply : Except LookupError alpha) :
    (require reply : Pass directoryWorld transportWorld alpha).Yields directory fun value =>
      reply = .ok value := by
  cases reply with
  | ok value => exact yields_pure rfl
  | error failure =>
      refine yields_of_remembers (fun _ => rfl) ?_
      intro start value returned
      cases returned

theorem duplicate_yields (mail : Mail) :
    (duplicate mail : Pass directoryWorld transportWorld Mail).Yields directory fun _ => True :=
  yields_of_remembers (fun _ => rfl) (fun _ _ _ => trivial)

theorem audit_yields (events : List AuditEvent) :
    (audit events : Pass directoryWorld transportWorld Unit).Yields directory fun _ => True := by
  induction events with
  | nil => exact yields_pure trivial
  | cons event rest inductionHypothesis =>
      exact yields_bind (note_yields _) fun _ _ => inductionHypothesis

/-- A lookup that is written down yields its answer. -/
theorem lookup_yields (effect : Effect) (reply : Except LookupError alpha) :
    (do note effect
        require reply : Pass directoryWorld transportWorld alpha).Yields directory fun value =>
      reply = .ok value :=
  yields_bind (note_yields effect) fun _ _ => require_yields reply

end Pass

namespace Processor

variable {directoryWorld transportWorld : Type}
  (processor : Processor directoryWorld transportWorld)

theorem inject_yields
    (directory : Directory directoryWorld) (reason : CopyReason) (injection : Injection) :
    (processor.inject reason injection).Yields directory fun _ => True :=
  Pass.yields_of_remembers (fun _ => rfl) (fun _ _ _ => trivial)

theorem injectOrFail_yields
    (directory : Directory directoryWorld) (reason : CopyReason) (injection : Injection) :
    (processor.injectOrFail reason injection).Yields directory fun _ => True := by
  refine Pass.yields_bind (processor.inject_yields directory reason injection) ?_
  intro answer _
  cases answer with
  | ok taken => exact Pass.yields_pure trivial
  | error failure => exact Pass.yields_of_remembers (fun _ => rfl) (fun _ _ _ => trivial)

/-- The default domain comes from the directory, whether it is asked for or
remembered. -/
theorem defaultDomain_yields :
    processor.defaultDomain.Yields processor.directory processor.directory.Supplies := by
  refine Pass.yields_bind Pass.get_yields ?_
  intro state supplied
  cases remembered : state.defaultDomain with
  | some domain => exact Pass.yields_pure (supplied domain remembered)
  | none =>
      refine Pass.yields_bind (Pass.consult_yields _) ?_
      intro reply consulted
      obtain ⟨now, rfl⟩ := consulted
      rw [← bind_assoc]
      refine Pass.yields_bind (Pass.lookup_yields _ _) ?_
      intro domain answered
      have supplies : processor.directory.Supplies domain := ⟨now, answered⟩
      exact Pass.yields_bind (Pass.remember_yields supplies) fun _ _ => Pass.yields_pure supplies

end Processor

end RecipientRewriting
