import RecipientRewriting.Proofs.Processing.Answers

/-!
# What a pass remembers

A pass asks for the default domain when a lookup has found a rule that leaves one
out, and remembers the answer from then on.  `recallDomain` reads off the trace what is
remembered, so that whoever knows the effects of a computation knows how it
completes targets.  The invariant that carries over from one computation to the
next is `AsksOnDemand`: among the effects is one request if there was a need for
it and nothing to remember, and none otherwise.
-/

namespace RecipientRewriting

namespace Effect

def suppliedDomain? : Effect → Option Domain
  | askedDefaultDomain (.ok domain) => some domain
  | _ => none

def foundRules : Effect → RuleList
  | resolved _ (.ok (.success rules)) => rules
  | foundForwards _ (.ok rules) => rules
  | _ => []

/-- A lookup has found a rule that leaves out a domain. -/
def leavesOutDomain (effect : Effect) : Bool :=
  effect.foundRules.any Rule.needsDomain

/-- Something that a pass does, and not something it asks. -/
def IsDeed : Effect → Prop
  | injected _ _ _ | audited _ => True
  | resolved _ _ | foundForwards _ _ | askedDefaultDomain _ | askedLocality _ _ => False

end Effect

/-! ## Remembering the default domain -/

/-- The default domain that is remembered behind some effects. -/
def recallDomain (remembered : Option Domain) (effects : List Effect) : Option Domain :=
  remembered.or (effects.findSome? Effect.suppliedDomain?)

@[simp]
theorem recallDomain_nil (remembered : Option Domain) :
    recallDomain remembered [] = remembered := by
  simp [recallDomain]

@[simp]
theorem recallDomain_append (remembered : Option Domain) (before behind : List Effect) :
    recallDomain remembered (before ++ behind) =
      recallDomain (recallDomain remembered before) behind := by
  simp [recallDomain, List.findSome?_append, Option.or_assoc]

/-- What is remembered once is not replaced. -/
@[simp]
theorem recallDomain_some (domain : Domain) (effects : List Effect) :
    recallDomain (some domain) effects = some domain := by
  simp [recallDomain]

/-- What is remembered behind some effects is remembered behind more of them. -/
theorem recallDomain_append_of_some
    {remembered : Option Domain} {before : List Effect} {domain : Domain}
    (recalled : recallDomain remembered before = some domain) (behind : List Effect) :
    recallDomain remembered (before ++ behind) = some domain := by
  rw [recallDomain_append, recalled, recallDomain_some]

theorem recallDomain_of_unsupplied
    {effects : List Effect}
    (remembered : Option Domain)
    (unsupplied : ∀ effect ∈ effects, effect.suppliedDomain? = none) :
    recallDomain remembered effects = remembered := by
  have nothing : effects.findSome? Effect.suppliedDomain? = none :=
    List.findSome?_eq_none_iff.2 unsupplied
  rw [recallDomain, nothing, Option.or_none]

/-- If every lookup is answered, whatever has been asked for is remembered. -/
theorem recallDomain_eq_none_iff
    {remembered : Option Domain} {effects : List Effect}
    (complete : failedLookups effects = []) :
    recallDomain remembered effects = none ↔
      remembered = none ∧ effects.countP Effect.asksDefaultDomain = 0 := by
  have each : ∀ effect ∈ effects,
      (effect.suppliedDomain? = none ↔ ¬ effect.asksDefaultDomain = true) := by
    intro effect member
    have answered := List.filterMap_eq_nil_iff.1 complete effect member
    cases effect with
    | askedDefaultDomain reply =>
        cases reply with
        | ok domain => simp [Effect.suppliedDomain?, Effect.asksDefaultDomain]
        | error failure => simp [Effect.lookupFailure?, LookupError.ofReply?] at answered
    | resolved source reply => simp [Effect.suppliedDomain?, Effect.asksDefaultDomain]
    | foundForwards source reply => simp [Effect.suppliedDomain?, Effect.asksDefaultDomain]
    | askedLocality domain reply => simp [Effect.suppliedDomain?, Effect.asksDefaultDomain]
    | injected reason injection reply =>
        simp [Effect.suppliedDomain?, Effect.asksDefaultDomain]
    | audited event => simp [Effect.suppliedDomain?, Effect.asksDefaultDomain]
  rw [recallDomain, Option.or_eq_none_iff, List.findSome?_eq_none_iff, List.countP_eq_zero]
  exact and_congr_right fun _ => forall₂_congr each

/-- Among the effects is one request for the default domain if it is needed and
not remembered, and none otherwise.  A computation needs it on its own demand or
because of what it finds. -/
def AsksOnDemand (demand : Bool) (remembered : Option Domain) (effects : List Effect) : Prop :=
  effects.countP Effect.asksDefaultDomain =
    if remembered = none ∧ (demand || effects.any Effect.leavesOutDomain) = true then 1 else 0

theorem AsksOnDemand.append
    {demand later : Bool} {remembered : Option Domain} {before behind : List Effect}
    (first : AsksOnDemand demand remembered before)
    (complete : failedLookups before = [])
    (second : AsksOnDemand later (recallDomain remembered before) behind) :
    AsksOnDemand (demand || later) remembered (before ++ behind) := by
  unfold AsksOnDemand at *
  simp only [List.countP_append, second, recallDomain_eq_none_iff complete, first, List.any_append]
  -- a request of the first part is remembered, and then the second part makes none
  by_cases forgotten : remembered = none
  · cases demand <;> cases later <;> cases before.any Effect.leavesOutDomain <;>
      cases behind.any Effect.leavesOutDomain <;> simp [forgotten]
  · simp [forgotten]

theorem Effect.IsDeed.lookupFailure?_eq_none
    {effect : Effect} (deed : effect.IsDeed) :
    effect.lookupFailure? = none := by
  cases effect <;> first | rfl | exact deed.elim

theorem failedLookups_of_deeds
    {effects : List Effect} (deeds : ∀ effect ∈ effects, effect.IsDeed) :
    failedLookups effects = [] :=
  List.filterMap_eq_nil_iff.2 fun effect member => (deeds effect member).lookupFailure?_eq_none

theorem Effect.IsDeed.suppliedDomain?_eq_none
    {effect : Effect} (deed : effect.IsDeed) :
    effect.suppliedDomain? = none := by
  cases effect <;> first | rfl | exact deed.elim

theorem asksOnDemand_of_deeds
    {effects : List Effect}
    (remembered : Option Domain)
    (deeds : ∀ effect ∈ effects, effect.IsDeed) :
    AsksOnDemand false remembered effects := by
  have unasked : effects.countP Effect.asksDefaultDomain = 0 := by
    refine List.countP_eq_zero.2 ?_
    intro effect member
    have deed := deeds effect member
    cases effect <;> first | exact deed.elim | simp [Effect.asksDefaultDomain]
  have nothing : effects.any Effect.leavesOutDomain = false := by
    refine List.any_eq_false.2 ?_
    intro effect member
    have deed := deeds effect member
    cases effect <;> first | exact deed.elim | simp [Effect.leavesOutDomain, Effect.foundRules]
  simp [AsksOnDemand, unasked, nothing]

namespace Pass

variable {directoryWorld transportWorld alpha beta : Type}

/-! ## Contracts with memory -/

/-- Wherever the computation starts, it remembers behind its effects what these
say; `post` relates what it started with, its result and its effects. -/
def Recalls (computation : Pass directoryWorld transportWorld alpha)
    (post : Option Domain → Except ProcessingError alpha → List Effect → Prop) : Prop :=
  ∀ start : PassState directoryWorld transportWorld, ∃ added,
    (computation.run start).2.trace = start.trace ++ added ∧
      (computation.run start).2.defaultDomain = recallDomain start.defaultDomain added ∧
      post start.defaultDomain (computation.run start).1 added

variable {computation first : Pass directoryWorld transportWorld alpha}
  {next : alpha → Pass directoryWorld transportWorld beta}

theorem Recalls.mono
    {post weaker : Option Domain → Except ProcessingError alpha → List Effect → Prop}
    (recalls : computation.Recalls post)
    (implies : ∀ remembered result added,
      post remembered result added → weaker remembered result added) :
    computation.Recalls weaker := by
  intro start
  obtain ⟨added, trace, memory, holds⟩ := recalls start
  exact ⟨added, trace, memory, implies _ _ added holds⟩

/-- What a computation ensures besides, it ensures of the same effects. -/
theorem Recalls.and
    {post : Option Domain → Except ProcessingError alpha → List Effect → Prop}
    {also : Except ProcessingError alpha → List Effect → Prop}
    (recalls : computation.Recalls post)
    (ensures : computation.Ensures also) :
    computation.Recalls fun remembered result added =>
      post remembered result added ∧ also result added := by
  intro start
  obtain ⟨added, trace, memory, holds⟩ := recalls start
  obtain ⟨others, otherTrace, alsoHolds⟩ := ensures start
  obtain rfl : added = others := List.append_cancel_left (trace.symm.trans otherTrace)
  exact ⟨added, trace, memory, holds, alsoHolds⟩

theorem recalls_pure
    {post : Option Domain → Except ProcessingError alpha → List Effect → Prop} {value : alpha}
    (holds : ∀ remembered, post remembered (.ok value) []) :
    (pure value : Pass directoryWorld transportWorld alpha).Recalls post := by
  intro start
  exact ⟨[], by simp [run_pure], by simp [run_pure], holds start.defaultDomain⟩

theorem recalls_bind
    {middle : Option Domain → Except ProcessingError alpha → List Effect → Prop}
    {post : Option Domain → Except ProcessingError beta → List Effect → Prop}
    (firstRecalls : first.Recalls middle)
    (fails : ∀ remembered failure added,
      middle remembered (.error failure) added → post remembered (.error failure) added)
    (nextRecalls : ∀ remembered value before, middle remembered (.ok value) before →
      (next value).Recalls fun reached result added =>
        reached = recallDomain remembered before → post remembered result (before ++ added)) :
    (first >>= next).Recalls post := by
  intro start
  obtain ⟨before, firstTrace, firstMemory, holds⟩ := firstRecalls start
  rw [run_bind]
  cases outcome : first.run start with
  | mk result reached =>
      rw [outcome] at firstTrace firstMemory holds
      cases result with
      | error failure => exact ⟨before, firstTrace, firstMemory, fails _ failure before holds⟩
      | ok value =>
          obtain ⟨added, nextTrace, nextMemory, holdsNext⟩ :=
            nextRecalls _ value before holds reached
          refine ⟨before ++ added, ?_, ?_, holdsNext firstMemory⟩
          · rw [nextTrace, firstTrace, List.append_assoc]
          · rw [nextMemory, firstMemory, recallDomain_append]

def Remembers (computation : Pass directoryWorld transportWorld alpha) : Prop :=
  ∀ start, (computation.run start).2.defaultDomain = start.defaultDomain

theorem remembers_pure (value : alpha) :
    (pure value : Pass directoryWorld transportWorld alpha).Remembers := fun _ =>
  rfl

theorem remembers_bind
    (firstRemembers : first.Remembers)
    (nextRemembers : ∀ value, (next value).Remembers) :
    (first >>= next).Remembers := by
  intro start
  have reached := firstRemembers start
  rw [run_bind]
  cases outcome : first.run start with
  | mk result middle =>
      rw [outcome] at reached
      cases result with
      | error failure => exact reached
      | ok value => exact (nextRemembers value middle).trans reached

theorem audit_remembers (events : List AuditEvent) :
    (audit events : Pass directoryWorld transportWorld Unit).Remembers := by
  induction events with
  | nil => exact remembers_pure ()
  | cons event rest inductionHypothesis =>
      exact remembers_bind (fun _ => rfl) fun _ => inductionHypothesis

/-- Most steps have nothing to do with the default domain. -/
theorem Ensures.recalls
    {post : Except ProcessingError alpha → List Effect → Prop}
    (ensures : computation.Ensures post)
    (remembers : computation.Remembers)
    (unsupplied : ∀ result added, post result added →
      ∀ effect ∈ added, effect.suppliedDomain? = none) :
    computation.Recalls fun _ result added => post result added := by
  intro start
  obtain ⟨added, trace, holds⟩ := ensures start
  refine ⟨added, trace, ?_, holds⟩
  rw [remembers, recallDomain_of_unsupplied _ (unsupplied _ added holds)]

/-! ## Computations that ask on demand -/

/-- The computation only asks, and for the default domain on demand.  It ends early
with the first failure of a lookup.  Otherwise its value is as `post` says, by the
domain remembered at the end and by what has been answered. -/
def Inquires (demand : Bool) (computation : Pass directoryWorld transportWorld alpha)
    (post : Option Domain → List Effect → alpha → Prop) : Prop :=
  computation.Recalls fun remembered result added =>
    AsksOnDemand demand remembered added ∧
      match result with
      | .ok value => failedLookups added = [] ∧ post (recallDomain remembered added) added value
      | .error failure => ∃ cause, failure = .lookup cause ∧ failedLookups added = [cause]

variable {demand later : Bool}

theorem Inquires.mono
    {post weaker : Option Domain → List Effect → alpha → Prop}
    (inquires : computation.Inquires demand post)
    (implies : ∀ supplied added value, post supplied added value → weaker supplied added value) :
    computation.Inquires demand weaker := by
  refine Recalls.mono inquires ?_
  intro remembered result added asked
  cases result with
  | ok value => exact ⟨asked.1, asked.2.1, implies _ _ value asked.2.2⟩
  | error failure => exact asked

theorem inquires_pure
    {post : Option Domain → List Effect → alpha → Prop} {value : alpha}
    (holds : ∀ supplied, post supplied [] value) :
    (pure value : Pass directoryWorld transportWorld alpha).Inquires false post := by
  refine recalls_pure ?_
  intro remembered
  exact ⟨by simp [AsksOnDemand], rfl, holds _⟩

/-- What the first computation has completed, the second one leaves completed: it
may only come to remember a domain where none was remembered.  A demand of the
second one has to be one of the first, which may end early. -/
theorem inquires_bind
    {middle : Option Domain → List Effect → alpha → Prop}
    {post : Option Domain → List Effect → beta → Prop}
    (demands : (demand || later) = demand)
    (firstInquires : first.Inquires demand middle)
    (nextInquires : ∀ earlier before value, middle earlier before value →
      (next value).Inquires later fun supplied added result =>
        (∀ domain, earlier = some domain → supplied = some domain) →
          post supplied (before ++ added) result) :
    (first >>= next).Inquires demand post := by
  refine recalls_bind firstInquires ?_ ?_
  · intro remembered failure added failed
    exact failed
  · intro remembered value before asked
    obtain ⟨onDemand, complete, holds⟩ := asked
    refine Recalls.mono (nextInquires _ before value holds) ?_
    intro reached result added askedLater same
    subst same
    obtain ⟨onDemandLater, outcome⟩ := askedLater
    have both := onDemand.append complete onDemandLater
    rw [demands] at both
    refine ⟨both, ?_⟩
    cases result with
    | error failure =>
        obtain ⟨cause, sameCause, failed⟩ := outcome
        exact ⟨cause, sameCause, by simp [complete, failed]⟩
    | ok found =>
        obtain ⟨completeLater, holdsLater⟩ := outcome
        have kept : ∀ domain, recallDomain remembered before = some domain →
            recallDomain (recallDomain remembered before) added = some domain := by
          intro domain recalled
          rw [recalled, recallDomain_some]
        refine ⟨by simp [complete, completeLater], ?_⟩
        rw [recallDomain_append]
        exact holdsLater kept

/-- Behind a lookup, what it has found may demand the default domain. -/
theorem inquires_lookup
    {written : Except LookupError alpha → Effect}
    {post : Option Domain → List Effect → beta → Prop}
    (recalls : first.Recalls fun _ result added =>
      ∃ reply : Except LookupError alpha, result = reply.mapError .lookup ∧
        added = [written reply])
    (unasked : ∀ reply, (written reply).asksDefaultDomain = false)
    (failure : ∀ reply, (written reply).lookupFailure? = LookupError.ofReply? reply)
    (nothing : ∀ cause, (written (.error cause)).leavesOutDomain = false)
    (nextInquires : ∀ value,
      (next value).Inquires (written (.ok value)).leavesOutDomain fun supplied added result =>
        post supplied (written (.ok value) :: added) result) :
    (first >>= next).Inquires false post := by
  have unsupplied (reply : Except LookupError alpha) :
      (written reply).suppliedDomain? = none := by
    have other := unasked reply
    cases effect : written reply <;> simp_all [Effect.asksDefaultDomain, Effect.suppliedDomain?]
  refine recalls_bind recalls ?_ ?_
  · rintro remembered cause added ⟨reply, same, rfl⟩
    cases reply with
    | ok value => simp [Except.mapError] at same
    | error found =>
        obtain rfl : cause = .lookup found := by simpa [Except.mapError] using same
        refine ⟨?_, found, rfl, ?_⟩
        · simp [AsksOnDemand, unasked, nothing]
        · simp [failedLookups, failure, LookupError.ofReply?]
  · rintro remembered value before ⟨reply, same, rfl⟩
    cases reply with
    | error found => simp [Except.mapError] at same
    | ok found =>
        obtain rfl : value = found := by simpa [Except.mapError] using same
        refine Recalls.mono (nextInquires value) ?_
        intro reached result added asked start
        have silent : recallDomain remembered [written (.ok value)] = remembered :=
          recallDomain_of_unsupplied _ (by simp [unsupplied])
        rw [silent] at start
        subst start
        obtain ⟨onDemand, outcome⟩ := asked
        have answered : failedLookups [written (.ok value)] = [] := by
          simp [failedLookups, failure, LookupError.ofReply?]
        constructor
        · unfold AsksOnDemand at onDemand ⊢
          simpa [unasked] using onDemand
        · cases result with
          | error failed =>
              obtain ⟨cause, sameCause, failures⟩ := outcome
              refine ⟨cause, sameCause, ?_⟩
              rw [failedLookups_append, answered, failures]
              rfl
          | ok result =>
              obtain ⟨complete, holds⟩ := outcome
              refine ⟨?_, ?_⟩
              · rw [failedLookups_append, answered, complete]
                rfl
              · rw [recallDomain_append, silent]
                exact holds

end Pass

end RecipientRewriting
