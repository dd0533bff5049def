import RecipientRewriting.Processing.Run
import RecipientRewriting.Proofs.Processing.Ensures

/-!
# Computations that only ask

Both phases of a pass first ask what they need to know.  A computation that only
asks comes to its end exactly if every lookup is answered; otherwise the first
failed lookup is the last thing it does, and what it ends with.
-/

namespace RecipientRewriting

def LookupError.ofReply? {answer : Type} : Except LookupError answer → Option LookupError
  | .ok _ => none
  | .error failure => some failure

namespace Effect

def lookupFailure? : Effect → Option LookupError
  | resolved _ reply => LookupError.ofReply? reply
  | foundForwards _ reply => LookupError.ofReply? reply
  | askedDefaultDomain reply => LookupError.ofReply? reply
  | askedLocality _ _ | injected _ _ _ | audited _ => none

def IsQuestion : Effect → Prop
  | resolved _ _ | foundForwards _ _ | askedDefaultDomain _ | askedLocality _ _ => True
  | injected _ _ _ | audited _ => False

/-- A question that is asked to decide what replaces a recipient. -/
def DecidesRecipients : Effect → Prop
  | resolved _ _ | askedDefaultDomain _ | askedLocality _ _ => True
  | foundForwards _ _ | injected _ _ _ | audited _ => False

/-- A question that is asked to decide what forwarding does. -/
def DecidesForwards : Effect → Prop
  | foundForwards _ _ | askedDefaultDomain _ => True
  | resolved _ _ | askedLocality _ _ | injected _ _ _ | audited _ => False

theorem DecidesRecipients.isQuestion
    {effect : Effect} (decides : effect.DecidesRecipients) :
    effect.IsQuestion := by
  cases effect <;> trivial

theorem DecidesForwards.isQuestion
    {effect : Effect} (decides : effect.DecidesForwards) :
    effect.IsQuestion := by
  cases effect <;> trivial

theorem decidesRecipients_of_asksDefaultDomain
    {effect : Effect} (asks : effect.asksDefaultDomain = true) :
    effect.DecidesRecipients := by
  cases effect <;> simp_all [asksDefaultDomain, DecidesRecipients]

theorem decidesForwards_of_asksDefaultDomain
    {effect : Effect} (asks : effect.asksDefaultDomain = true) :
    effect.DecidesForwards := by
  cases effect <;> simp_all [asksDefaultDomain, DecidesForwards]

end Effect

def failedLookups (effects : List Effect) : List LookupError :=
  effects.filterMap Effect.lookupFailure?

@[simp]
theorem failedLookups_append (before behind : List Effect) :
    failedLookups (before ++ behind) = failedLookups before ++ failedLookups behind :=
  List.filterMap_append

namespace Pass

variable {directoryWorld transportWorld alpha beta : Type}

/-- The computation only asks questions that are `allowed`.  It ends early with
the first failure of a lookup, and with a value as `post` says if there is
none. -/
def Asks (allowed : Effect → Prop) (computation : Pass directoryWorld transportWorld alpha)
    (post : alpha → Prop) : Prop :=
  computation.Ensures fun result added =>
    (∀ effect ∈ added, allowed effect) ∧
      match result with
      | .ok value => failedLookups added = [] ∧ post value
      | .error failure => ∃ cause, failure = .lookup cause ∧ failedLookups added = [cause]

variable {allowed : Effect → Prop}
  {computation first : Pass directoryWorld transportWorld alpha}
  {next : alpha → Pass directoryWorld transportWorld beta}

theorem Asks.mono
    {wider : Effect → Prop} {post weaker : alpha → Prop}
    (asks : computation.Asks allowed post)
    (widens : ∀ effect, allowed effect → wider effect)
    (implies : ∀ value, post value → weaker value) :
    computation.Asks wider weaker := by
  refine Ensures.mono asks ?_
  intro result added asked
  obtain ⟨questions, outcome⟩ := asked
  refine ⟨fun effect member => widens effect (questions effect member), ?_⟩
  cases result with
  | ok value => exact ⟨outcome.1, implies value outcome.2⟩
  | error failure => exact outcome

theorem asks_pure
    {post : alpha → Prop} {value : alpha} (holds : post value) :
    (pure value : Pass directoryWorld transportWorld alpha).Asks allowed post :=
  ensures_pure ⟨by simp, rfl, holds⟩

theorem asks_bind
    {middle : alpha → Prop} {post : beta → Prop}
    (firstAsks : first.Asks allowed middle)
    (nextAsks : ∀ value, middle value → (next value).Asks allowed post) :
    (first >>= next).Asks allowed post := by
  refine ensures_bind firstAsks ?_ ?_
  · intro failure added failed
    exact failed
  · intro value before asked
    obtain ⟨questions, complete, holds⟩ := asked
    refine Ensures.mono (nextAsks value holds) ?_
    intro result added askedLater
    obtain ⟨moreQuestions, outcome⟩ := askedLater
    refine ⟨?_, ?_⟩
    · intro effect member
      rcases List.mem_append.1 member with earlier | later
      · exact questions effect earlier
      · exact moreQuestions effect later
    · cases result with
      | ok found => exact ⟨by simp [complete, outcome.1], outcome.2⟩
      | error failure =>
          obtain ⟨cause, same, failed⟩ := outcome
          exact ⟨cause, same, by simp [complete, failed]⟩

/-- A step that adds nothing and cannot fail asks nothing. -/
theorem Succeeds.asks
    {post : alpha → Prop}
    (silent : computation.Succeeds fun value added => added = [] ∧ post value) :
    computation.Asks allowed post := by
  refine Ensures.mono silent ?_
  intro result added outcome
  obtain ⟨value, rfl, rfl, holds⟩ := outcome
  exact ⟨by simp, rfl, holds⟩

/-- A lookup is written down with its reply and goes on with the answer. -/
theorem asks_lookup
    {post : alpha → Prop} {effect : Effect} {reply : Except LookupError alpha}
    (question : allowed effect)
    (failure : effect.lookupFailure? = LookupError.ofReply? reply)
    (holds : ∀ value, reply = .ok value → post value) :
    (do note effect
        require reply : Pass directoryWorld transportWorld alpha).Asks allowed post := by
  refine (note_succeeds effect).bind ?_
  intro value before noted
  obtain rfl := noted
  refine (require_ensures reply).mono ?_
  intro result added outcome
  obtain ⟨rfl, rfl⟩ := outcome
  refine ⟨by simpa using question, ?_⟩
  cases reply with
  | ok value => exact ⟨by simp [failedLookups, failure, LookupError.ofReply?], holds value rfl⟩
  | error cause => exact ⟨cause, rfl, by simp [failedLookups, failure, LookupError.ofReply?]⟩

end Pass

end RecipientRewriting
