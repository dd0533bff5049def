import Mathlib.Data.List.Forall2
import RecipientRewriting.Proofs.Processing.Asking
import RecipientRewriting.Proofs.Processing.Findings

/-!
# Directories without a state

A directory that keeps no state answers the same question in the same way, as that
of a table and a list of domains does.  Then what a pass asks determines its reply,
wherever it asks it: the default domain is the same whether it is remembered or
asked for anew.  So several recipients are decided on one by one, and each apart
from the others.
-/

namespace RecipientRewriting

namespace Pass

variable {transportWorld alpha beta : Type} {directory : Directory Unit}

/-- From every state that remembers no other default domain than the directory's,
the computation returns the reply, leads to such a state, and leaves the transport
alone. -/
def Gives (directory : Directory Unit) (computation : Pass Unit transportWorld alpha)
    (reply : Except ProcessingError alpha) : Prop :=
  ∀ start : PassState Unit transportWorld, start.Supplied directory →
    (computation.run start).1 = reply ∧ (computation.run start).2.Supplied directory ∧
      (computation.run start).2.transport = start.transport

def IsDetermined (directory : Directory Unit) (computation : Pass Unit transportWorld alpha) :
    Prop :=
  ∃ reply, computation.Gives directory reply

variable {computation first : Pass Unit transportWorld alpha}
  {next : alpha → Pass Unit transportWorld beta}

theorem gives_pure (value : alpha) :
    (pure value : Pass Unit transportWorld alpha).Gives directory (.ok value) := fun _ supplied =>
  ⟨rfl, supplied, rfl⟩

theorem Gives.bind_ok
    {value : alpha} {reply : Except ProcessingError beta}
    (firstGives : first.Gives directory (.ok value))
    (nextGives : (next value).Gives directory reply) :
    (first >>= next).Gives directory reply := by
  intro start supplied
  obtain ⟨same, reachedSupplied, untouched⟩ := firstGives start supplied
  cases outcome : first.run start with
  | mk result reached =>
      rw [outcome] at same reachedSupplied untouched
      obtain rfl : result = .ok value := same
      obtain ⟨sameReply, lastSupplied, untouchedLater⟩ := nextGives reached reachedSupplied
      rw [run_bind_of_ok outcome]
      exact ⟨sameReply, lastSupplied, untouchedLater.trans untouched⟩

theorem Gives.bind_error
    {failure : ProcessingError}
    (firstGives : first.Gives directory (.error failure)) :
    (first >>= next).Gives directory (.error failure) := by
  intro start supplied
  obtain ⟨same, reachedSupplied, untouched⟩ := firstGives start supplied
  cases outcome : first.run start with
  | mk result reached =>
      rw [outcome] at same reachedSupplied untouched
      obtain rfl : result = .error failure := same
      rw [run_bind_of_error outcome]
      exact ⟨rfl, reachedSupplied, untouched⟩

theorem IsDetermined.bind
    (firstDetermined : first.IsDetermined directory)
    (nextDetermined : ∀ value, (next value).IsDetermined directory) :
    (first >>= next).IsDetermined directory := by
  obtain ⟨reply, firstGives⟩ := firstDetermined
  cases reply with
  | error failure => exact ⟨_, firstGives.bind_error⟩
  | ok value =>
      obtain ⟨nextReply, nextGives⟩ := nextDetermined value
      exact ⟨nextReply, firstGives.bind_ok nextGives⟩

theorem isDetermined_pure (value : alpha) :
    (pure value : Pass Unit transportWorld alpha).IsDetermined directory :=
  ⟨_, gives_pure value⟩

/-- What a computation gives is what it returns. -/
theorem IsDetermined.gives_run
    {start : PassState Unit transportWorld}
    (determined : computation.IsDetermined directory)
    (supplied : start.Supplied directory) :
    computation.Gives directory (computation.run start).1 := by
  obtain ⟨reply, gives⟩ := determined
  rw [(gives start supplied).1]
  exact gives

theorem Gives.unique
    {reply other : Except ProcessingError alpha} {start : PassState Unit transportWorld}
    (gives : computation.Gives directory reply)
    (givesOther : computation.Gives directory other)
    (supplied : start.Supplied directory) :
    reply = other := by
  rw [← (gives start supplied).1, (givesOther start supplied).1]

/-! ## Single steps -/

theorem consult_isDetermined (question : Unit → alpha × Unit) :
    (consult question : Pass Unit transportWorld alpha).IsDetermined directory :=
  ⟨.ok (question ()).1, fun _ supplied => ⟨rfl, supplied, rfl⟩⟩

theorem note_isDetermined (effect : Effect) :
    (note effect : Pass Unit transportWorld Unit).IsDetermined directory :=
  ⟨.ok (), fun _ supplied => ⟨rfl, supplied, rfl⟩⟩

theorem require_isDetermined (reply : Except LookupError alpha) :
    (require reply : Pass Unit transportWorld alpha).IsDetermined directory := by
  cases reply with
  | ok value => exact isDetermined_pure value
  | error failure => exact ⟨.error (.lookup failure), fun _ supplied => ⟨rfl, supplied, rfl⟩⟩

/-! ## One after the other -/

section Several

variable {each : alpha → Pass Unit transportWorld beta} {items : List alpha}
  {replies : List beta}

theorem mapM_gives
    (gives : List.Forall₂ (fun item reply => (each item).Gives directory (.ok reply))
      items replies) :
    (items.mapM each).Gives directory (.ok replies) := by
  induction gives with
  | nil => exact gives_pure []
  | cons first _ inductionHypothesis =>
      rw [List.mapM_cons]
      exact first.bind_ok (inductionHypothesis.bind_ok (gives_pure _))

/-- Where each reply is determined, none of them depends on those before it. -/
theorem forall₂_of_mapM
    {start : PassState Unit transportWorld}
    (determined : ∀ item, (each item).IsDetermined directory)
    (supplied : start.Supplied directory)
    (returns : ((items.mapM each).run start).1 = .ok replies) :
    List.Forall₂ (fun item reply => (each item).Gives directory (.ok reply)) items replies := by
  induction items generalizing start replies with
  | nil =>
      obtain rfl : [] = replies := Except.ok.inj returns
      exact .nil
  | cons item rest inductionHypothesis =>
      have first := (determined item).gives_run supplied
      rw [List.mapM_cons, run_bind] at returns
      cases outcome : (each item).run start with
      | mk result reached =>
          obtain ⟨_, reachedSupplied, _⟩ := first start supplied
          rw [outcome] at returns first reachedSupplied
          cases result with
          | error failure => simp at returns
          | ok reply =>
              dsimp only at returns
              rw [run_bind] at returns
              cases later : (rest.mapM each).run reached with
              | mk others last =>
                  rw [later] at returns
                  cases others with
                  | error failure => simp at returns
                  | ok found =>
                      obtain rfl : reply :: found = replies := Except.ok.inj returns
                      have restReturns : ((rest.mapM each).run reached).1 = .ok found := by
                        rw [later]
                      exact .cons first (inductionHypothesis reachedSupplied restReturns)

end Several

end Pass

namespace Processor

variable {transportWorld : Type} (processor : Processor Unit transportWorld)

/-! ## Recipients -/

theorem resolve_isDetermined (source : Source) :
    (processor.resolve source).IsDetermined processor.directory := by
  refine (Pass.consult_isDetermined _).bind fun timed => ?_
  exact (Pass.note_isDetermined _).bind fun _ => Pass.require_isDetermined _

theorem findForwards_isDetermined (source : Source) :
    (processor.findForwards source).IsDetermined processor.directory := by
  refine (Pass.consult_isDetermined _).bind fun timed => ?_
  exact (Pass.note_isDetermined _).bind fun _ => Pass.require_isDetermined _

theorem isLocal_isDetermined (domain : Domain) :
    (processor.isLocal domain).IsDetermined processor.directory := by
  refine (Pass.consult_isDetermined _).bind fun reply => ?_
  exact (Pass.note_isDetermined _).bind fun _ => Pass.isDetermined_pure reply

/-- What is remembered is what would be answered. -/
theorem defaultDomain_isDetermined :
    processor.defaultDomain.IsDetermined processor.directory := by
  refine ⟨(processor.directory.defaultDomain ()).1.mapError .lookup, ?_⟩
  intro start supplied
  cases remembered : start.defaultDomain with
  | some domain =>
      obtain ⟨now, answered⟩ := supplied domain remembered
      rw [processor.run_defaultDomain_of_some remembered]
      refine ⟨?_, supplied, rfl⟩
      rw [show (processor.directory.defaultDomain ()).1 = .ok domain from answered]
      rfl
  | none =>
      rw [processor.run_defaultDomain_of_none remembered]
      cases answered : processor.directory.defaultDomain start.directory with
      | mk reply world =>
          refine ⟨rfl, ?_, rfl⟩
          intro domain stored
          refine ⟨start.directory, ?_⟩
          rw [answered]
          cases reply with
          | error failure => cases stored
          | ok other =>
              cases stored
              rfl

variable {processor} in
/-- So is the reply of whatever is put together from questions. -/
theorem OnlyAsks.isDetermined
    {alpha : Type} {computation : Pass Unit transportWorld alpha}
    (asks : processor.OnlyAsks computation) :
    computation.IsDetermined processor.directory := by
  induction asks with
  | done value => exact Pass.isDetermined_pure value
  | next _ _ firstDetermined laterDetermined => exact firstDetermined.bind laterDetermined
  | resolve source => exact processor.resolve_isDetermined source
  | findForwards source => exact processor.findForwards_isDetermined source
  | defaultDomain => exact processor.defaultDomain_isDetermined
  | isLocal domain => exact processor.isLocal_isDetermined domain

theorem decideAll_eq_mapM (recipients : List Address) :
    processor.decideAll recipients = recipients.mapM processor.decide := by
  induction recipients with
  | nil => rfl
  | cons recipient rest inductionHypothesis =>
      rw [decideAll, inductionHypothesis, List.mapM_cons]

theorem allForwardActions_eq_mapM (ledger : Ledger) (recipients : List Address) :
    processor.allForwardActions ledger recipients =
      recipients.mapM (processor.forwardActions ledger) >>= fun parts => pure parts.flatten := by
  induction recipients with
  | nil => rfl
  | cons recipient rest inductionHypothesis =>
      rw [allForwardActions, inductionHypothesis, List.mapM_cons]
      simp

end Processor

end RecipientRewriting
