import RecipientRewriting.Proofs.Forwarding.Removal
import RecipientRewriting.Proofs.Processing.Completion

/-!
# Transports that take everything

A transport may depend on what it has been given before.  It accepts from some time
on if it takes the next copy whatever it has been given since then.  Handing over
copies keeps this, so every copy of a pass that starts at such a time is taken.
-/

namespace RecipientRewriting

namespace Transport

variable {world : Type} (transport : Transport world)

/-- What a transport is in once it has been given some copies. -/
def after (now : world) (given : List Injection) : world :=
  given.foldl (fun now injection => (transport.inject injection now).2) now

/-- Whatever it is given from now on, the transport takes the next copy. -/
def AcceptsFrom (now : world) : Prop :=
  ∀ given injection, (transport.inject injection (transport.after now given)).1 = .ok ()

theorem AcceptsFrom.inject
    {transport : Transport world} {now : world}
    (accepts : transport.AcceptsFrom now) (injection : Injection) :
    (transport.inject injection now).1 = .ok () ∧
      transport.AcceptsFrom (transport.inject injection now).2 :=
  ⟨accepts [] injection, fun given other => accepts (injection :: given) other⟩

end Transport

/-- An open recorder takes everything. -/
theorem Recorder.IsOpen.acceptsFrom
    {recorder : Recorder} (isOpen : recorder.IsOpen) :
    Recorder.transport.AcceptsFrom recorder := by
  intro given injection
  induction given generalizing recorder with
  | nil =>
      obtain ⟨later, taken, _⟩ := exists_inject_of_isOpen isOpen injection
      change (inject injection recorder).1 = .ok ()
      rw [taken]
  | cons first rest inductionHypothesis =>
      obtain ⟨later, taken, laterOpen⟩ := exists_inject_of_isOpen isOpen first
      have afterFirst : Recorder.transport.after recorder (first :: rest) =
          Recorder.transport.after later rest := by
        change rest.foldl _ (inject first recorder).2 = rest.foldl _ later
        rw [taken]
      rw [afterFirst]
      exact inductionHypothesis laterOpen

theorem allTaken_append
    {before behind : List Effect} (first : AllTaken before) (second : AllTaken behind) :
    AllTaken (before ++ behind) := by
  intro reason injection failure member
  rcases List.mem_append.1 member with earlier | later
  · exact first reason injection failure earlier
  · exact second reason injection failure later

theorem allTaken_of_questions
    {effects : List Effect} (questions : ∀ effect ∈ effects, effect.IsQuestion) :
    AllTaken effects := fun _ _ _ member =>
  questions _ member

namespace Pass

variable {directoryWorld transportWorld alpha beta : Type} {transport : Transport transportWorld}

/-- From a state with a transport that accepts, every copy is taken, and the
transport goes on accepting. -/
def Delivers (transport : Transport transportWorld)
    (computation : Pass directoryWorld transportWorld alpha) : Prop :=
  ∀ start : PassState directoryWorld transportWorld, transport.AcceptsFrom start.transport →
    transport.AcceptsFrom (computation.run start).2.transport ∧ ∃ added,
      (computation.run start).2.trace = start.trace ++ added ∧ AllTaken added

variable {computation first : Pass directoryWorld transportWorld alpha}
  {next : alpha → Pass directoryWorld transportWorld beta}

theorem delivers_pure (value : alpha) :
    (pure value : Pass directoryWorld transportWorld alpha).Delivers transport := fun _ accepts =>
  ⟨accepts, [], (List.append_nil _).symm, by simp [AllTaken]⟩

theorem Delivers.bind
    (firstDelivers : first.Delivers transport)
    (nextDelivers : ∀ value, (next value).Delivers transport) :
    (first >>= next).Delivers transport := by
  intro start accepts
  obtain ⟨acceptsLater, before, trace, taken⟩ := firstDelivers start accepts
  rw [run_bind]
  cases outcome : first.run start with
  | mk result reached =>
      rw [outcome] at acceptsLater trace
      cases result with
      | error failure => exact ⟨acceptsLater, before, trace, taken⟩
      | ok value =>
          obtain ⟨acceptsLast, added, laterTrace, takenLater⟩ :=
            nextDelivers value reached acceptsLater
          refine ⟨acceptsLast, before ++ added, ?_, allTaken_append taken takenLater⟩
          rw [laterTrace, trace, List.append_assoc]

theorem duplicate_delivers (mail : Mail) :
    (duplicate mail : Pass directoryWorld transportWorld Mail).Delivers transport :=
  fun _ accepts => ⟨accepts, [], (List.append_nil _).symm, by simp [AllTaken]⟩

theorem audit_delivers (events : List AuditEvent) :
    (audit events : Pass directoryWorld transportWorld Unit).Delivers transport := by
  induction events with
  | nil => exact delivers_pure ()
  | cons event rest inductionHypothesis =>
      have noted : (note (.audited event) : Pass directoryWorld transportWorld Unit).Delivers
          transport := fun _ accepts =>
        ⟨accepts, [.audited event], rfl, by simp [AllTaken]⟩
      exact noted.bind fun _ => inductionHypothesis

end Pass

namespace Processor

variable {directoryWorld transportWorld : Type}
  (processor : Processor directoryWorld transportWorld)

theorem inject_delivers (reason : CopyReason) (injection : Injection) :
    (processor.inject reason injection).Delivers processor.transport := by
  intro start accepts
  obtain ⟨taken, acceptsLater⟩ := accepts.inject injection
  refine ⟨acceptsLater, [.injected reason injection
    (processor.transport.inject injection start.transport).1], rfl, ?_⟩
  rw [taken]
  simp [AllTaken]

theorem injectOrFail_delivers (reason : CopyReason) (injection : Injection) :
    (processor.injectOrFail reason injection).Delivers processor.transport := by
  refine (processor.inject_delivers reason injection).bind fun answer => ?_
  cases answer with
  | ok taken => exact Pass.delivers_pure ()
  | error failure =>
      exact fun _ accepts => ⟨accepts, [], (List.append_nil _).symm, by simp [AllTaken]⟩

theorem redirect_delivers (mail : Mail) (decisions : List Decision) :
    (processor.redirect mail decisions).Delivers processor.transport := by
  induction decisions with
  | nil => exact Pass.delivers_pure ()
  | cons decision rest inductionHypothesis =>
      rw [redirect]
      split
      · refine (Pass.duplicate_delivers mail).bind fun copy => ?_
        exact (processor.injectOrFail_delivers _ _).bind fun _ => inductionHypothesis
      · exact inductionHypothesis

theorem bounce_delivers (mail : Mail) (rejected : List Address) :
    (processor.bounce mail rejected).Delivers processor.transport := by
  unfold bounce
  split
  · exact (Pass.duplicate_delivers mail).bind fun copy => processor.injectOrFail_delivers _ _
  · exact Pass.delivers_pure ()

theorem rewriteBy_delivers (mail : Mail) (decisions : List Decision) :
    (processor.rewriteBy mail decisions).Delivers processor.transport := by
  refine (processor.redirect_delivers mail decisions).bind fun _ => ?_
  refine (processor.bounce_delivers mail _).bind fun _ => ?_
  exact (Pass.audit_delivers _).bind fun _ => Pass.delivers_pure _

theorem carryOut_delivers (mail : Mail) (ledger : Ledger) (action : ForwardAction) :
    (processor.carryOut mail ledger action).Delivers processor.transport := by
  cases action with
  | remove recipient => exact Pass.delivers_pure ()
  | sendCopy sender targets =>
      refine (Pass.duplicate_delivers mail).bind fun copy => ?_
      refine (processor.inject_delivers _ _).bind fun answer => ?_
      cases answer with
      | ok taken => exact Pass.audit_delivers _
      | error failure => exact Pass.delivers_pure ()
  | recordLoop recipient =>
      refine (Pass.duplicate_delivers mail).bind fun copy => ?_
      exact (processor.inject_delivers _ _).bind fun answer => Pass.delivers_pure ()

theorem carryOutAll_delivers (mail : Mail) (ledger : Ledger) (actions : List ForwardAction) :
    (processor.carryOutAll mail ledger actions).Delivers processor.transport := by
  induction actions with
  | nil => exact Pass.delivers_pure ()
  | cons action rest inductionHypothesis =>
      exact (processor.carryOut_delivers mail ledger action).bind fun _ => inductionHypothesis

/-- A plan that a transport accepts is finished. -/
theorem run_rewriteBy_of_accepting
    (mail : Mail) (decisions : List Decision) {start : PassState directoryWorld transportWorld}
    (accepts : processor.transport.AcceptsFrom start.transport) :
    ∃ last added, (processor.rewriteBy mail decisions).run start =
        (.ok (rewrittenBy mail decisions), last) ∧
      processor.transport.AcceptsFrom last.transport ∧
      last.trace = start.trace ++ added ∧ AllTaken added := by
  obtain ⟨acceptsLater, added, trace, taken⟩ := processor.rewriteBy_delivers mail decisions start
    accepts
  obtain ⟨others, otherTrace, rewrote⟩ := rewriteBy_ensures processor mail decisions start
  obtain rfl : added = others := List.append_cancel_left (trace.symm.trans otherTrace)
  cases outcome : (processor.rewriteBy mail decisions).run start with
  | mk result last =>
      rw [outcome] at acceptsLater trace rewrote
      cases result with
      | ok rewritten =>
          obtain ⟨rfl, _⟩ := rewrote
          exact ⟨last, added, rfl, acceptsLater, trace, taken⟩
      | error failure =>
          obtain ⟨_, refused, _, cause, _, _, _, ⟨injection, handed⟩, _⟩ :=
            HandsOver.of_error rewrote
          exact absurd handed (taken refused.reason injection cause)

end Processor

end RecipientRewriting
