import RecipientRewriting.Audit
import RecipientRewriting.Processing.Basic
import RecipientRewriting.Transport

/-!
# Passes over a mail

A pass is a computation that consults a directory, hands copies to a transport,
draws names for them and records audit events.  It ends at the first failure.
Whatever it does with its surroundings is written to a trace, in order, so that
a pass can be judged by what it did and not only by its result.

The mail itself is changed in place.  Only a handling can change it, and what it has
changed when it fails stays changed; the steps of a pass just read the mail that they
are given.
-/

namespace RecipientRewriting

inductive ProcessingError
  /-- A lookup has failed. -/
  | lookup (failure : LookupError)
  /-- The transport has not taken a copy. -/
  | transport (failure : TransportError)
  deriving DecidableEq, Repr

namespace ProcessingError

def message : ProcessingError → String
  | lookup failure => "Recipient rewriting failed: " ++ failure.message
  | transport failure => "Injecting mail failed: " ++ failure.message

/-- Whether something that processing depends on is at fault, and not the mail
or its way on. -/
def isInfrastructure : ProcessingError → Bool
  | lookup _ => true
  | transport _ => false

end ProcessingError

inductive CopyReason
  /-- A recipient has targets in other domains. -/
  | redirect
  /-- Recipients have been rejected. -/
  | bounce
  /-- A recipient forwards the mail. -/
  | forward
  /-- A recipient would only forward the mail in a circle. -/
  | loop
  deriving DecidableEq, Repr

/-- Something that a pass has done with its surroundings. -/
inductive Effect
  /-- It has asked what the rules make of a source. -/
  | resolved (source : Source) (answer : Except LookupError Resolution)
  /-- It has asked for the forwarding rules of a source. -/
  | foundForwards (source : Source) (answer : Except LookupError RuleList)
  /-- It has asked for the default domain. -/
  | askedDefaultDomain (answer : Except LookupError Domain)
  /-- It has asked whether mail for a domain is delivered here. -/
  | askedLocality (domain : Domain) (answer : Bool)
  /-- It has handed a copy to the transport. -/
  | injected (reason : CopyReason) (injection : Injection) (answer : Except TransportError Unit)
  /-- It has recorded an event. -/
  | audited (event : AuditEvent)

/-- What a pass finds and leaves behind. -/
structure Surroundings (directoryWorld transportWorld : Type) where
  directory : directoryWorld
  transport : transportWorld
  names : NameSupply

structure PassState (directoryWorld transportWorld : Type) extends
    Surroundings directoryWorld transportWorld where
  /-- The default domain, once it has been asked for. -/
  defaultDomain : Option Domain
  /-- What has been done so far. -/
  trace : List Effect

def PassState.start {directoryWorld transportWorld : Type}
    (surroundings : Surroundings directoryWorld transportWorld) :
    PassState directoryWorld transportWorld :=
  { surroundings with defaultDomain := none, trace := [] }

abbrev Pass (directoryWorld transportWorld : Type) :=
  ExceptT ProcessingError (StateM (PassState directoryWorld transportWorld))

/-- A mail in the middle of a pass. -/
structure InHand (directoryWorld transportWorld : Type) where
  mail : Mail
  pass : PassState directoryWorld transportWorld

/-- A computation that changes the mail in hand. -/
abbrev Handling (directoryWorld transportWorld : Type) :=
  ExceptT ProcessingError (StateM (InHand directoryWorld transportWorld))

/-- A directory, a transport and the settings to process mails with. -/
structure Processor (directoryWorld transportWorld : Type) where
  settings : ProcessorSettings
  audit : AuditSettings
  directory : Directory directoryWorld
  transport : Transport transportWorld

namespace Pass

variable {directoryWorld transportWorld answer : Type}

def note (effect : Effect) : Pass directoryWorld transportWorld Unit :=
  modify fun state => { state with trace := state.trace ++ [effect] }

def consult (question : directoryWorld → answer × directoryWorld) :
    Pass directoryWorld transportWorld answer := do
  let state ← get
  let (reply, directory) := question state.directory
  set { state with directory }
  pure reply

/-- Goes on with the answer of a lookup, or ends the pass. -/
def require (reply : Except LookupError answer) : Pass directoryWorld transportWorld answer :=
  match reply with
  | .ok value => pure value
  | .error failure => throw (.lookup failure)

def duplicate (mail : Mail) : Pass directoryWorld transportWorld Mail := do
  let state ← get
  let (name, names) := state.names.draw
  set { state with names }
  pure (mail.duplicate name)

def audit : List AuditEvent → Pass directoryWorld transportWorld Unit
  | [] => pure ()
  | event :: rest => do
      note (.audited event)
      audit rest

end Pass

namespace Handling

variable {directoryWorld transportWorld answer : Type}

/-- The mail as it is by now. -/
def mail : Handling directoryWorld transportWorld Mail := do
  pure (← get).mail

def setState (state : ProcessingState) : Handling directoryWorld transportWorld Unit :=
  modify fun inHand => { inHand with mail := inHand.mail.withState state }

def setRecipients (recipients : List Address) : Handling directoryWorld transportWorld Unit :=
  modify fun inHand => { inHand with mail := inHand.mail.withRecipients recipients }

def setDsn (dsn : Option DsnParameters) : Handling directoryWorld transportWorld Unit :=
  modify fun inHand => { inHand with mail := inHand.mail.withDsn dsn }

/-- Takes a step of the pass. -/
def ofPass (step : Pass directoryWorld transportWorld answer) :
    Handling directoryWorld transportWorld answer :=
  ExceptT.mk fun inHand =>
    match step.run inHand.pass with
    | (result, pass) => (result, { inHand with pass })

instance : MonadLift (Pass directoryWorld transportWorld)
    (Handling directoryWorld transportWorld) :=
  ⟨ofPass⟩

end Handling

namespace Processor

variable {directoryWorld transportWorld answer : Type}

/-- The answer of a lookup, unless it has taken longer than it may. -/
def withinLimit (settings : ProcessorSettings) (timed : Timed answer) :
    Except LookupError answer :=
  match settings.lookupTimeout with
  | some seconds =>
      if timed.milliseconds > 1000 * seconds then .error (.timeout seconds) else timed.answer
  | none => timed.answer

def resolve (processor : Processor directoryWorld transportWorld) (source : Source) :
    Pass directoryWorld transportWorld Resolution := do
  let timed ← Pass.consult (processor.directory.resolve source processor.settings.kinds)
  let reply := withinLimit processor.settings timed
  Pass.note (.resolved source reply)
  Pass.require reply

def findForwards (processor : Processor directoryWorld transportWorld) (source : Source) :
    Pass directoryWorld transportWorld RuleList := do
  let timed ← Pass.consult (processor.directory.forwardRules source)
  let reply := withinLimit processor.settings timed
  Pass.note (.foundForwards source reply)
  Pass.require reply

/-- The default domain, which is asked for at most once in a pass. -/
def defaultDomain (processor : Processor directoryWorld transportWorld) :
    Pass directoryWorld transportWorld Domain := do
  match (← get).defaultDomain with
  | some domain => pure domain
  | none =>
      let reply ← Pass.consult processor.directory.defaultDomain
      Pass.note (.askedDefaultDomain reply)
      let domain ← Pass.require reply
      modify fun state => { state with defaultDomain := some domain }
      pure domain

def isLocal (processor : Processor directoryWorld transportWorld) (domain : Domain) :
    Pass directoryWorld transportWorld Bool := do
  let reply ← Pass.consult (processor.directory.isLocal domain)
  Pass.note (.askedLocality domain reply)
  pure reply

/-- Hands a copy to the transport and returns what it says. -/
def inject (processor : Processor directoryWorld transportWorld) (reason : CopyReason)
    (injection : Injection) :
    Pass directoryWorld transportWorld (Except TransportError Unit) := do
  let state ← get
  let (reply, transport) := processor.transport.inject injection state.transport
  set { state with transport }
  Pass.note (.injected reason injection reply)
  pure reply

/-- Hands a copy to the transport, and ends the pass if that refuses it. -/
def injectOrFail (processor : Processor directoryWorld transportWorld) (reason : CopyReason)
    (injection : Injection) : Pass directoryWorld transportWorld Unit := do
  match ← processor.inject reason injection with
  | .ok () => pure ()
  | .error failure => throw (.transport failure)

end Processor

end RecipientRewriting
