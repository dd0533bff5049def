import RecipientRewriting.Processing.Forwards

/-!
# Processing a mail

The two phases one after the other, each of which changes the mail in place, and
views of what a pass has done.
-/

namespace RecipientRewriting

/-- What became of a mail, and of everything around it. -/
structure Processed (directoryWorld transportWorld : Type) where
  /-- Whether the pass has come to its end. -/
  result : Except ProcessingError Unit
  /-- The mail as the pass leaves it. -/
  mail : Mail
  /-- The surroundings, and what has been done with them. -/
  state : PassState directoryWorld transportWorld

namespace Processor

variable {directoryWorld transportWorld : Type}

/-- Handles a mail, which is left as it is when the handling ends or fails. -/
def handle (handling : Handling directoryWorld transportWorld Unit) (mail : Mail)
    (state : PassState directoryWorld transportWorld) :
    Processed directoryWorld transportWorld :=
  match handling.run ⟨mail, state⟩ with
  | (result, inHand) => ⟨result, inHand.mail, inHand.pass⟩

def processForwards (processor : Processor directoryWorld transportWorld) (mail : Mail)
    (surroundings : Surroundings directoryWorld transportWorld) :
    Processed directoryWorld transportWorld :=
  handle processor.applyForwards mail (.start surroundings)

/-- Replaces the recipients of a mail, then applies forwarding rules to them. -/
def processMail (processor : Processor directoryWorld transportWorld) (mail : Mail)
    (surroundings : Surroundings directoryWorld transportWorld) :
    Processed directoryWorld transportWorld :=
  handle (do processor.replaceRecipients; processor.applyForwards) mail (.start surroundings)

end Processor

/-!
## What a pass has done

The copies that were taken, the events that were recorded, and the questions that
were asked.
-/

namespace Effect

def accepted? : Effect → Option Injection
  | injected _ injection (.ok ()) => some injection
  | _ => none

def event? : Effect → Option AuditEvent
  | audited event => some event
  | _ => none

def localityOf? : Effect → Option Domain
  | askedLocality domain _ => some domain
  | _ => none

def asksDefaultDomain : Effect → Bool
  | askedDefaultDomain _ => true
  | _ => false

end Effect

namespace PassState

variable {directoryWorld transportWorld : Type}

/-- The copies that the transport has taken, in order. -/
def acceptedInjections (state : PassState directoryWorld transportWorld) : List Injection :=
  state.trace.filterMap Effect.accepted?

def events (state : PassState directoryWorld transportWorld) : List AuditEvent :=
  state.trace.filterMap Effect.event?

def askedDomains (state : PassState directoryWorld transportWorld) : List Domain :=
  state.trace.filterMap Effect.localityOf?

def defaultDomainRequests (state : PassState directoryWorld transportWorld) : Nat :=
  state.trace.countP Effect.asksDefaultDomain

end PassState

end RecipientRewriting
