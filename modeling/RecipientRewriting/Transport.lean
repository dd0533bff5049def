import RecipientRewriting.Mail.Basic

/-!
# Handing mails on

A copy that processing makes is handed to a transport, which takes it or
refuses it.  Nothing else is known of a transport: what it does may depend on
everything it has been given before, which is what its `world` stands for.
-/

namespace RecipientRewriting

/-- A mail handed to a transport, and the state it is sent to if not its own. -/
structure Injection where
  mail : Mail
  state : Option ProcessingState
  deriving DecidableEq, Repr

/-- The state that the mail is handled in next. -/
def Injection.effectiveState (injection : Injection) : ProcessingState :=
  injection.state.getD injection.mail.state

inductive TransportError
  /-- It refuses this mail. -/
  | rejected (mail : MailName) (reason : String)
  /-- It takes no mails any more. -/
  | closed
  deriving DecidableEq, Repr

def TransportError.message : TransportError → String
  | rejected mail reason => "Transport rejected mail " ++ mail.text ++ ": " ++ reason
  | closed => "Transport is closed"

structure Transport (world : Type) where
  inject : Injection → world → Except TransportError Unit × world

/-!
## Recorders

A transport that keeps every mail it takes, in order, until they are taken out.
It can be told to refuse mails.
-/

/-- The mails taken so far, and whether further ones are taken. -/
structure Recorder where
  injections : List Injection
  refusing : Bool
  deriving DecidableEq, Repr

namespace Recorder

def empty : Recorder :=
  ⟨[], false⟩

def count (recorder : Recorder) : Nat :=
  recorder.injections.length

def setRefusing (recorder : Recorder) (refusing : Bool) : Recorder :=
  { recorder with refusing }

def refusal : String :=
  "refusing all mail"

def inject (injection : Injection) (recorder : Recorder) : Except TransportError Unit × Recorder :=
  if recorder.refusing then
    (.error (.rejected injection.mail.name refusal), recorder)
  else
    (.ok (), { recorder with injections := recorder.injections ++ [injection] })

/-- The mails taken so far, and the recorder without them. -/
def takeAll (recorder : Recorder) : List Injection × Recorder :=
  (recorder.injections, { recorder with injections := [] })

def transport : Transport Recorder :=
  ⟨inject⟩

end Recorder

end RecipientRewriting
