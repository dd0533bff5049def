import RecipientRewriting.Forwarding
import RecipientRewriting.Processing.Rewriting

/-!
# Applying forwarding rules

The second phase of a pass.  What to do is decided for every recipient before
any of it is done.  A copy that the transport refuses is lost, but the mail
itself goes on: only lookups end this phase early.
-/

namespace RecipientRewriting.Processor

variable {directoryWorld transportWorld : Type}

def forwards (settings : ProcessorSettings) (mail : Mail) : Bool :=
  settings.forwardSeparately && (settings.forwardAutoReplies || !mail.isAutoReply)

def forwardActions (processor : Processor directoryWorld transportWorld) (ledger : Ledger)
    (recipient : Address) : Pass directoryWorld transportWorld (List ForwardAction) :=
  match Source.ofAddress? recipient with
  | none => pure []
  | some source => do
      match ← processor.findForwards source with
      | [] => pure []
      | rules =>
          let addresses ← processor.targets rules
          pure (ForwardAction.decide recipient addresses ledger)

def allForwardActions (processor : Processor directoryWorld transportWorld) (ledger : Ledger) :
    List Address → Pass directoryWorld transportWorld (List ForwardAction)
  | [] => pure []
  | recipient :: rest => do
      let actions ← processor.forwardActions ledger recipient
      let others ← allForwardActions processor ledger rest
      pure (actions ++ others)

/-- Sends the copy that an action asks for, if it asks for any. -/
def carryOut (processor : Processor directoryWorld transportWorld) (mail : Mail)
    (ledger : Ledger) : ForwardAction → Pass directoryWorld transportWorld Unit
  | .sendCopy sender recipients => do
      let copy ← Pass.duplicate mail
      let addressed := (copy.withSender (some sender)).withRecipients recipients
      match ← processor.inject .forward ⟨(ledger.add sender).recordOn addressed, none⟩ with
      | .ok () =>
          Pass.audit (Audit.mailForwarded processor.audit mail copy.name sender recipients)
      | .error _ => pure ()
  | .remove _ => pure ()
  | .recordLoop recipient => do
      let errorState := processor.settings.errorState
      let copy ← Pass.duplicate mail
      let _ ← processor.inject .loop
        ⟨(copy.withRecipients [recipient]).withState errorState, some errorState⟩

def carryOutAll (processor : Processor directoryWorld transportWorld) (mail : Mail)
    (ledger : Ledger) : List ForwardAction → Pass directoryWorld transportWorld Unit
  | [] => pure ()
  | action :: rest => do
      processor.carryOut mail ledger action
      carryOutAll processor mail ledger rest

def removeRecipients (removed : List Address) : Handling directoryWorld transportWorld Unit := do
  if !removed.isEmpty then
    Handling.setRecipients
      ((← Handling.mail).recipients.filter fun recipient => !removed.contains recipient)

def applyForwards (processor : Processor directoryWorld transportWorld) :
    Handling directoryWorld transportWorld Unit := do
  if forwards processor.settings (← Handling.mail) then
    let ledger := Ledger.ofMail (← Handling.mail)
    let actions ← processor.allForwardActions ledger (← Handling.mail).recipients
    processor.carryOutAll (← Handling.mail) ledger actions
    removeRecipients (actions.filterMap ForwardAction.removed?)

end RecipientRewriting.Processor
