import RecipientRewriting.Configuration
import RecipientRewriting.Forwarding
import RecipientRewriting.Processing.Run
import RecipientRewriting.Transport

/-!
# Engines

An engine processes mails as a configuration says and reports what became of
each mail and of every copy made of it.  Copies are kept for the report of their
own mail only.
-/

namespace RecipientRewriting

open Notation

/-! ## Reports -/

structure MailSummary where
  name : MailName
  state : ProcessingState
  sender : Option Address
  recipients : List Address
  /-- The addresses in the ledger of the mail. -/
  forwardedBy : List Address
  deriving DecidableEq, Repr

namespace MailSummary

/-- The summary of a mail that is handled in `state` next. -/
def ofMail (mail : Mail) (state : ProcessingState) : MailSummary where
  name := mail.name
  state := state
  sender := mail.sender
  recipients := mail.recipients
  forwardedBy := (Ledger.ofMail mail).addresses

def ofInjection (injection : Injection) : MailSummary :=
  ofMail injection.mail injection.effectiveState

/-- The written form of a summary, which mentions a ledger only if it is not
empty. -/
def document (summary : MailSummary) : Document :=
  .record <|
    [("name", MailName.format.document summary.name),
     ("state", ProcessingState.format.document summary.state),
     ("sender", (Format.option Address.format).document summary.sender),
     ("recipients", Ledger.format.document summary.recipients)] ++
    if summary.forwardedBy.isEmpty then []
    else [("forwarded_by", Ledger.format.document summary.forwardedBy)]

end MailSummary

structure Report where
  mail : MailSummary
  injected : List MailSummary
  deriving DecidableEq, Repr

namespace Report

def document (report : Report) : Document :=
  .record
    [("mail", report.mail.document),
     ("injected", .list (report.injected.map MailSummary.document))]

def text (report : Report) : String :=
  report.document.toSpread

end Report

/-! ## Engines -/

/-- A processor over the rules and domains of a configuration. -/
structure Engine where
  processor : Processor Unit Recorder
  surroundings : Surroundings Unit Recorder

structure EngineAnswer where
  result : Except ProcessingError Report
  events : List AuditEvent

namespace Engine

/-- The engine that a configuration describes, and where its copies get their
names from. -/
def ofConfiguration (configuration : Configuration) (names : NameSupply) : Engine :=
  let domains := configuration.domains.toDomainList
  let table := configuration.table.toTable domains.defaultDomain
  { processor :=
      { settings := configuration.processor
        audit := configuration.audit
        directory := .ofTable table domains
        transport := Recorder.transport }
    surroundings := ⟨(), .empty, names⟩ }

/-- Processes a mail.  The copies are taken out even if the pass fails. -/
def process (engine : Engine) (mail : Mail) : EngineAnswer × Engine :=
  let processed := engine.processor.processMail mail engine.surroundings
  let (injections, transport) := processed.state.transport.takeAll
  let result := processed.result.map fun () =>
    { mail := .ofMail processed.mail processed.mail.state
      injected := injections.map .ofInjection : Report }
  (⟨result, processed.state.events⟩,
    { engine with surroundings := { processed.state.toSurroundings with transport } })

end Engine

end RecipientRewriting
