import RecipientRewriting.Dsn
import RecipientRewriting.Locality
import RecipientRewriting.Processing.Pass

/-!
# Rewriting recipients

The first phase of a pass.  Every recipient is decided on before anything is
done, so that a failed lookup leaves no trace outside the pass.  Then targets in
other domains get copies, rejected recipients bounce together in one copy, and
at last the mail is changed to go on to the targets delivered here.
-/

namespace RecipientRewriting.Processor

variable {directoryWorld transportWorld : Type}

/-- The rule with the default domain written out where it implies one. -/
def complete (processor : Processor directoryWorld transportWorld) (rule : Rule) :
    Pass directoryWorld transportWorld Rule :=
  if rule.needsDomain then do
    pure (rule.completeWith (← processor.defaultDomain))
  else
    pure rule

/-- Adds the addresses that rules name to those found already.  A target that
is no address does not count. -/
def addTargets (processor : Processor directoryWorld transportWorld) :
    List Address → RuleList → Pass directoryWorld transportWorld (List Address)
  | found, [] => pure found
  | found, rule :: rest => do
      let rule ← processor.complete rule
      addTargets processor (UniqueList.addAll found rule.address?.toList) rest

/-- The addresses that rules name, each once. -/
def targets (processor : Processor directoryWorld transportWorld) (rules : RuleList) :
    Pass directoryWorld transportWorld (List Address) :=
  processor.addTargets [] rules

/-- Decides on one recipient.  One that has no rules, or cannot have any, stays
as it is. -/
def decide (processor : Processor directoryWorld transportWorld) (recipient : Address) :
    Pass directoryWorld transportWorld Decision :=
  match Source.ofAddress? recipient with
  | none => pure (.passThrough recipient)
  | some source => do
      match ← processor.resolve source with
      | .rejected _ => pure (.reject recipient)
      | .success [] => pure (.passThrough recipient)
      | .success rules =>
          let addresses ← processor.targets rules
          let split ← Partition.ofAddresses processor.isLocal addresses
          pure ⟨recipient, .success split.onSite, split.remote⟩

def decideAll (processor : Processor directoryWorld transportWorld) :
    List Address → Pass directoryWorld transportWorld (List Decision)
  | [] => pure []
  | recipient :: rest => do
      let decision ← processor.decide recipient
      let others ← decideAll processor rest
      pure (decision :: others)

/-- Sends a copy to the remote targets of every recipient that has any. -/
def redirect (processor : Processor directoryWorld transportWorld) (mail : Mail) :
    List Decision → Pass directoryWorld transportWorld Unit
  | [] => pure ()
  | decision :: rest => do
      if !decision.remote.isEmpty then
        let copy ← Pass.duplicate mail
        processor.injectOrFail .redirect ⟨copy.withRecipients decision.remote, none⟩
      redirect processor mail rest

/-- Sends one copy for the rejected recipients to the error state. -/
def bounce (processor : Processor directoryWorld transportWorld) (mail : Mail)
    (rejected : List Address) : Pass directoryWorld transportWorld Unit := do
  if !rejected.isEmpty then
    let errorState := processor.settings.errorState
    let copy ← Pass.duplicate mail
    processor.injectOrFail .bounce
      ⟨(copy.withRecipients rejected).withState errorState, some errorState⟩

/-- Has the mail go on to `recipients`; one without any is used up. -/
def deliverTo (recipients : List Address) (decisions : List Decision) :
    Handling directoryWorld transportWorld Unit := do
  if recipients.isEmpty then
    Handling.setState .ghost
  Handling.setRecipients recipients
  match (← Handling.mail).dsn with
  | some parameters => Handling.setDsn (some (parameters.handOn decisions))
  | none => pure ()

def replaceRecipients (processor : Processor directoryWorld transportWorld) :
    Handling directoryWorld transportWorld Unit := do
  let before := (← Handling.mail).recipients
  let decisions ← processor.decideAll before
  let aggregate := Aggregate.ofDecisions decisions
  processor.redirect (← Handling.mail) decisions
  processor.bounce (← Handling.mail) aggregate.rejectedRecipients
  deliverTo aggregate.newRecipients decisions
  Handling.ofPass <|
    Pass.audit (Audit.recipientsRewritten processor.audit before (← Handling.mail))

end RecipientRewriting.Processor
