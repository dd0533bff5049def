import RecipientRewriting.Address.Basic
import RecipientRewriting.Decision
import RecipientRewriting.OrderedMap

/-!
# Delivery status notifications

What a sender has asked to be told about the delivery of a mail: options for
the whole mail, and options for each recipient, which are handed on when recipients
are replaced.
-/

namespace RecipientRewriting

/-! ## Options -/

/-- How much of a mail a notification returns. -/
inductive ReturnContent
  | full
  | headers
  deriving DecidableEq, Repr

/-- An event that a sender may be notified of. -/
inductive NotifyEvent
  | never
  | success
  | failure
  | delay
  deriving DecidableEq, Repr

def NotifyEvent.all : List NotifyEvent :=
  [never, success, failure, delay]

structure NotifySet where
  never : Bool
  success : Bool
  failure : Bool
  delay : Bool
  deriving DecidableEq, Repr

namespace NotifySet

def empty : NotifySet :=
  ⟨false, false, false, false⟩

def contains (set : NotifySet) : NotifyEvent → Bool
  | .never => set.never
  | .success => set.success
  | .failure => set.failure
  | .delay => set.delay

def insert (set : NotifySet) : NotifyEvent → NotifySet
  | .never => { set with never := true }
  | .success => { set with success := true }
  | .failure => { set with failure := true }
  | .delay => { set with delay := true }

def ofList (events : List NotifyEvent) : NotifySet :=
  events.foldl insert empty

/-- The events in the order of listings. -/
def toList (set : NotifySet) : List NotifyEvent :=
  NotifyEvent.all.filter set.contains

end NotifySet

structure RecipientDsn where
  /-- The events to notify of, if the sender has chosen any set. -/
  notify : Option NotifySet
  /-- The recipient as first given. -/
  givenRecipient : Option String
  deriving DecidableEq, Repr

structure DsnParameters where
  /-- The sender's own name for the mail. -/
  envelopeId : Option String
  /-- How much of the mail to return. -/
  returnContent : Option ReturnContent
  /-- The options for its recipients. -/
  recipients : OrderedMap Address RecipientDsn
  deriving DecidableEq, Repr

namespace DsnParameters

def find? (parameters : DsnParameters) (recipient : Address) : Option RecipientDsn :=
  parameters.recipients.find? recipient

def insert (parameters : DsnParameters) (recipient : Address) (options : RecipientDsn) :
    DsnParameters :=
  { parameters with recipients := parameters.recipients.insert recipient options }

def erase (parameters : DsnParameters) (recipient : Address) : DsnParameters :=
  { parameters with recipients := parameters.recipients.erase recipient }

@[simp]
theorem find?_insert (parameters : DsnParameters) (recipient other : Address)
    (options : RecipientDsn) :
    (parameters.insert recipient options).find? other =
      if other = recipient then some options else parameters.find? other :=
  OrderedMap.find?_insert _ _ _ _

@[simp]
theorem find?_erase (parameters : DsnParameters) (recipient other : Address) :
    (parameters.erase recipient).find? other =
      if other = recipient then none else parameters.find? other :=
  OrderedMap.find?_erase _ _ _

/-!
## Handing options on

When recipients are replaced, the options of each pass to its replacements.
The options are taken out as they were before any replacement, so that none
moves twice.  Where several meet at one address, an address that stayed keeps
its own, and otherwise the first recipient replaced by it gives its options.
-/

/-- Takes out the options of the decided recipients, in order.  A recipient
without options, or whose options have been taken already, gives none. -/
def takeOut : DsnParameters → List Decision → DsnParameters × List (Decision × RecipientDsn)
  | parameters, [] => (parameters, [])
  | parameters, decision :: rest =>
      match parameters.find? decision.recipient with
      | none => takeOut parameters rest
      | some options =>
          let (remaining, taken) := takeOut (parameters.erase decision.recipient) rest
          (remaining, (decision, options) :: taken)

/-- Gives an address that replaces itself its own options back. -/
def giveBack (parameters : DsnParameters) (taken : Decision × RecipientDsn) : DsnParameters :=
  if taken.1.recipient ∈ taken.1.newRecipients then
    parameters.insert taken.1.recipient taken.2
  else
    parameters

/-- Gives options to an address that has none. -/
def offer (options : RecipientDsn) (parameters : DsnParameters) (recipient : Address) :
    DsnParameters :=
  match parameters.find? recipient with
  | some _ => parameters
  | none => parameters.insert recipient options

def passOn (parameters : DsnParameters) (taken : Decision × RecipientDsn) : DsnParameters :=
  taken.1.newRecipients.foldl (offer taken.2) parameters

def handOn (parameters : DsnParameters) (decisions : List Decision) : DsnParameters :=
  let (remaining, taken) := parameters.takeOut decisions
  taken.foldl passOn (taken.foldl giveBack remaining)

end DsnParameters

end RecipientRewriting
