import RecipientRewriting.Address.Basic
import RecipientRewriting.UniqueList

/-!
# Decisions about recipients

What becomes of one recipient of a mail, and of all of them together.  The
lists of an aggregate hold every address once, in order of first appearance.
-/

namespace RecipientRewriting

inductive Outcome
  /-- Mail for it is delivered here, to these addresses. -/
  | success (recipients : List Address)
  /-- It was rejected. -/
  | rejected (recipient : Address)
  deriving DecidableEq, Repr

/-- The addresses that replace a recipient; a rejected one has none. -/
def Outcome.newRecipients : Outcome → List Address
  | .success recipients => recipients
  | .rejected _ => []

structure Decision where
  recipient : Address
  outcome : Outcome
  /-- The targets in other domains, which get a copy of their own. -/
  remote : List Address
  deriving DecidableEq, Repr

namespace Decision

def passThrough (recipient : Address) : Decision :=
  ⟨recipient, .success [recipient], []⟩

def reject (recipient : Address) : Decision :=
  ⟨recipient, .rejected recipient, []⟩

def newRecipients (decision : Decision) : List Address :=
  decision.outcome.newRecipients

end Decision

/-- The outcomes of several recipients together. -/
structure Aggregate where
  newRecipients : List Address
  rejectedRecipients : List Address
  deriving DecidableEq, Repr

namespace Aggregate

def empty : Aggregate :=
  ⟨[], []⟩

def add (aggregate : Aggregate) : Outcome → Aggregate
  | .success recipients =>
      { aggregate with newRecipients := UniqueList.addAll aggregate.newRecipients recipients }
  | .rejected recipient =>
      { aggregate with
        rejectedRecipients := UniqueList.add aggregate.rejectedRecipients recipient }

def ofDecisions (decisions : List Decision) : Aggregate :=
  decisions.foldl (fun aggregate decision => aggregate.add decision.outcome) empty

/-- Adds the lists of `later` behind those of `earlier`. -/
def merge (earlier later : Aggregate) : Aggregate where
  newRecipients := UniqueList.addAll earlier.newRecipients later.newRecipients
  rejectedRecipients := UniqueList.addAll earlier.rejectedRecipients later.rejectedRecipients

end Aggregate

end RecipientRewriting
