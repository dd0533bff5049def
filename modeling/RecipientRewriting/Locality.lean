import RecipientRewriting.Address.Basic
import RecipientRewriting.UniqueList

/-!
# Local and remote addresses

Which domains mail is delivered for, and addresses by whether they are in one.
-/

namespace RecipientRewriting

/-!
## Local domains

The default domain, which completes addresses without one, is always local.
-/

structure DomainList where
  domains : List Domain
  defaultDomain : Option Domain
  deriving DecidableEq, Repr

namespace DomainList

/-- The list of some domains and the default domain, if there is one. -/
def make (domains : List Domain) (defaultDomain : Option Domain) : DomainList where
  domains := UniqueList.ofList (domains ++ defaultDomain.toList)
  defaultDomain := defaultDomain

def add (list : DomainList) (domain : Domain) : DomainList :=
  { list with domains := UniqueList.add list.domains domain }

def isLocal (list : DomainList) (domain : Domain) : Bool :=
  list.domains.contains domain

def size (list : DomainList) : Nat :=
  list.domains.length

end DomainList

/-!
## Local and remote targets

The addresses are grouped by domain first, so that the question is asked once for
each domain, in order of first appearance; groups keep the order of their
members.
-/

/-- Addresses by where they are delivered. -/
structure Partition where
  onSite : List Address
  remote : List Address
  deriving DecidableEq, Repr

namespace Partition

structure Group where
  domain : Domain
  members : List Address
  deriving DecidableEq, Repr

/-- Puts an address into the group of its domain, or into a new one at the end. -/
def place (address : Address) : List Group → List Group
  | [] => [⟨address.domain, [address]⟩]
  | group :: rest =>
      if group.domain = address.domain then
        { group with members := group.members ++ [address] } :: rest
      else
        group :: place address rest

def groupByDomain (addresses : List Address) : List Group :=
  addresses.foldl (fun groups address => place address groups) []

/-- Splits groups by the answers about their domains. -/
def ofAnswers (answered : List (Group × Bool)) : Partition where
  onSite := ((answered.filter (·.2)).map (·.1.members)).flatten
  remote := ((answered.filter (!·.2)).map (·.1.members)).flatten

def askAll {m : Type → Type} [Monad m] (isLocal : Domain → m Bool) :
    List Group → m (List (Group × Bool))
  | [] => pure []
  | group :: rest => do
      let answer ← isLocal group.domain
      let others ← askAll isLocal rest
      pure ((group, answer) :: others)

/-- Splits addresses by asking `isLocal` about their domains, where an answer
may depend on the questions before it. -/
def ofAddresses {m : Type → Type} [Monad m] (isLocal : Domain → m Bool)
    (addresses : List Address) : m Partition := do
  let answered ← askAll isLocal (groupByDomain addresses)
  pure (ofAnswers answered)

end Partition

end RecipientRewriting
