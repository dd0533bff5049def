import RecipientRewriting.Formats
import RecipientRewriting.Mail.Basic
import RecipientRewriting.UniqueList

/-!
# Forwarding

What a recipient with forwarding rules does, and the ledger of those who have forwarded
a mail already, without which mails could be forwarded in circles.
-/

namespace RecipientRewriting

open Notation

/-!
## Ledgers

A copy that is sent on behalf of an address carries that address, behind those
its mail carried already.  An address in the ledger of a mail neither forwards
it again nor is forwarded to.
-/

/-- The addresses that have forwarded a mail, in order. -/
structure Ledger where
  addresses : List Address
  deriving DecidableEq, Repr

namespace Ledger

def attributeName : String :=
  "switchyard.loop-prevention.recorded-recipients"

def format : Format (List Address) :=
  .list Address.format

def empty : Ledger :=
  ⟨[]⟩

/-- The ledger of some addresses, each once. -/
def ofList (addresses : List Address) : Ledger :=
  ⟨UniqueList.ofList addresses⟩

def add (ledger : Ledger) (address : Address) : Ledger :=
  ⟨UniqueList.add ledger.addresses address⟩

def contains (ledger : Ledger) (address : Address) : Bool :=
  ledger.addresses.contains address

/-- The candidates that are not recorded, each once, in order. -/
def nonRecorded (ledger : Ledger) (candidates : List Address) : List Address :=
  UniqueList.ofList (candidates.filter fun candidate => !ledger.contains candidate)

/-- The ledger in the text of an attribute; text that is none counts as empty. -/
def ofText (text : String) : Ledger :=
  match format.read text with
  | .ok addresses => ofList addresses
  | .error _ => empty

def ofMail (mail : Mail) : Ledger :=
  match mail.attribute? attributeName with
  | some text => ofText text
  | none => empty

def text (ledger : Ledger) : String :=
  format.write ledger.addresses

/-- The mail with this ledger in place of its own. -/
def recordOn (ledger : Ledger) (mail : Mail) : Mail :=
  mail.withAttribute attributeName ledger.text

/-! ## Members -/

@[simp]
theorem contains_iff {ledger : Ledger} {address : Address} :
    ledger.contains address = true ↔ address ∈ ledger.addresses := by
  simp [contains]

@[simp]
theorem mem_add {ledger : Ledger} {address other : Address} :
    other ∈ (ledger.add address).addresses ↔ other ∈ ledger.addresses ∨ other = address := by
  simp [add]

@[simp]
theorem mem_nonRecorded {ledger : Ledger} {candidates : List Address} {address : Address} :
    address ∈ ledger.nonRecorded candidates ↔
      address ∈ candidates ∧ address ∉ ledger.addresses := by
  simp [nonRecorded, contains]

end Ledger

/-!
## Actions

A recipient with forwarding rules sends a copy on and gives up its own, unless
it forwards to itself as well.  Rules that lead only to addresses which have
forwarded the mail already would lose it; such a recipient is reported instead.
-/

inductive ForwardAction
  /-- Send a copy on behalf of an address. -/
  | sendCopy (sender : Address) (recipients : List Address)
  /-- Take an address off the mail. -/
  | remove (recipient : Address)
  /-- Report that an address forwards in a circle. -/
  | recordLoop (recipient : Address)
  deriving DecidableEq, Repr

namespace ForwardAction

/-- What to do about a recipient whose rules lead to `targets`, in order. -/
def decide (recipient : Address) (targets : List Address) (ledger : Ledger) :
    List ForwardAction :=
  if ledger.contains recipient then
    []
  else
    let fresh := ledger.nonRecorded targets
    let others := fresh.filter fun target => target ≠ recipient
    let keepsCopy := fresh.contains recipient
    (if others.isEmpty then [] else [sendCopy recipient others]) ++
      (if keepsCopy then [] else [remove recipient]) ++
      (if !targets.isEmpty && others.isEmpty && !keepsCopy then [recordLoop recipient] else [])

def removed? : ForwardAction → Option Address
  | remove recipient => some recipient
  | sendCopy _ _ | recordLoop _ => none

end ForwardAction

end RecipientRewriting
