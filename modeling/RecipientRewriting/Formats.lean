import RecipientRewriting.Address.Basic
import RecipientRewriting.Dsn
import RecipientRewriting.Mail.Basic
import RecipientRewriting.Notation.Format
import RecipientRewriting.Rule.Source

/-!
# Formats

How addresses, mails, notification options and rules are written in configurations and
attributes.
-/

namespace RecipientRewriting

open Notation

/-!
## Addresses and domains

Both are strings.  An address that is none is refused; any string is a domain.
-/

def Address.format : Format Address :=
  .text Address.text fun text => (Address.parse text).mapError AddressError.message

/-- A domain is written in lower case. -/
def Domain.format : Format Domain :=
  .via Domain.text Domain.ofString .string

/-! ## Envelopes, states and names of mails -/

/-- An envelope is a record; the null sender is the default. -/
def Envelope.format : Format Envelope :=
  .record "Envelope" ⟨none, []⟩
    [.of "sender" (.option Address.format) Envelope.sender
      fun sender envelope => { envelope with sender },
     .of "recipients" (.list Address.format) Envelope.recipients
      fun recipients envelope => { envelope with recipients }]

/-- Any string is the name of a state. -/
def ProcessingState.format : Format ProcessingState :=
  .via ProcessingState.name ProcessingState.mk .string

def MailName.format : Format MailName :=
  .text MailName.text fun text => (MailName.parse text).mapError MailNameFault.message

/-!
## Notification options

Options are records named after the parameters of the mail protocol.  A set of
events is a list of their names, in which repetitions do not count.
-/

namespace ReturnContent

def name : ReturnContent → String
  | full => "Full"
  | headers => "Headers"

def format : Format ReturnContent :=
  .choice name [full, headers]

end ReturnContent

namespace NotifyEvent

def name : NotifyEvent → String
  | never => "Never"
  | success => "Success"
  | failure => "Failure"
  | delay => "Delay"

def format : Format NotifyEvent :=
  .choice name all

end NotifyEvent

/-- A set of events is written in the order of listings. -/
def NotifySet.format : Format NotifySet :=
  .via NotifySet.toList NotifySet.ofList (.list NotifyEvent.format)

def RecipientDsn.format : Format RecipientDsn :=
  .record "RecipientDsnParameters" ⟨none, none⟩
    [.of "notify" (.option NotifySet.format) RecipientDsn.notify
      fun notify options => { options with notify },
     .of "orcpt" (.option .string) RecipientDsn.givenRecipient
      fun givenRecipient options => { options with givenRecipient }]

def DsnParameters.format : Format DsnParameters :=
  .record "DsnParameters" ⟨none, none, .empty⟩
    [.of "envid" (.option .string) DsnParameters.envelopeId
      fun envelopeId parameters => { parameters with envelopeId },
     .of "ret" (.option ReturnContent.format) DsnParameters.returnContent
      fun returnContent parameters => { parameters with returnContent },
     .of "rcpt" (.orderedMap Address.format RecipientDsn.format) DsnParameters.recipients
      fun recipients parameters => { parameters with recipients }]

/-!
## Rules and their sources

Rules and sources are strings, kinds are words.  In a list of rules a rule that
is stated again does not count.
-/

def RuleKind.format : Format RuleKind :=
  .choice RuleKind.name RuleKind.all

def Rule.format : Format Rule :=
  .text Rule.text fun text => (Rule.parse text).mapError InvalidRule.message

/-- A list of rules holds each of them once. -/
def RuleList.format : Format RuleList :=
  .via id UniqueList.ofList (.list Rule.format)

/-- A source is written as an address, where a star stands for everyone. -/
def Source.format : Format Source :=
  .text Source.text fun text => (Source.parse text).mapError InvalidRule.message

end RecipientRewriting
