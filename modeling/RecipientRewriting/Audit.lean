import RecipientRewriting.Mail.Basic
import RecipientRewriting.Text.Quoted
import RecipientRewriting.Text.Basic

/-!
# Audit events

How the recipients of a mail have changed, and which copies have been sent on
behalf of whom.  Local parts may be hidden; the domains always show.
-/

namespace RecipientRewriting

open Text

/-- Whether events are recorded, and what is hidden in them. -/
structure AuditSettings where
  enabled : Bool
  redactSender : Bool
  redactRecipients : Bool
  deriving DecidableEq, Repr

def AuditSettings.default : AuditSettings :=
  ⟨true, false, false⟩

/-- Something worth recording.  Addresses are in the form they are shown in. -/
inductive AuditEvent
  /-- The recipients of a mail have been replaced. -/
  | recipientsRewritten (mail : MailName) (messageId sender : String) (before after : List String)
  /-- A copy has been sent on behalf of a recipient. -/
  | mailForwarded (copy : MailName) (messageId forwardedBy : String) (recipients : List String)
  deriving DecidableEq, Repr

namespace AuditEvent

def name : AuditEvent → String
  | recipientsRewritten .. => "RecipientsRewritten"
  | mailForwarded .. => "MailForwarded"

def message : AuditEvent → String
  | recipientsRewritten .. => "Audit: Recipients rewritten"
  | mailForwarded .. => "Audit: Mail forwarded"

def mail : AuditEvent → MailName
  | recipientsRewritten mail .. => mail
  | mailForwarded copy .. => copy

/-- What else an event holds, in order. -/
def fields : AuditEvent → List (String × String)
  | recipientsRewritten _ messageId sender before after =>
      [("message_id", messageId), ("sender", sender), ("before", listing before),
        ("after", listing after)]
  | mailForwarded _ messageId forwardedBy recipients =>
      [("message_id", messageId), ("forwarded_by", forwardedBy),
        ("recipients", listing recipients)]

def line (event : AuditEvent) : String :=
  " ".intercalate <|
    [event.message, "event=" ++ quoteForListing event.name, "mail=" ++ event.mail.text] ++
      event.fields.map fun (key, value) => key ++ "=" ++ value

end AuditEvent

namespace Audit

def hidden : String :=
  "[REDACTED]"

/-- The text of an address, with what precedes the last `@` hidden on demand. -/
def redactText (redact : Bool) (text : String) : String :=
  if redact then
    match cutLast '@' text.toList with
    | some (_, domain) => hidden ++ "@" ++ String.ofList domain
    | none => hidden
  else
    text

def redactAddresses (redact : Bool) (addresses : List Address) : List String :=
  addresses.map fun address => redactText redact address.text

/-- The text of a sender, which is empty between brackets for the null sender. -/
def senderText (settings : AuditSettings) : Option Address → String
  | some sender => redactText settings.redactSender sender.text
  | none => "<>"

/-- The identification of a message, empty if it has none. -/
def messageIdText (mail : Mail) : String :=
  mail.messageId?.getD ""

/-- What there is to record about a mail whose recipients were `before`. -/
def recipientsRewritten (settings : AuditSettings) (before : List Address) (mail : Mail) :
    List AuditEvent :=
  if settings.enabled then
    [.recipientsRewritten mail.name (messageIdText mail) (senderText settings mail.sender)
      (redactAddresses settings.redactRecipients before)
      (redactAddresses settings.redactRecipients mail.recipients)]
  else
    []

/-- What there is to record about a copy of `mail` that `sender` forwards. -/
def mailForwarded (settings : AuditSettings) (mail : Mail) (copy : MailName) (sender : Address)
    (recipients : List Address) : List AuditEvent :=
  if settings.enabled then
    [.mailForwarded copy (messageIdText mail)
      (redactText settings.redactRecipients sender.text)
      (redactAddresses settings.redactRecipients recipients)]
  else
    []

end Audit

end RecipientRewriting
