import RecipientRewriting.Dsn
import RecipientRewriting.Mail.Header
import RecipientRewriting.Mail.Name

/-!
# Mails

A mail is an envelope around a message, together with the state it is to be
handled in next, attributes by which one stage tells another something, and
the notifications its sender has asked for.
-/

namespace RecipientRewriting

open Text

/-- Who a message is from and who it is for; the null sender is none. -/
structure Envelope where
  sender : Option Address
  recipients : List Address
  deriving DecidableEq, Repr

/-- The name of the state that a mail is handled in next. -/
structure ProcessingState where
  name : String
  deriving DecidableEq, Repr

namespace ProcessingState

def root : ProcessingState :=
  ⟨"root"⟩

/-- Mail ready to leave for another server. -/
def transport : ProcessingState :=
  ⟨"transport"⟩

def error : ProcessingState :=
  ⟨"error"⟩

/-- Mail that is used up and not delivered any further. -/
def ghost : ProcessingState :=
  ⟨"ghost"⟩

instance : Inhabited ProcessingState :=
  ⟨root⟩

end ProcessingState

structure Mail where
  name : MailName
  envelope : Envelope
  /-- The octets of the message, headers and body. -/
  data : List UInt8
  state : ProcessingState
  attributes : OrderedMap String String
  dsn : Option DsnParameters
  deriving DecidableEq, Repr

namespace Mail

def fresh (name : MailName) (envelope : Envelope) (data : List UInt8) : Mail where
  name := name
  envelope := envelope
  data := data
  state := .root
  attributes := .empty
  dsn := none

def sender (mail : Mail) : Option Address :=
  mail.envelope.sender

def recipients (mail : Mail) : List Address :=
  mail.envelope.recipients

def withSender (mail : Mail) (sender : Option Address) : Mail :=
  { mail with envelope := { mail.envelope with sender } }

def withRecipients (mail : Mail) (recipients : List Address) : Mail :=
  { mail with envelope := { mail.envelope with recipients } }

def withState (mail : Mail) (state : ProcessingState) : Mail :=
  { mail with state }

def withDsn (mail : Mail) (dsn : Option DsnParameters) : Mail :=
  { mail with dsn }

def attribute? (mail : Mail) (key : String) : Option String :=
  mail.attributes.find? key

def withAttribute (mail : Mail) (key value : String) : Mail :=
  { mail with attributes := mail.attributes.insert key value }

/-- A copy under a name of its own. -/
def duplicate (mail : Mail) (name : MailName) : Mail :=
  { mail with name }

/-! ## Headers -/

def messageIdHeader : String :=
  "Message-ID"

/-- The header that marks a message nobody wrote by hand. -/
def autoSubmittedHeader : String :=
  "Auto-Submitted"

def headerValues (mail : Mail) (name : String) : Except HeaderFault (List String) :=
  Header.valuesOf mail.data name

/-- The identification of the message, if its headers can be read and have one. -/
def messageId? (mail : Mail) : Option String :=
  match mail.headerValues messageIdHeader with
  | .ok (value :: _) => some (trim value)
  | _ => none

/-- Whether the message is an automatic reply.  One whose headers cannot be
read is not. -/
def isAutoReply (mail : Mail) : Bool :=
  match mail.headerValues autoSubmittedHeader with
  | .ok values => values.any fun value =>
      (dropInitial? "auto-replied".toList (dropBlanks value.toList)).isSome
  | .error _ => false

end Mail

end RecipientRewriting
