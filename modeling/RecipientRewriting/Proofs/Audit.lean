import Mathlib.Control.Monad.Basic
import RecipientRewriting.Audit

/-!
# Hidden local parts

A local part is hidden by cutting the written address at its last `@`.  There may
be others in a quoted local part and in an address literal, but one that follows
the separator stands in the domain.  So what shows of an address depends on its
domain alone, and events about addresses of the same domains show the same.
-/

namespace RecipientRewriting

open Text

/-- The last separator stands behind a separator, wherever that one is. -/
theorem Text.cutLast_append (separator : Char) (front behind : List Char) :
    cutLast separator (front ++ separator :: behind) =
      match cutLast separator behind with
      | some (before, rest) => some (front ++ separator :: before, rest)
      | none => some (front, behind) := by
  induction front with
  | nil =>
      rw [List.nil_append, cutLast]
      cases cutLast separator behind with
      | none => simp
      | some halves => rfl
  | cons character front inductionHypothesis =>
      rw [List.cons_append, cutLast, inductionHypothesis]
      cases cutLast separator behind <;> rfl

/-- Nothing is cut only if there is no separator. -/
theorem Text.cutLast_eq_none_iff {separator : Char} {text : List Char} :
    cutLast separator text = none ↔ separator ∉ text := by
  constructor
  · intro uncut member
    obtain ⟨front, behind, rfl⟩ := List.append_of_mem member
    rw [cutLast_append] at uncut
    split at uncut <;> cases uncut
  · intro absent
    induction text with
    | nil => rfl
    | cons character rest inductionHypothesis =>
        obtain ⟨different, later⟩ := not_or.1 (mt List.mem_cons.2 absent)
        rw [cutLast, inductionHypothesis later]
        exact if_neg (Ne.symm different)

def AuditEvent.addressFields (event : AuditEvent) : List (String × String) :=
  event.fields.filter fun (key, _) => key ≠ "message_id"

namespace Audit

/-- What shows of a domain: all of it, unless a literal holds the character that
ends a local part. -/
def shown (domain : Domain) : String :=
  match cutLast '@' domain.text.toList with
  | some (_, behind) => String.ofList behind
  | none => domain.text

theorem shown_eq_text
    {domain : Domain} (absent : '@' ∉ domain.text.toList) :
    shown domain = domain.text := by
  unfold shown
  rw [cutLast_eq_none_iff.2 absent]

theorem redactText_text (address : Address) :
    redactText true address.text = hidden ++ "@" ++ shown address.domain := by
  have written : address.text.toList =
      address.localPart.toList ++ '@' :: address.domain.text.toList := by
    simp [Address.text]
  unfold redactText shown
  rw [if_pos rfl, written, cutLast_append]
  cases cutLast '@' address.domain.text.toList with
  | none => simp
  | some halves => rfl

theorem redactAddresses_eq (addresses : List Address) :
    redactAddresses true addresses =
      (addresses.map Address.domain).map fun domain => hidden ++ "@" ++ shown domain := by
  rw [redactAddresses, List.map_map]
  exact List.map_congr_left fun address _ => redactText_text address

theorem redactAddresses_congr
    {left right : List Address}
    (sameDomains : left.map Address.domain = right.map Address.domain) :
    redactAddresses true left = redactAddresses true right := by
  rw [redactAddresses_eq, redactAddresses_eq, sameDomains]

theorem senderText_congr
    {settings : AuditSettings} {left right : Option Address}
    (redacts : settings.redactSender = true)
    (sameDomain : left.map Address.domain = right.map Address.domain) :
    senderText settings left = senderText settings right := by
  have shows : ∀ sender : Option Address, senderText settings sender =
      match sender.map Address.domain with
      | some domain => hidden ++ "@" ++ shown domain
      | none => "<>" := by
    intro sender
    cases sender with
    | none => rfl
    | some sender =>
        unfold senderText
        rw [redacts]
        exact redactText_text sender
  rw [shows, shows, sameDomain]

/-! ## Events -/

section Events

variable {settings : AuditSettings}

theorem addressFields_recipientsRewritten
    {mail other : Mail} {before otherBefore : List Address}
    (redactsSender : settings.redactSender = true)
    (redactsRecipients : settings.redactRecipients = true)
    (sameSender : mail.sender.map Address.domain = other.sender.map Address.domain)
    (sameBefore : before.map Address.domain = otherBefore.map Address.domain)
    (sameAfter : mail.recipients.map Address.domain = other.recipients.map Address.domain) :
    (recipientsRewritten settings before mail).map AuditEvent.addressFields =
      (recipientsRewritten settings otherBefore other).map AuditEvent.addressFields := by
  unfold recipientsRewritten
  rw [redactsRecipients, senderText_congr redactsSender sameSender,
    redactAddresses_congr sameBefore, redactAddresses_congr sameAfter]
  cases settings.enabled <;> rfl

theorem addressFields_mailForwarded
    {mail other : Mail} {copy otherCopy : MailName} {sender otherSender : Address}
    {recipients otherRecipients : List Address}
    (redactsRecipients : settings.redactRecipients = true)
    (sameSender : sender.domain = otherSender.domain)
    (sameRecipients : recipients.map Address.domain = otherRecipients.map Address.domain) :
    (mailForwarded settings mail copy sender recipients).map AuditEvent.addressFields =
      (mailForwarded settings other otherCopy otherSender otherRecipients).map
        AuditEvent.addressFields := by
  unfold mailForwarded
  rw [redactsRecipients, redactText_text, redactText_text, sameSender,
    redactAddresses_congr sameRecipients]
  cases settings.enabled <;> rfl

end Events

/-- Of hidden addresses only the domains show, and in whole where they hold no `@`.
So lists of addresses with the same domains are written alike, whatever the local
parts are, and so are the addresses in events about them. -/
theorem local_parts_hidden :
    (∀ left right : List Address, left.map Address.domain = right.map Address.domain →
      redactAddresses true left = redactAddresses true right) ∧
    (∀ addresses : List Address,
      (∀ address ∈ addresses, '@' ∉ address.domain.text.toList) →
      redactAddresses true addresses =
        addresses.map fun address => hidden ++ "@" ++ address.domain.text) ∧
    ∀ settings : AuditSettings,
      settings.redactSender = true → settings.redactRecipients = true →
      (∀ (mail other : Mail) (before otherBefore : List Address),
        mail.sender.map Address.domain = other.sender.map Address.domain →
        before.map Address.domain = otherBefore.map Address.domain →
        mail.recipients.map Address.domain = other.recipients.map Address.domain →
        (recipientsRewritten settings before mail).map AuditEvent.addressFields =
          (recipientsRewritten settings otherBefore other).map AuditEvent.addressFields) ∧
      ∀ (mail other : Mail) (copy otherCopy : MailName) (sender otherSender : Address)
        (recipients otherRecipients : List Address),
        sender.domain = otherSender.domain →
        recipients.map Address.domain = otherRecipients.map Address.domain →
        (mailForwarded settings mail copy sender recipients).map AuditEvent.addressFields =
          (mailForwarded settings other otherCopy otherSender otherRecipients).map
            AuditEvent.addressFields := by
  refine ⟨fun _ _ => redactAddresses_congr, fun addresses plain => ?_,
    fun settings redactsSender redactsRecipients => ⟨?_, ?_⟩⟩
  · rw [redactAddresses]
    refine List.map_congr_left fun address member => ?_
    rw [redactText_text, shown_eq_text (plain address member)]
  · intro mail other before otherBefore sameSender sameBefore sameAfter
    exact addressFields_recipientsRewritten redactsSender redactsRecipients sameSender sameBefore
      sameAfter
  · intro mail other copy otherCopy sender otherSender recipients otherRecipients sameSender
      sameRecipients
    exact addressFields_mailForwarded redactsRecipients sameSender sameRecipients

/-! ### Separators in many places -/

/-- A user of a domain, and one of an address literal that holds an `@`. -/
def plainPair : List Address :=
  [⟨"anne", .ofString "x.org"⟩, ⟨"bert", .ofString "[tag:a@b]"⟩]

/-- Two others of these domains, whose local parts are quoted and hold an `@` too. -/
def quotedPair : List Address :=
  [⟨"\"anne@home\"", .ofString "x.org"⟩, ⟨"\"b\\\"@[tag:c@\"", .ofString "[tag:a@b]"⟩]

/-- A mail from the first of some addresses to all of them. -/
def mailAmong (name : MailName) (addresses : List Address) : Mail :=
  .fresh name ⟨addresses.head?, addresses⟩ []

/-- Everything recorded and all local parts hidden. -/
def allHidden : AuditSettings :=
  ⟨true, true, true⟩

theorem pairs_hidden :
    (∀ address ∈ plainPair ++ quotedPair, Address.parse address.text = .ok address) ∧
      plainPair.map Address.domain = quotedPair.map Address.domain ∧
      redactAddresses true quotedPair = ["[REDACTED]@x.org", "[REDACTED]@b]"] ∧
      redactAddresses true plainPair = redactAddresses true quotedPair ∧
      (recipientsRewritten allHidden plainPair (mailAmong ⟨1⟩ quotedPair)).map
          AuditEvent.addressFields =
        (recipientsRewritten allHidden quotedPair (mailAmong ⟨2⟩ plainPair)).map
          AuditEvent.addressFields ∧
      (mailForwarded allHidden (mailAmong ⟨1⟩ quotedPair) ⟨3⟩ plainPair[1] quotedPair).map
          AuditEvent.addressFields =
        (mailForwarded allHidden (mailAmong ⟨2⟩ plainPair) ⟨4⟩ quotedPair[1] plainPair).map
          AuditEvent.addressFields := by
  have sameDomains : plainPair.map Address.domain = quotedPair.map Address.domain := rfl
  obtain ⟨texts, _, events⟩ := local_parts_hidden
  obtain ⟨rewritten, forwarded⟩ := events allHidden rfl rfl
  refine ⟨by decide +kernel, sameDomains, by decide, texts _ _ sameDomains, ?_, ?_⟩
  · exact rewritten _ _ _ _ rfl sameDomains sameDomains.symm
  · exact forwarded _ _ _ _ _ _ _ _ rfl sameDomains.symm

end Audit

end RecipientRewriting
