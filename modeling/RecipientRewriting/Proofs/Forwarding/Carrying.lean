import RecipientRewriting.Proofs.Address.Spellings
import RecipientRewriting.Proofs.Forwarding.Ledger

/-!
# Ledgers on their way

A ledger that is recorded on a mail takes the place of the one the mail had, and
of nothing else; the mail and all its copies then carry it.  A mail may also
arrive with any text in the place of its ledger.  Where this text lists
addresses, it is read as the ledger of these, and where it does not, as nothing.
-/

namespace RecipientRewriting

namespace Ledger

/-! ## Where ledgers come from -/

/-- A ledger is that of some addresses or of a mail, or another one with an
address added. -/
inductive Arises : Ledger → Prop where
  | empty : Arises empty
  | ofList (addresses : List Address) : Arises (ofList addresses)
  | add {ledger : Ledger} (address : Address) (arises : Arises ledger) :
      Arises (ledger.add address)
  | ofMail (mail : Mail) : Arises (ofMail mail)

theorem Arises.nodup
    {ledger : Ledger} (arises : ledger.Arises) : ledger.addresses.Nodup := by
  induction arises with
  | empty =>
      exact List.nodup_nil
  | ofList addresses =>
      exact UniqueList.nodup_ofList addresses
  | add address _ inductionHypothesis =>
      exact UniqueList.nodup_add inductionHypothesis address
  | ofMail mail =>
      exact (ofMail_wellFormed mail).nodup

/-! ## Texts in the place of a ledger -/

theorem ofText_of_lists
    {text : String} {addresses : List Address} (listed : Lists text addresses) :
    ofText text = ofList addresses := by
  unfold ofText
  rw [read_iff_lists.2 listed]

theorem ofText_of_not_lists
    {text : String} (unlisted : ∀ addresses, ¬ Lists text addresses) :
    ofText text = empty := by
  unfold ofText
  cases outcome : format.read text with
  | error fault =>
      rfl
  | ok addresses =>
      exact absurd (read_iff_lists.1 outcome) (unlisted addresses)

/-! ## Recording -/

theorem recordOn_keeps (ledger : Ledger) (mail : Mail) :
    { ledger.recordOn mail with attributes := mail.attributes } = mail ∧
      (ledger.recordOn mail).attributes.erase attributeName =
        mail.attributes.erase attributeName := by
  constructor
  · rfl
  · exact OrderedMap.erase_insert mail.attributes attributeName ledger.text

/-- A ledger of addresses that were read, once recorded on a mail, is the ledger
of this mail and of each of its copies, in the same order, and nothing else of
the mail changes.  Whatever text stands in place of a ledger is read as one
without repetitions: the ledger of the addresses the text lists, or the empty
ledger where it lists none. -/
theorem carried_faithfully
    (ledger : Ledger)
    (arises : ledger.Arises)
    (parsed : ∀ address ∈ ledger.addresses, address.IsParsed)
    (mail : Mail) :
    ofMail (ledger.recordOn mail) = ledger ∧
    (∀ name, ofMail ((ledger.recordOn mail).duplicate name) = ledger) ∧
    { ledger.recordOn mail with attributes := mail.attributes } = mail ∧
    (ledger.recordOn mail).attributes.erase attributeName =
      mail.attributes.erase attributeName ∧
    ∀ (carrier : Mail) (text : String), carrier.attribute? attributeName = some text →
      (ofMail carrier).addresses.Nodup ∧
      (∀ addresses, Lists text addresses → ofMail carrier = ofList addresses) ∧
      ((∀ addresses, ¬ Lists text addresses) → ofMail carrier = empty) := by
  have carried := ofMail_recordOn ⟨arises.nodup, parsed⟩ mail
  obtain ⟨othersKept, attributesKept⟩ := recordOn_keeps ledger mail
  refine ⟨carried, ?_, othersKept, attributesKept, ?_⟩
  · intro name
    rw [ofMail_duplicate]
    exact carried
  · intro carrier text stored
    have read : ofMail carrier = ofText text := by
      unfold ofMail
      rw [stored]
    rw [read]
    exact ⟨(ofText_wellFormed text).nodup, fun _ => ofText_of_lists, ofText_of_not_lists⟩

/-- A mail with an attribute of its own and one address twice in its ledger. -/
def markedMail : Mail :=
  ((Mail.fresh ⟨0⟩ ⟨none, []⟩ []).withAttribute "zone" "eu").withAttribute attributeName
    "[\"b@y.org\",\"B@y.org\",\"b@Y.ORG\"]"

/-- Both addresses are written with quotes, and one of them is at a literal. -/
def awkwardLedger : Ledger :=
  (ofList [.awkward, ⟨"\"b, c\"", .ofString "x.org"⟩]).add .awkward

theorem awkwardLedger_carried :
    awkwardLedger.addresses = [.awkward, ⟨"\"b, c\"", .ofString "x.org"⟩] ∧
      ofMail (awkwardLedger.recordOn markedMail) = awkwardLedger ∧
      ofMail ((awkwardLedger.recordOn markedMail).duplicate ⟨1⟩) = awkwardLedger ∧
      (awkwardLedger.recordOn markedMail).attribute? "zone" = some "eu" ∧
      (ofMail markedMail).addresses =
        [⟨"b", .ofString "y.org"⟩, ⟨"B", .ofString "y.org"⟩] := by
  have members : awkwardLedger.addresses = [.awkward, ⟨"\"b, c\"", .ofString "x.org"⟩] := by
    decide +kernel
  have awkwardRead : Address.parse "\"a@[\\\"b\"@[ipv6:2001:db8::1]" = .ok .awkward := by
    decide +kernel
  have otherRead :
      Address.parse "\"b, c\"@x.org" = .ok ⟨"\"b, c\"", .ofString "x.org"⟩ := by
    decide +kernel
  have parsed : ∀ address ∈ awkwardLedger.addresses, address.IsParsed := by
    intro address member
    rw [members] at member
    rcases List.mem_cons.1 member with rfl | later
    · exact ⟨_, awkwardRead⟩
    · obtain rfl := List.mem_singleton.1 later
      exact ⟨_, otherRead⟩
  obtain ⟨carried, copies, _, _, read⟩ :=
    carried_faithfully awkwardLedger (.add _ (.ofList _)) parsed markedMail
  have listed : Lists "[\"b@y.org\",\"B@y.org\",\"b@Y.ORG\"]"
      [⟨"b", .ofString "y.org"⟩, ⟨"B", .ofString "y.org"⟩, ⟨"b", .ofString "y.org"⟩] :=
    read_iff_lists.1 (by decide +kernel)
  obtain ⟨_, named, _⟩ := read markedMail _ rfl
  refine ⟨members, carried, copies ⟨1⟩, rfl, ?_⟩
  rw [named _ listed]
  decide +kernel

end Ledger

end RecipientRewriting
