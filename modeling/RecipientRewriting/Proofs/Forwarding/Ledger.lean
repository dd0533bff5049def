import RecipientRewriting.Forwarding
import RecipientRewriting.Proofs.Address.RoundTrip
import RecipientRewriting.Proofs.Notation.Conversion

/-!
# Ledgers that mails carry

A ledger is carried as text.  Whatever text a mail carries, its ledger holds
nothing twice and only addresses that can be read; and such a ledger, once
recorded on a mail, is the ledger of this mail.
-/

namespace RecipientRewriting

namespace Ledger

/-- A ledger that a mail can carry. -/
structure WellFormed (ledger : Ledger) : Prop where
  nodup : ledger.addresses.Nodup
  parsed : ∀ address ∈ ledger.addresses, address.IsParsed

theorem WellFormed.add
    {ledger : Ledger} {address : Address}
    (wellFormed : ledger.WellFormed)
    (parsed : address.IsParsed) :
    (ledger.add address).WellFormed where
  nodup := UniqueList.nodup_add wellFormed.nodup address
  parsed := by
    intro other member
    rcases mem_add.1 member with earlier | rfl
    · exact wellFormed.parsed other earlier
    · exact parsed

/-! ## Reading ledgers back -/

theorem read_write
    {addresses : List Address} (parsed : ∀ address ∈ addresses, address.IsParsed) :
    format.read (format.write addresses) = .ok addresses := by
  have inverse : ∀ address ∈ addresses,
      (Address.parse address.text).mapError AddressError.message = .ok address := by
    intro address member
    rw [(parsed address member).parse_text]
    rfl
  exact Notation.read_write_list inverse

/-- The text is a list of strings that are read as these addresses. -/
def Lists (text : String) (addresses : List Address) : Prop :=
  ∃ texts, (Notation.Format.list .string).read text = .ok texts ∧
    List.Forall₂ (fun written address => Address.parse written = .ok address) texts addresses

theorem read_iff_lists {text : String} {addresses : List Address} :
    format.read text = .ok addresses ↔ Lists text addresses := by
  have single : ∀ written address,
      (Address.parse written).mapError AddressError.message = .ok address ↔
        Address.parse written = .ok address := by
    intro written address
    cases outcome : Address.parse written with
    | error fault =>
        simp [Except.mapError]
    | ok found =>
        simp [Except.mapError]
  have converted : format.read text = .ok addresses ↔
      ∃ texts, (Notation.Format.list .string).read text = .ok texts ∧
        List.Forall₂ (fun written address =>
          (Address.parse written).mapError AddressError.message = .ok address)
          texts addresses :=
    Notation.read_list_text_iff
  rw [converted]
  simp only [single]
  rfl

theorem isParsed_of_read
    {text : String} {addresses : List Address}
    (read : format.read text = .ok addresses) :
    ∀ address ∈ addresses, address.IsParsed := by
  intro address member
  obtain ⟨texts, _, parsed⟩ := read_iff_lists.1 read
  obtain ⟨written, _, same⟩ := Notation.exists_related_of_mem parsed.flip member
  exact ⟨written, same⟩

theorem empty_wellFormed : empty.WellFormed where
  nodup := List.nodup_nil
  parsed := by simp [empty]

theorem ofText_wellFormed (text : String) : (ofText text).WellFormed := by
  unfold ofText
  split
  · rename_i addresses read
    refine ⟨UniqueList.nodup_ofList addresses, ?_⟩
    intro address member
    exact isParsed_of_read read address (UniqueList.mem_ofList.1 member)
  · exact empty_wellFormed

/-- Whatever a mail carries, its ledger can be recorded. -/
theorem ofMail_wellFormed (mail : Mail) : (ofMail mail).WellFormed := by
  unfold ofMail
  split
  · rename_i text _
    exact ofText_wellFormed text
  · exact empty_wellFormed

/-- A ledger that is recorded on a mail is the ledger of this mail. -/
theorem ofMail_recordOn
    {ledger : Ledger} (wellFormed : ledger.WellFormed) (mail : Mail) :
    ofMail (ledger.recordOn mail) = ledger := by
  have stored : (ledger.recordOn mail).attribute? attributeName = some ledger.text := by
    simp [recordOn, Mail.withAttribute, Mail.attribute?]
  rw [ofMail, stored]
  simp only [ofText, text, read_write wellFormed.parsed, ofList,
    UniqueList.ofList_eq_self wellFormed.nodup]

/-! ## Changes that leave the ledger alone -/

@[simp]
theorem ofMail_duplicate (mail : Mail) (name : MailName) :
    ofMail (mail.duplicate name) = ofMail mail :=
  rfl

@[simp]
theorem ofMail_withRecipients (mail : Mail) (recipients : List Address) :
    ofMail (mail.withRecipients recipients) = ofMail mail :=
  rfl

@[simp]
theorem ofMail_withState (mail : Mail) (state : ProcessingState) :
    ofMail (mail.withState state) = ofMail mail :=
  rfl

@[simp]
theorem ofMail_withDsn (mail : Mail) (dsn : Option DsnParameters) :
    ofMail (mail.withDsn dsn) = ofMail mail :=
  rfl

end Ledger

end RecipientRewriting
