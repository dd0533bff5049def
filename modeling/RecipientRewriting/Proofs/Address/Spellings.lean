import Mathlib.Control.Monad.Basic
import RecipientRewriting.Proofs.Address.RoundTrip
import RecipientRewriting.Rule.Source

/-!
# Spellings of an address

An address that was read may be written in angle brackets and between white
space, and is the same address then.  Tables and rules keep addresses in their
written form or in two halves, and lose nothing by it.
-/

namespace RecipientRewriting

open Text

namespace Mailbox

theorem parseChars_append
    {front behind : List Char}
    (text : List Char)
    (frontBlank : ∀ character ∈ front, isBlank character = true)
    (behindBlank : ∀ character ∈ behind, isBlank character = true) :
    parseChars (front ++ text ++ behind) = parseChars text := by
  unfold parseChars
  rw [trimBlanks_append text frontBlank behindBlank]

/-- A mailbox that is accepted as it stands is accepted in angle brackets. -/
theorem parseChars_enclosed
    {text localPart domain : List Char}
    (parsed : parseBare text = .ok (localPart, domain)) :
    parseChars ('<' :: text ++ ['>']) = .ok (localPart, domain) := by
  have last : ('<' :: text ++ ['>']).getLast? = some '>' := List.getLast?_concat
  have bracketShown : isBlank '>' = false := by decide
  have trimmed : trimBlanks ('<' :: text ++ ['>']) = '<' :: text ++ ['>'] := by
    apply trimBlanks_eq_self
    · rfl
    · rw [last]
      exact bracketShown
  have opened : dropInitial? ['<'] ('<' :: text ++ ['>']) = some (text ++ ['>']) :=
    dropInitial?_eq_some_iff.2 rfl
  have closed : dropLast? '>' (text ++ ['>']) = some text :=
    dropLast?_eq_some_iff.2 rfl
  have unwrapped : unwrap ('<' :: text ++ ['>']) = .ok text := by
    unfold unwrap
    rw [opened]
    dsimp only
    rw [closed]
  have nonempty : ('<' :: text ++ ['>']).isEmpty = false := rfl
  unfold parseChars
  rw [trimmed]
  dsimp only
  rw [nonempty, unwrapped]
  exact parsed

end Mailbox

namespace Address

variable {address other : Address}

theorem IsParsed.parse_enclosed (parsed : address.IsParsed) :
    parse ("<" ++ address.text ++ ">") = .ok address := by
  obtain ⟨localPart, domain, bare, written, same⟩ := parsed.exists_written
  have enclosed := Mailbox.parseChars_enclosed bare
  have characters :
      ("<" ++ address.text ++ ">").toList =
        '<' :: (localPart ++ '@' :: domain) ++ ['>'] := by
    rw [String.toList_append, String.toList_append, written]
    rfl
  rw [← characters] at enclosed
  rw [parse_of_parseChars enclosed, ← same]

theorem IsParsed.parse_padded
    {front behind : String}
    (parsed : address.IsParsed)
    (frontBlank : ∀ character ∈ front.toList, isBlank character = true)
    (behindBlank : ∀ character ∈ behind.toList, isBlank character = true) :
    parse (front ++ address.text ++ behind) = .ok address := by
  have padded := Mailbox.parseChars_append address.text.toList frontBlank behindBlank
  rw [← String.toList_append, ← String.toList_append] at padded
  have read := parsed.parse_text
  unfold parse Mailbox.parse at read ⊢
  rw [padded]
  exact read

theorem IsParsed.text_eq_iff
    (parsed : address.IsParsed) (otherParsed : other.IsParsed) :
    address = other ↔ address.text = other.text := by
  constructor
  · rintro rfl
    rfl
  · exact parsed.text_inj otherParsed

/-- The two halves under which a user is stored are read as the user again. -/
theorem IsParsed.exists_ofParts
    (parsed : address.IsParsed) (unquoted : address.isQuoted = false) :
    ∃ localPart domain, Source.ofAddress? address = some (.user localPart domain) ∧
      ofParts localPart domain = .ok address := by
  refine ⟨address.localPart, address.domain, ?_, parsed.parse_text⟩
  unfold Source.ofAddress?
  rw [unquoted]
  rfl

end Address

theorem Rule.address?_forAddress
    {kind : RuleKind} {target : Address}
    (named : kind ≠ .error)
    (parsed : target.IsParsed) :
    (Rule.forAddress kind target).address? = some target := by
  have read : Address.parse? target.text = some target := by
    rw [Address.parse?, parsed.parse_text]
    rfl
  rw [Rule.address?, Rule.forAddress, if_neg named]
  exact read

/-- An address that was read is read again from its written form, also in angle
brackets and between white space.  So addresses that were read are equal exactly
if they are written alike, a user is read again from the halves under which
rules are stored, and a rule for an address names it, whatever its kind, unless
it is an error rule. -/
theorem Address.spellings_agree
    (text : String) (address : Address) (read : parse text = .ok address) :
    parse address.text = .ok address ∧
    parse ("<" ++ address.text ++ ">") = .ok address ∧
    (∀ front behind : String, (∀ character ∈ front.toList, isBlank character = true) →
      (∀ character ∈ behind.toList, isBlank character = true) →
        parse (front ++ address.text ++ behind) = .ok address) ∧
    (∀ otherText other, parse otherText = .ok other →
      (address = other ↔ address.text = other.text)) ∧
    (address.isQuoted = false →
      ∃ localPart domain, Source.ofAddress? address = some (.user localPart domain) ∧
        ofParts localPart domain = .ok address) ∧
    ∀ kind, kind ≠ .error → (Rule.forAddress kind address).address? = some address := by
  have parsed : address.IsParsed := ⟨text, read⟩
  refine ⟨parsed.parse_text, parsed.parse_enclosed, ?_, ?_, parsed.exists_ofParts, ?_⟩
  · intro front behind frontBlank behindBlank
    exact parsed.parse_padded frontBlank behindBlank
  · intro otherText other otherRead
    exact parsed.text_eq_iff ⟨otherText, otherRead⟩
  · intro kind named
    exact Rule.address?_forAddress named parsed

/-- A quoted local part that holds a separator, at a literal whose tag changes
its case. -/
def Address.awkward : Address :=
  ⟨"\"a@[\\\"b\"", .ofString "[ipv6:2001:db8::1]"⟩

theorem Address.awkward_spellings :
    parse " <\"a@[\\\"b\"@[IPv6:2001:DB8::1]>" = .ok awkward ∧
      parse awkward.text = .ok awkward ∧
      parse ("<" ++ awkward.text ++ ">") = .ok awkward ∧
      parse (" \t" ++ awkward.text ++ "\u3000") = .ok awkward ∧
      (Rule.forAddress .group awkward).address? = some awkward := by
  have read : parse " <\"a@[\\\"b\"@[IPv6:2001:DB8::1]>" = .ok awkward := by
    decide +kernel
  obtain ⟨written, enclosed, padded, _, _, named⟩ :=
    spellings_agree " <\"a@[\\\"b\"@[IPv6:2001:DB8::1]>" awkward read
  have frontBlank := List.all_eq_true.1 (by decide : " \t".toList.all isBlank = true)
  have behindBlank := List.all_eq_true.1 (by decide : "\u3000".toList.all isBlank = true)
  exact ⟨read, written, enclosed, padded _ _ frontBlank behindBlank, named .group (by decide)⟩

end RecipientRewriting
