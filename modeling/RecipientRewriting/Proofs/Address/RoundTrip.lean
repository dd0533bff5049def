import RecipientRewriting.Proofs.Address.Casing
import RecipientRewriting.Proofs.Text.Trimming

/-!
# Reading addresses back

The written form of an address that was read is read as that address again:
nothing in front of or behind it is mistaken for white space or a bracket, the
separator is found where it was, and the lower case of the domain passes the
checks that the domain has passed.  So two such addresses with one written form
are equal.
-/

namespace RecipientRewriting

open Text

namespace Mailbox

theorem isBlank_of_isLetDig
    {character : Char} (valid : isLetDig character = true) :
    isBlank character = false := by
  rw [isLetDig_iff] at valid
  simp [isBlank]
  omega

theorem isBlank_of_isLabelText
    {character : Char} (valid : isLabelText character = true) :
    isBlank character = false := by
  simp only [isLabelText, Bool.or_eq_true, decide_eq_true_eq] at valid
  rcases valid with letDig | rfl
  · exact isBlank_of_isLetDig letDig
  · decide

/-- The first character of a local part is neither white space nor a bracket. -/
theorem head_of_checkLocalPart
    {localPart : List Char} (accepted : checkLocalPart localPart = .ok ()) :
    ∃ first rest, localPart = first :: rest ∧ isBlank first = false ∧ first ≠ '<' := by
  unfold checkLocalPart at accepted
  split at accepted
  · rename_i quoted
    obtain ⟨rest, rfl⟩ := List.head?_eq_some_iff.1 quoted
    exact ⟨'"', rest, rfl, by decide, by decide⟩
  · obtain ⟨nonempty, atoms⟩ := checkDotString_ok_iff.1 accepted
    cases localPart with
    | nil => exact absurd rfl nonempty
    | cons first rest =>
        refine ⟨first, rest, rfl, ?_⟩
        rcases mem_splitOn_or '.' (List.mem_cons_self (a := first) (l := rest)) with
          rfl | ⟨atom, inAtoms, inAtom⟩
        · decide
        · have atomText := (atoms atom inAtoms).2 first inAtom
          simp only [isAtomText, Bool.or_eq_true, decide_eq_true_eq] at atomText
          rcases atomText with letDig | special
          · refine ⟨isBlank_of_isLetDig letDig, ?_⟩
            rintro rfl
            simp [isLetDig_iff] at letDig
          · have specials :
                ("!#$%&'*+-/=?^_\x60\x7b|\x7d~".toList.all fun character =>
                  !isBlank character && character ≠ '<') = true := by
              decide
            have shown := List.all_eq_true.1 specials first special
            simpa using shown

/-- The last character of a domain is no white space. -/
theorem getLast_of_checkDomain
    {domain : List Char} (accepted : checkDomain domain = .ok ()) :
    domain ≠ [] ∧ domain.getLast?.any isBlank = false := by
  unfold checkDomain at accepted
  split at accepted
  · obtain ⟨content, rfl, _⟩ := checkAddressLiteral_ok_iff.1 accepted
    have last : ('[' :: content ++ [']']).getLast? = some ']' := List.getLast?_concat
    have shown : isBlank ']' = false := by decide
    refine ⟨by simp, ?_⟩
    rw [last]
    exact shown
  · obtain ⟨nonempty, labels⟩ := checkDomainName_ok_iff.1 accepted
    refine ⟨nonempty, ?_⟩
    cases last : domain.getLast? with
    | none => rfl
    | some character =>
        have member : character ∈ domain := List.mem_of_getLast? last
        rcases mem_splitOn_or '.' member with rfl | ⟨label, inLabels, inLabel⟩
        · decide
        · have characters := (checkLabel_ok_iff.1 (labels label inLabels)).2.2
          exact isBlank_of_isLabelText (characters character inLabel)

theorem parseBare_eq_ok_iff {text localPart domain : List Char} :
    parseBare text = .ok (localPart, domain) ↔
      cutSeparator .start text = some (localPart, domain) ∧
        checkHalves localPart domain = .ok () := by
  unfold parseBare
  cases cut : cutSeparator .start text with
  | none => simp
  | some halves =>
      obtain ⟨before, behind⟩ := halves
      simp only [map_eq_ok_iff, Prod.mk.injEq, Option.some.injEq]
      constructor
      · rintro ⟨checked, passes, rfl, rfl⟩
        exact ⟨⟨rfl, rfl⟩, passes⟩
      · rintro ⟨⟨rfl, rfl⟩, passes⟩
        exact ⟨(), passes, rfl, rfl⟩

theorem mem_of_mem_unwrap
    {text inner : List Char} {character : Char}
    (unwrapped : unwrap text = .ok inner)
    (member : character ∈ inner) :
    character ∈ text := by
  unfold unwrap at unwrapped
  split at unwrapped
  · obtain rfl : text = inner := by simpa using unwrapped
    exact member
  · rename_i rest opened
    split at unwrapped
    · rename_i content closed
      obtain rfl : content = inner := by simpa using unwrapped
      rw [eq_append_of_dropInitial? opened, dropLast?_eq_some_iff.1 closed]
      simp [member]
    · simp at unwrapped

/-- Nothing without a separator is a mailbox. -/
theorem separator_mem_of_parseChars
    {text localPart domain : List Char}
    (parsed : parseChars text = .ok (localPart, domain)) :
    '@' ∈ text := by
  unfold parseChars at parsed
  dsimp only at parsed
  split at parsed
  · simp at parsed
  · obtain ⟨inner, unwrapped, bare⟩ := bind_eq_ok_iff.1 parsed
    obtain ⟨cut, _⟩ := parseBare_eq_ok_iff.1 bare
    have inInner : '@' ∈ inner := by
      rw [(cutSeparator_append cut domain).1]
      simp
    exact mem_of_mem_trimBlanks (mem_of_mem_unwrap unwrapped inInner)

/-- What has been read stood, after trimming, on both sides of its separator. -/
theorem parseBare_of_parseChars
    {text localPart domain : List Char}
    (parsed : parseChars text = .ok (localPart, domain)) :
    parseBare (localPart ++ '@' :: domain) = .ok (localPart, domain) := by
  unfold parseChars at parsed
  dsimp only at parsed
  split at parsed
  · simp at parsed
  · obtain ⟨inner, _, bare⟩ := bind_eq_ok_iff.1 parsed
    obtain ⟨cut, checked⟩ := parseBare_eq_ok_iff.1 bare
    exact parseBare_eq_ok_iff.2 ⟨(cutSeparator_append cut domain).2, checked⟩

/-- A mailbox does not end in white space. -/
theorem getLast_of_parseBare
    {text localPart domain : List Char}
    (parsed : parseBare text = .ok (localPart, domain)) :
    (localPart ++ '@' :: domain).getLast?.any isBlank = false := by
  obtain ⟨_, checked⟩ := parseBare_eq_ok_iff.1 parsed
  obtain ⟨_, _, _, domainChecked⟩ := checkHalves_ok_iff.1 checked
  obtain ⟨nonempty, lastShown⟩ := getLast_of_checkDomain domainChecked
  have last : (localPart ++ '@' :: domain).getLast? = domain.getLast? := by
    rw [List.getLast?_append, List.getLast?_cons]
    cases back : domain.getLast? with
    | none => exact absurd (List.getLast?_eq_none_iff.1 back) nonempty
    | some character => simp
  rw [last]
  exact lastShown

/-- A mailbox starts with neither white space nor a bracket. -/
theorem exists_head_of_parseBare
    {text localPart domain : List Char}
    (parsed : parseBare text = .ok (localPart, domain)) :
    ∃ first rest, localPart ++ '@' :: domain = first :: rest ∧ isBlank first = false ∧
      first ≠ '<' := by
  obtain ⟨_, checked⟩ := parseBare_eq_ok_iff.1 parsed
  obtain ⟨_, _, localChecked, _⟩ := checkHalves_ok_iff.1 checked
  obtain ⟨first, rest, rfl, shown, noBracket⟩ := head_of_checkLocalPart localChecked
  exact ⟨first, rest ++ '@' :: domain, rfl, shown, noBracket⟩

/-- Trimming leaves a mailbox as it is. -/
theorem trimBlanks_of_parseBare
    {text localPart domain : List Char}
    (parsed : parseBare text = .ok (localPart, domain)) :
    trimBlanks (localPart ++ '@' :: domain) = localPart ++ '@' :: domain := by
  obtain ⟨first, rest, starts, shown, _⟩ := exists_head_of_parseBare parsed
  refine trimBlanks_eq_self ?_ (getLast_of_parseBare parsed)
  rw [starts]
  simpa using shown

/-- A mailbox that is accepted without trimming is accepted with it. -/
theorem parseChars_of_parseBare
    {localPart domain : List Char}
    (parsed : parseBare (localPart ++ '@' :: domain) = .ok (localPart, domain)) :
    parseChars (localPart ++ '@' :: domain) = .ok (localPart, domain) := by
  have trimmed := trimBlanks_of_parseBare parsed
  obtain ⟨first, rest, starts, _, noBracket⟩ := exists_head_of_parseBare parsed
  have unwrapped : unwrap (first :: rest) = .ok (first :: rest) := by
    simp [unwrap, dropInitial?, Ne.symm noBracket]
  unfold parseChars
  rw [trimmed]
  rw [starts] at parsed ⊢
  simp only [List.isEmpty_cons, Bool.false_eq_true, if_false]
  rw [unwrapped]
  exact parsed

/-- Reading goes as well with the domain in lower case. -/
theorem parseBare_map_toLower
    {localPart domain : List Char}
    (parsed : parseBare (localPart ++ '@' :: domain) = .ok (localPart, domain)) :
    parseBare (localPart ++ '@' :: domain.map Char.toLower) =
      .ok (localPart, domain.map Char.toLower) := by
  obtain ⟨cut, checked⟩ := parseBare_eq_ok_iff.1 parsed
  obtain ⟨shortLocal, shortDomain, localChecked, domainChecked⟩ := checkHalves_ok_iff.1 checked
  refine parseBare_eq_ok_iff.2 ⟨(cutSeparator_append cut _).2, ?_⟩
  refine checkHalves_ok_iff.2 ⟨shortLocal, ?_, localChecked, ?_⟩
  · rw [octets_map_toLower]
    exact shortDomain
  · exact checkDomain_map_toLower domainChecked

end Mailbox

namespace Address

/-- Some text has been read as this address. -/
def IsParsed (address : Address) : Prop :=
  ∃ text, parse text = .ok address

/-- An address that was read has the parts of a mailbox. -/
theorem exists_parseBare
    {text : String} {address : Address}
    (parsed : parse text = .ok address) :
    ∃ localPart domain,
      Mailbox.parseBare (localPart ++ '@' :: domain) = .ok (localPart, domain) ∧
        address = ⟨String.ofList localPart, .ofString (String.ofList domain)⟩ := by
  obtain ⟨halves, mailbox, rfl⟩ := map_eq_ok_iff.1 parsed
  obtain ⟨⟨localPart, domain⟩, characters, rfl⟩ := map_eq_ok_iff.1 mailbox
  exact ⟨localPart, domain, Mailbox.parseBare_of_parseChars characters, rfl⟩

/-- An address that was read is written as a mailbox that is read as itself. -/
theorem IsParsed.exists_written
    {address : Address} (parsed : address.IsParsed) :
    ∃ localPart domain,
      Mailbox.parseBare (localPart ++ '@' :: domain) = .ok (localPart, domain) ∧
        address.text.toList = localPart ++ '@' :: domain ∧
        address = ⟨String.ofList localPart, .ofString (String.ofList domain)⟩ := by
  obtain ⟨text, read⟩ := parsed
  obtain ⟨localPart, domain, bare, rfl⟩ := exists_parseBare read
  have spelling :
      (Domain.ofString (String.ofList domain)).text = String.ofList (domain.map Char.toLower) := by
    simp [Domain.ofString]
  refine ⟨localPart, domain.map Char.toLower, Mailbox.parseBare_map_toLower bare, ?_, ?_⟩
  · simp [Address.text, spelling]
  · rw [← spelling, Domain.ofString_text]

theorem parse_of_parseChars
    {text : String} {localPart domain : List Char}
    (parsed : Mailbox.parseChars text.toList = .ok (localPart, domain)) :
    parse text = .ok ⟨String.ofList localPart, .ofString (String.ofList domain)⟩ := by
  unfold parse Mailbox.parse
  rw [parsed]
  rfl

/-- The written form of an address that was read is read as this address. -/
theorem IsParsed.parse_text
    {address : Address} (parsed : address.IsParsed) :
    parse address.text = .ok address := by
  obtain ⟨localPart, domain, bare, written, same⟩ := parsed.exists_written
  have characters := Mailbox.parseChars_of_parseBare bare
  rw [← written] at characters
  rw [parse_of_parseChars characters, ← same]

/-- The written form of an address that was read does not end in white space. -/
theorem IsParsed.getLast_text
    {address : Address} (parsed : address.IsParsed) :
    address.text.toList.getLast?.any isBlank = false := by
  obtain ⟨_, _, bare, written, _⟩ := parsed.exists_written
  rw [written]
  exact Mailbox.getLast_of_parseBare bare

theorem IsParsed.text_inj
    {left right : Address}
    (leftParsed : left.IsParsed) (rightParsed : right.IsParsed)
    (sameText : left.text = right.text) :
    left = right := by
  have read := leftParsed.parse_text
  rw [sameText, rightParsed.parse_text] at read
  simpa using read.symm

theorem isParsed_of_parse?
    {text : String} {address : Address}
    (read : parse? text = some address) :
    address.IsParsed := by
  refine ⟨text, ?_⟩
  unfold parse? at read
  cases outcome : parse text with
  | error fault => simp [outcome, Except.toOption] at read
  | ok found =>
      rw [outcome] at read
      simpa [Except.toOption] using read

theorem separator_mem_of_parse?
    {text : String} {address : Address}
    (read : parse? text = some address) :
    '@' ∈ text.toList := by
  unfold parse? at read
  cases outcome : parse text with
  | error fault => simp [outcome, Except.toOption] at read
  | ok found =>
      obtain ⟨_, mailbox, _⟩ := map_eq_ok_iff.1 outcome
      obtain ⟨⟨localPart, domain⟩, characters, _⟩ := map_eq_ok_iff.1 mailbox
      exact Mailbox.separator_mem_of_parseChars characters

end Address

end RecipientRewriting
