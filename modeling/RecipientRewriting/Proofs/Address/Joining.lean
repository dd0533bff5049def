import RecipientRewriting.Proofs.Address.Reading

/-!
# Halves joined into one text

An address given in two halves is read from the text that they make together.  Behind
a local part the separator is found where the halves were joined, whatever the other
half holds, and only white space at its very end is trimmed.  So it depends on the
other half alone whether there is an address, and the local part comes back as it was
given.
-/

namespace RecipientRewriting

open Text

/-! ## White space behind a domain -/

theorem isBlank_toLower (character : Char) :
    isBlank character.toLower = isBlank character := by
  rcases toLower_eq_or_isLetDig character with same | ⟨upperLetter, lowerLetter⟩
  · rw [same]
  · rw [Mailbox.isBlank_of_isLetDig upperLetter, Mailbox.isBlank_of_isLetDig lowerLetter]

theorem dropBlanksEnd_map_toLower (text : List Char) :
    dropBlanksEnd (text.map Char.toLower) = (dropBlanksEnd text).map Char.toLower := by
  have same : isBlank ∘ Char.toLower = isBlank := funext isBlank_toLower
  unfold dropBlanksEnd
  rw [← List.map_reverse, List.dropWhile_map, same, List.map_reverse]

def Text.trimEnd (text : String) : String :=
  String.ofList (dropBlanksEnd text.toList)

/-- A text that may follow a separator: without the white space at its end it is short
enough, and passes for a domain in lower case. -/
structure Domain.IsSpelling (text : String) : Prop where
  length : octets (trimEnd text).toList ≤ Mailbox.maxDomain
  accepted : Mailbox.checkDomain (ofString (trimEnd text)).text.toList = .ok ()

namespace Domain

theorem toList_trimEnd (text : String) :
    (ofString (trimEnd text)).text.toList = dropBlanksEnd (ofString text).text.toList := by
  simp [ofString, trimEnd, dropBlanksEnd_map_toLower]

theorem octets_trimEnd (text : String) :
    octets (trimEnd text).toList = octets (dropBlanksEnd (ofString text).text.toList) := by
  rw [← toList_trimEnd]
  simp [ofString]

/-- It makes no difference whether the lower case is taken before trimming. -/
theorem isSpelling_iff {text : String} :
    IsSpelling text ↔
      octets (dropBlanksEnd (ofString text).text.toList) ≤ Mailbox.maxDomain ∧
        Mailbox.checkDomain (dropBlanksEnd (ofString text).text.toList) = .ok () := by
  rw [← octets_trimEnd, ← toList_trimEnd]
  constructor
  · rintro ⟨length, accepted⟩
    exact ⟨length, accepted⟩
  · rintro ⟨length, accepted⟩
    exact ⟨length, accepted⟩

end Domain

/-! ## Reading joined halves -/

namespace Mailbox

variable {localPart : List Char}

theorem trimBlanks_joined (derived : IsLocalPart localPart) (domain : List Char) :
    trimBlanks (localPart ++ '@' :: domain) = localPart ++ '@' :: dropBlanksEnd domain := by
  obtain ⟨first, rest, rfl, shown, _⟩ := head_of_checkLocalPart (checkLocalPart_iff.2 derived)
  have front : dropBlanks (first :: rest ++ '@' :: domain) = first :: rest ++ '@' :: domain :=
    dropBlanks_eq_self shown
  have regrouped (behind : List Char) :
      first :: rest ++ '@' :: behind = (first :: rest ++ ['@']) ++ behind := by
    simp
  -- Trimming stops at the separator at the latest.
  have separatorShown : (first :: rest ++ ['@']).getLast?.any isBlank = false := by
    rw [List.getLast?_concat]
    decide
  rw [trimBlanks, front, regrouped domain, regrouped (dropBlanksEnd domain),
    dropBlanksEnd_append_of_shown separatorShown]

theorem unwrap_joined (derived : IsLocalPart localPart) (domain : List Char) :
    unwrap (localPart ++ '@' :: domain) = .ok (localPart ++ '@' :: domain) := by
  obtain ⟨first, rest, rfl, _, noBracket⟩ :=
    head_of_checkLocalPart (checkLocalPart_iff.2 derived)
  simp [unwrap, dropInitial?, Ne.symm noBracket]

/-- Whatever is joined to a local part is read as its domain, up to the white space
at the end. -/
theorem parseChars_joined (derived : IsLocalPart localPart) (domain : List Char) :
    parseChars (localPart ++ '@' :: domain) =
      (checkHalves localPart (dropBlanksEnd domain)).map fun _ =>
        (localPart, dropBlanksEnd domain) := by
  have nonempty : (localPart ++ '@' :: dropBlanksEnd domain).isEmpty = false := by
    simp
  unfold parseChars
  rw [trimBlanks_joined derived]
  dsimp only
  rw [nonempty, unwrap_joined derived]
  change parseBare (localPart ++ '@' :: dropBlanksEnd domain) = _
  unfold parseBare
  rw [cutSeparator_of_isLocalPart derived]

theorem parseChars_joined_iff
    {domain foundLocal foundDomain : List Char}
    (derived : IsLocalPart localPart)
    (short : octets localPart ≤ maxLocalPart) :
    parseChars (localPart ++ '@' :: domain) = .ok (foundLocal, foundDomain) ↔
      (octets foundDomain ≤ maxDomain ∧ checkDomain foundDomain = .ok ()) ∧
        foundLocal = localPart ∧ foundDomain = dropBlanksEnd domain := by
  rw [parseChars_joined derived, map_eq_ok_iff]
  constructor
  · rintro ⟨_, checked, same⟩
    obtain ⟨rfl, rfl⟩ := Prod.mk.inj same
    obtain ⟨_, shortDomain, _, domainChecked⟩ := checkHalves_ok_iff.1 checked
    exact ⟨⟨shortDomain, domainChecked⟩, rfl, rfl⟩
  · rintro ⟨⟨shortDomain, domainChecked⟩, rfl, rfl⟩
    have checked := checkHalves_ok_iff.2
      ⟨short, shortDomain, checkLocalPart_iff.2 derived, domainChecked⟩
    exact ⟨(), checked, rfl⟩

end Mailbox

namespace Address

variable {address moved : Address}

@[simp]
theorem localPart_withDomain (address : Address) (domain : Domain) :
    (address.withDomain domain).localPart = address.localPart :=
  rfl

@[simp]
theorem domain_withDomain (address : Address) (domain : Domain) :
    (address.withDomain domain).domain = domain :=
  rfl

theorem IsParsed.isLocalPart (parsed : address.IsParsed) :
    Mailbox.IsLocalPart address.localPart.toList ∧
      octets address.localPart.toList ≤ Mailbox.maxLocalPart := by
  obtain ⟨localPart, domain, bare, _, rfl⟩ := parsed.exists_written
  have isMailbox := (Mailbox.parseBare_iff.1 bare).2
  rw [String.toList_ofList]
  exact ⟨isMailbox.isLocalPart, isMailbox.localPart_length⟩

/-- The local part of an address that was read makes an address of a text exactly if
the text spells a domain, and then it is the local part of that address. -/
theorem IsParsed.ofParts_iff (parsed : address.IsParsed) (target : String) :
    ofParts address.localPart (.ofString target) = .ok moved ↔
      Domain.IsSpelling target ∧ moved = address.withDomain (.ofString (trimEnd target)) := by
  obtain ⟨derived, short⟩ := parsed.isLocalPart
  have joined : (address.localPart ++ "@" ++ (Domain.ofString target).text).toList =
      address.localPart.toList ++ '@' :: (Domain.ofString target).text.toList := by
    simp
  have moves : address.withDomain (.ofString (trimEnd target)) =
      ⟨String.ofList address.localPart.toList,
        .ofString (String.ofList (dropBlanksEnd (Domain.ofString target).text.toList))⟩ := by
    rw [← Domain.toList_trimEnd, String.ofList_toList, String.ofList_toList,
      Domain.ofString_text]
    rfl
  unfold ofParts parse Mailbox.parse
  rw [joined, moves, Domain.isSpelling_iff]
  simp only [map_eq_ok_iff, Prod.exists, Mailbox.parseChars_joined_iff derived short]
  constructor
  · rintro ⟨_, _, ⟨_, _, ⟨spelling, rfl, rfl⟩, same⟩, rfl⟩
    obtain ⟨rfl, rfl⟩ := Prod.mk.inj same
    exact ⟨spelling, rfl⟩
  · rintro ⟨spelling, rfl⟩
    exact ⟨_, _, ⟨_, _, ⟨spelling, rfl, rfl⟩, rfl⟩, rfl⟩

/-- The domain of an address that was read is spelled by its own text. -/
theorem IsParsed.domain_spelled (parsed : address.IsParsed) :
    Domain.IsSpelling address.domain.text ∧
      Domain.ofString (trimEnd address.domain.text) = address.domain := by
  have read : ofParts address.localPart (.ofString address.domain.text) = .ok address := by
    rw [Domain.ofString_text]
    exact parsed.parse_text
  obtain ⟨spelling, same⟩ := (parsed.ofParts_iff _).1 read
  have sameDomain := congrArg Address.domain same
  rw [domain_withDomain] at sameDomain
  exact ⟨spelling, sameDomain.symm⟩

end Address

end RecipientRewriting
