import RecipientRewriting.Proofs.Address.Grammar

/-!
# Lower case and the mailbox grammar

A domain is kept in lower case, but the grammar is checked on what was written.
Every class of characters that the grammar of domains knows holds a letter in
both cases or in neither, and no separator is a letter, so that whatever is
accepted as a domain is accepted in lower case as well.
-/

namespace RecipientRewriting

open Text

/-! ## Characters -/

/-- Only the letters from `A` to `Z` have another lower case. -/
theorem toLower_eq_or (character : Char) :
    character.toLower = character ∨
      (65 ≤ character.toNat ∧ character.toNat ≤ 90 ∧
        character.toLower.toNat = character.toNat + 32) := by
  unfold Char.toLower
  split
  · rename_i upper
    refine Or.inr ?_
    obtain ⟨atLeast, atMost⟩ := upper
    simp only [ge_iff_le, UInt32.le_iff_toNat_le] at atLeast atMost
    have bounds : 'A'.val.toNat = 65 ∧ 'Z'.val.toNat = 90 ∧ ('a'.val - 'A'.val).toNat = 32 := by
      decide
    simp only [Char.toNat, UInt32.toNat_add]
    omega
  · exact Or.inl rfl

theorem toLower_eq_iff
    {character other : Char}
    (noLetter : ¬ (65 ≤ other.toNat ∧ other.toNat ≤ 90) ∧
      ¬ (97 ≤ other.toNat ∧ other.toNat ≤ 122)) :
    character.toLower = other ↔ character = other := by
  rcases toLower_eq_or character with same | ⟨atLeast, atMost, shifted⟩
  · rw [same]
  · constructor
    · rintro rfl
      omega
    · rintro rfl
      omega

/-- Only letters change, and into letters. -/
theorem toLower_eq_or_isLetDig (character : Char) :
    character.toLower = character ∨
      Mailbox.isLetDig character = true ∧ Mailbox.isLetDig character.toLower = true := by
  rcases toLower_eq_or character with same | ⟨atLeast, atMost, shifted⟩
  · exact Or.inl same
  · rw [Mailbox.isLetDig_iff, Mailbox.isLetDig_iff]
    exact Or.inr ⟨by omega, by omega⟩

theorem isLetDig_toLower (character : Char) :
    Mailbox.isLetDig character.toLower = Mailbox.isLetDig character := by
  rcases toLower_eq_or_isLetDig character with same | ⟨upperLetter, lowerLetter⟩
  · rw [same]
  · rw [upperLetter, lowerLetter]

theorem isLabelText_toLower (character : Char) :
    Mailbox.isLabelText character.toLower = Mailbox.isLabelText character := by
  have hyphen : character.toLower = '-' ↔ character = '-' :=
    toLower_eq_iff (by decide)
  simp [Mailbox.isLabelText, isLetDig_toLower, hyphen]

theorem utf8Size_toLower (character : Char) :
    character.toLower.utf8Size = character.utf8Size := by
  rcases toLower_eq_or character with same | ⟨_, atMost, shifted⟩
  · rw [same]
  · have oneOctet : ∀ other : Char, other.toNat ≤ 127 → other.utf8Size = 1 := by
      intro other ascii
      simp [Char.utf8Size, UInt32.le_iff_toNat_le, ascii]
    rw [oneOctet character (by omega), oneOctet character.toLower (by omega)]

/-! ## Texts -/

@[simp]
theorem octets_map_toLower (text : List Char) :
    octets (text.map Char.toLower) = octets text := by
  induction text with
  | nil => rfl
  | cons character rest inductionHypothesis =>
      simp [inductionHypothesis, utf8Size_toLower]

theorem splitOn_map_toLower (text : List Char) :
    splitOn '.' (text.map Char.toLower) =
      (splitOn '.' text).map fun piece => piece.map Char.toLower := by
  induction text with
  | nil => rfl
  | cons character rest inductionHypothesis =>
      have dot : character.toLower = '.' ↔ character = '.' :=
        toLower_eq_iff (by decide)
      rw [List.map_cons, splitOn, splitOn, inductionHypothesis]
      by_cases isDot : character = '.'
      · simp [isDot]
      · simp only [dot, isDot, if_false]
        cases splitOn '.' rest <;> simp

theorem cutFirst_map_toLower (text : List Char) :
    cutFirst ':' (text.map Char.toLower) =
      (cutFirst ':' text).map fun (before, behind) =>
        (before.map Char.toLower, behind.map Char.toLower) := by
  induction text with
  | nil => rfl
  | cons character rest inductionHypothesis =>
      have colon : character.toLower = ':' ↔ character = ':' :=
        toLower_eq_iff (by decide)
      rw [List.map_cons, cutFirst, cutFirst, inductionHypothesis]
      by_cases isColon : character = ':'
      · simp [isColon]
      · simp only [colon, isColon, if_false]
        cases cutFirst ':' rest <;> simp

namespace Mailbox

/-! ## Domains -/

theorem checkLabel_map_toLower
    {label : List Char} (accepted : checkLabel label = .ok ()) :
    checkLabel (label.map Char.toLower) = .ok () := by
  rw [checkLabel_ok_iff] at accepted ⊢
  obtain ⟨front, back, characters⟩ := accepted
  refine ⟨?_, ?_, ?_⟩
  · simpa [List.head?_map, Option.any_map, Function.comp_def, isLetDig_toLower] using front
  · simpa [List.getLast?_map, Option.any_map, Function.comp_def, isLetDig_toLower] using back
  · intro lower member
    obtain ⟨character, original, rfl⟩ := List.mem_map.1 member
    rw [isLabelText_toLower]
    exact characters character original

theorem checkDomainName_map_toLower
    {text : List Char} (accepted : checkDomainName text = .ok ()) :
    checkDomainName (text.map Char.toLower) = .ok () := by
  rw [checkDomainName_ok_iff] at accepted ⊢
  obtain ⟨nonempty, labels⟩ := accepted
  refine ⟨by simpa using nonempty, ?_⟩
  intro lower member
  rw [splitOn_map_toLower] at member
  obtain ⟨label, original, rfl⟩ := List.mem_map.1 member
  exact checkLabel_map_toLower (labels label original)

/-- There is no letter in an IPv4 address. -/
theorem map_toLower_of_isIPv4
    {content : List Char} (valid : NetworkLiteral.isIPv4 content = true) :
    content.map Char.toLower = content := by
  have unchanged : ∀ character ∈ content, character.toLower = character := by
    intro character member
    rcases NetworkLiteral.isDigit_or_dot_of_isIPv4 valid character member with digit | rfl
    · rw [isDigit_iff] at digit
      rcases toLower_eq_or character with same | ⟨atLeast, _, _⟩
      · exact same
      · omega
    · decide
  calc
    content.map Char.toLower = content.map id := List.map_congr_left unchanged
    _ = content := List.map_id content

theorem isGeneralLiteral_map_toLower (content : List Char) :
    isGeneralLiteral (content.map Char.toLower) = isGeneralLiteral content := by
  unfold isGeneralLiteral
  rw [cutFirst_map_toLower]
  cases cutFirst ':' content <;> simp

theorem not_isIPv6_nil : NetworkLiteral.isIPv6 [] = false := by
  decide

/-- A literal of IPv6 loses its tag in lower case, but it has the form of a
literal of some other network then. -/
theorem isGeneralLiteral_of_isIPv6
    {content address : List Char}
    (tagged : dropInitial? "IPv6:".toList content = some address)
    (valid : NetworkLiteral.isIPv6 address = true) :
    isGeneralLiteral content = true := by
  have shape : content = "IPv6:".toList ++ address := eq_append_of_dropInitial? tagged
  have nonempty : address ≠ [] := by
    rintro rfl
    simp [not_isIPv6_nil] at valid
  have cut : cutFirst ':' content = some ("IPv6".toList, address) := by
    rw [shape]
    rfl
  simp [isGeneralLiteral, cut, nonempty]

theorem isLiteralContent_map_toLower
    {content : List Char} (valid : isLiteralContent content = true) :
    isLiteralContent (content.map Char.toLower) = true := by
  by_cases dotted : NetworkLiteral.isIPv4 content = true
  · rw [map_toLower_of_isIPv4 dotted]
    exact valid
  · have general : isGeneralLiteral content = true := by
      simp only [isLiteralContent, dotted, Bool.or_eq_true] at valid
      rcases valid with (impossible | tagged) | general
      · simp at impossible
      · obtain ⟨address, dropped, accepted⟩ := Option.any_eq_true _ _ |>.1 tagged
        exact isGeneralLiteral_of_isIPv6 dropped accepted
      · exact general
    simp [isLiteralContent, isGeneralLiteral_map_toLower, general]

theorem checkAddressLiteral_map_toLower
    {text : List Char} (accepted : checkAddressLiteral text = .ok ()) :
    checkAddressLiteral (text.map Char.toLower) = .ok () := by
  rw [checkAddressLiteral_ok_iff] at accepted ⊢
  obtain ⟨content, rfl, valid⟩ := accepted
  refine ⟨content.map Char.toLower, ?_, isLiteralContent_map_toLower valid⟩
  have opening : '['.toLower = '[' := by decide
  have closing : ']'.toLower = ']' := by decide
  simp [opening, closing]

/-- What is accepted as a domain is accepted in lower case. -/
theorem checkDomain_map_toLower
    {text : List Char} (accepted : checkDomain text = .ok ()) :
    checkDomain (text.map Char.toLower) = .ok () := by
  have bracket : (text.map Char.toLower).head? = some '[' ↔ text.head? = some '[' := by
    cases text with
    | nil => simp
    | cons first rest =>
        have same : first.toLower = '[' ↔ first = '[' := toLower_eq_iff (by decide)
        simp [same]
  unfold checkDomain at accepted ⊢
  by_cases literal : text.head? = some '['
  · rw [if_pos literal] at accepted
    rw [if_pos (bracket.2 literal)]
    exact checkAddressLiteral_map_toLower accepted
  · rw [if_neg literal] at accepted
    rw [if_neg (mt bracket.1 literal)]
    exact checkDomainName_map_toLower accepted

end Mailbox

end RecipientRewriting
