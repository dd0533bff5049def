import RecipientRewriting.Proofs.Address.Reading

/-!
# Address literals beside the standard

A literal that is tagged is accepted whatever its tag and value hold, also if the
tag announces an IPv6 address and there is none.  Apart from that, what is read is
what the standard allows: an address of one of the two networks, or a tag and a
value of visible characters.  So no character outside a quoted local part is
invisible, unless it stands in such a literal.
-/

namespace RecipientRewriting

open Text

/-! ## Characters of network addresses -/

namespace NetworkLiteral

/-- A character that the notations of network addresses use. -/
def IsNotation (character : Char) : Prop :=
  isHexDigit character = true ∨ character = '.' ∨ character = ':'

theorem isNotation_of_isIPv4
    {text : List Char} (valid : isIPv4 text = true) :
    ∀ character ∈ text, IsNotation character := by
  intro character member
  rcases isDigit_or_dot_of_isIPv4 valid character member with digit | dot
  · have hexadecimal : isHexDigit character = true := by
      unfold isHexDigit hexValue?
      rw [if_pos digit]
      rfl
    exact Or.inl hexadecimal
  · exact Or.inr (Or.inl dot)

theorem isNotation_of_isGroup
    {text : List Char} (valid : isGroup text = true) :
    ∀ character ∈ text, IsNotation character := by
  simp only [isGroup, Bool.and_eq_true, List.all_eq_true] at valid
  exact fun character member => Or.inl (valid.2 character member)

theorem isNotation_of_countGroups?
    {dotted : Bool} {fields : List (List Char)} {count : Nat}
    (counted : countGroups? dotted fields = some count) :
    ∀ field ∈ fields, ∀ character ∈ field, IsNotation character := by
  induction fields using countGroups?.induct dotted generalizing count with
  | case1 => simp
  | case2 field group =>
      exact List.forall_mem_singleton.2 (isNotation_of_isGroup group)
  | case3 field _ address =>
      exact List.forall_mem_singleton.2 (isNotation_of_isIPv4 (Bool.and_eq_true_iff.1 address).2)
  | case4 field noGroup noAddress =>
      rw [countGroups?, if_neg noGroup, if_neg noAddress] at counted
      cases counted
  | case5 field rest more group inductionHypothesis =>
      rw [countGroups?, if_pos group] at counted
      · obtain ⟨later, countedLater, _⟩ := Option.map_eq_some_iff.1 counted
        exact List.forall_mem_cons.2
          ⟨isNotation_of_isGroup group, inductionHypothesis countedLater⟩
      · exact more
  | case6 field rest more noGroup =>
      rw [countGroups?, if_neg noGroup] at counted
      · cases counted
      · exact more

theorem isNotation_of_groupsOf?
    {dotted : Bool} {text : List Char} {count : Nat}
    (counted : groupsOf? dotted text = some count) :
    ∀ character ∈ text, IsNotation character := by
  intro character member
  have nonempty : text.isEmpty = false := by
    cases text with
    | nil => cases member
    | cons first rest => rfl
  simp only [groupsOf?, nonempty, Bool.false_eq_true, if_false] at counted
  rcases mem_splitOn_or ':' member with rfl | ⟨field, inFields, inField⟩
  · exact Or.inr (Or.inr rfl)
  · exact isNotation_of_countGroups? counted field inFields character inField

theorem eq_append_of_cutElision
    {text before behind : List Char}
    (cut : cutElision text = some (before, behind)) :
    text = before ++ ':' :: ':' :: behind := by
  induction text using cutElision.induct generalizing before with
  | case1 rest =>
      obtain ⟨rfl, rfl⟩ := Prod.mk.inj (Option.some.inj cut)
      rfl
  | case2 character rest noElision inductionHypothesis =>
      rw [cutElision] at cut
      · obtain ⟨⟨initial, final⟩, found, written⟩ := Option.map_eq_some_iff.1 cut
        obtain ⟨rfl, rfl⟩ := Prod.mk.inj written
        rw [inductionHypothesis found, List.cons_append]
      · exact noElision
  | case3 => cases cut

theorem isNotation_of_isIPv6
    {text : List Char} (valid : isIPv6 text = true) :
    ∀ character ∈ text, IsNotation character := by
  unfold isIPv6 at valid
  cases cut : cutElision text with
  | none =>
      rw [cut] at valid
      exact isNotation_of_groupsOf? (of_decide_eq_true valid)
  | some halves =>
      obtain ⟨before, behind⟩ := halves
      rw [cut] at valid
      rw [eq_append_of_cutElision cut]
      dsimp only at valid
      split at valid
      · rename_i front back countedFront countedBack
        intro character member
        rcases List.mem_append.1 member with inFront | inBack
        · exact isNotation_of_groupsOf? countedFront character inFront
        · rcases List.mem_cons.1 inBack with rfl | inBack
          · exact Or.inr (Or.inr rfl)
          · rcases List.mem_cons.1 inBack with rfl | inBack
            · exact Or.inr (Or.inr rfl)
            · exact isNotation_of_groupsOf? countedBack character inBack
      · cases valid

end NetworkLiteral

namespace Mailbox

/-! ## The standard and what is beside it -/

/-- What the value of a tagged literal may hold: visible characters of ASCII
other than brackets and the backslash. -/
def isLiteralText (character : Char) : Bool :=
  isGraphic character && character ∉ ['[', '\\', ']']

/-- The tag of literals that hold an IPv6 address. -/
def addressTag : List Char :=
  "IPv6".toList

/-- What the standard allows between the brackets of a literal. -/
inductive StandardLiteral : List Char → Prop
  | dottedQuad {content : List Char} :
      IsDottedQuad content →
      StandardLiteral content
  | groups {address : List Char} :
      NetworkLiteral.isIPv6 address = true →
      StandardLiteral (addressTag ++ ':' :: address)
  | tagged {tag value : List Char} :
      tag ≠ [] →
      ':' ∉ tag →
      tag ≠ addressTag →
      (∀ character ∈ tag, isGraphic character = true) →
      value ≠ [] →
      (∀ character ∈ value, isLiteralText character = true) →
      StandardLiteral (tag ++ ':' :: value)

/-- What is accepted beside it: a value that is not the address it is said to be,
and a tag or a value with a character that has no place there. -/
inductive LaxLiteral : List Char → Prop
  | noAddress {value : List Char} :
      value ≠ [] →
      NetworkLiteral.isIPv6 value = false →
      LaxLiteral (addressTag ++ ':' :: value)
  | strayInTag {tag value : List Char} :
      ':' ∉ tag →
      (∃ character ∈ tag, isGraphic character = false) →
      value ≠ [] →
      LaxLiteral (tag ++ ':' :: value)
  | strayInValue {tag value : List Char} :
      tag ≠ [] →
      ':' ∉ tag →
      (∃ character ∈ value, isLiteralText character = false) →
      LaxLiteral (tag ++ ':' :: value)

theorem isGraphic_iff {character : Char} :
    isGraphic character = true ↔ 33 ≤ character.toNat ∧ character.toNat ≤ 126 :=
  @between_iff '!' '~' character

theorem isGraphic_of_isLiteralText
    {character : Char} (valid : isLiteralText character = true) :
    isGraphic character = true :=
  (Bool.and_eq_true_iff.1 valid).1

theorem isGraphic_of_isHexDigit
    {character : Char} (hexadecimal : isHexDigit character = true) :
    isGraphic character = true := by
  rw [isGraphic_iff]
  unfold isHexDigit hexValue? at hexadecimal
  split at hexadecimal
  · rename_i digit
    rw [isDigit_iff] at digit
    omega
  · split at hexadecimal
    · rename_i lower
      have bounds : 97 ≤ character.toNat ∧ character.toNat ≤ 102 := between_iff.1 lower
      omega
    · split at hexadecimal
      · rename_i upper
        have bounds : 65 ≤ character.toNat ∧ character.toNat ≤ 70 := between_iff.1 upper
        omega
      · cases hexadecimal

theorem isLiteralText_of_isNotation
    {character : Char} (notated : NetworkLiteral.IsNotation character) :
    isLiteralText character = true := by
  rcases notated with hexadecimal | rfl | rfl
  · have graphic := isGraphic_of_isHexDigit hexadecimal
    have elsewhere : character ∉ ['[', '\\', ']'] := by
      intro member
      simp only [List.mem_cons, List.not_mem_nil, or_false] at member
      rcases member with rfl | rfl | rfl <;> revert hexadecimal <;> decide
    simp [isLiteralText, graphic, elsewhere]
  · decide
  · decide

theorem colon_not_mem_addressTag : ':' ∉ addressTag := by
  decide

theorem visible_addressTag : ∀ character ∈ addressTag, isGraphic character = true :=
  List.all_eq_true.1 (by decide : addressTag.all isGraphic = true)

/-- Between brackets, whatever is accepted is either standard or not. -/
theorem literalContent_iff {content : List Char} :
    LiteralContent content ↔ StandardLiteral content ∨ LaxLiteral content := by
  constructor
  · intro accepted
    cases accepted with
    | dottedQuad dotted => exact Or.inl (.dottedQuad dotted)
    | @tagged tag value tagNonempty absent valueNonempty =>
        by_cases announced : tag = addressTag
        · subst announced
          cases address : NetworkLiteral.isIPv6 value with
          | true => exact Or.inl (.groups address)
          | false => exact Or.inr (.noAddress valueNonempty address)
        · by_cases visibleTag : ∀ character ∈ tag, isGraphic character = true
          · by_cases visibleValue : ∀ character ∈ value, isLiteralText character = true
            · exact Or.inl (.tagged tagNonempty absent announced visibleTag valueNonempty
                visibleValue)
            · exact Or.inr (.strayInValue tagNonempty absent (by simpa using visibleValue))
          · exact Or.inr (.strayInTag absent (by simpa using visibleTag) valueNonempty)
  · rintro (standard | lax)
    · cases standard with
      | dottedQuad dotted => exact .dottedQuad dotted
      | groups address =>
          refine .tagged (by decide) colon_not_mem_addressTag ?_
          rintro rfl
          rw [not_isIPv6_nil] at address
          cases address
      | tagged tagNonempty absent _ _ valueNonempty _ =>
          exact .tagged tagNonempty absent valueNonempty
    · cases lax with
      | noAddress valueNonempty _ =>
          exact .tagged (by decide) colon_not_mem_addressTag valueNonempty
      | strayInTag absent stray valueNonempty =>
          obtain ⟨_, member, _⟩ := stray
          exact .tagged (List.ne_nil_of_mem member) absent valueNonempty
      | strayInValue tagNonempty absent stray =>
          obtain ⟨_, member, _⟩ := stray
          exact .tagged tagNonempty absent (List.ne_nil_of_mem member)

/-- Tag and value are told apart in one way only. -/
theorem tagged_inj
    {tag value otherTag otherValue : List Char}
    (absent : ':' ∉ tag) (otherAbsent : ':' ∉ otherTag)
    (same : tag ++ ':' :: value = otherTag ++ ':' :: otherValue) :
    tag = otherTag ∧ value = otherValue := by
  have cut := cutFirst_append absent value
  rw [same, cutFirst_append otherAbsent] at cut
  obtain ⟨sameTag, sameValue⟩ := Prod.mk.inj (Option.some.inj cut)
  exact ⟨sameTag.symm, sameValue.symm⟩

theorem colon_not_mem_of_isDottedQuad
    {content : List Char} (dotted : IsDottedQuad content) : ':' ∉ content := by
  intro member
  rcases NetworkLiteral.isDigit_or_dot_of_isIPv4 (isIPv4_iff.2 dotted) ':' member with
    digit | dot
  · cases digit
  · cases dot

theorem LaxLiteral.exists_tagged
    {content : List Char} (lax : LaxLiteral content) :
    ∃ tag value, content = tag ++ ':' :: value ∧ ':' ∉ tag ∧
      (tag = addressTag ∧ NetworkLiteral.isIPv6 value = false ∨
        (∃ character ∈ tag, isGraphic character = false) ∨
          ∃ character ∈ value, isLiteralText character = false) := by
  cases lax with
  | @noAddress value _ invalid =>
      exact ⟨addressTag, value, rfl, colon_not_mem_addressTag, Or.inl ⟨rfl, invalid⟩⟩
  | @strayInTag tag value absent stray _ =>
      exact ⟨tag, value, rfl, absent, Or.inr (Or.inl stray)⟩
  | @strayInValue tag value _ absent stray =>
      exact ⟨tag, value, rfl, absent, Or.inr (Or.inr stray)⟩

theorem StandardLiteral.not_lax
    {content : List Char} (standard : StandardLiteral content) :
    ¬ LaxLiteral content := by
  intro lax
  obtain ⟨tag, value, shape, absent, reason⟩ := lax.exists_tagged
  -- The content has one tag and one value, so that each reason denies a premise.
  cases standard with
  | dottedQuad dotted =>
      refine colon_not_mem_of_isDottedQuad dotted ?_
      rw [shape]
      simp
  | @groups address valid =>
      obtain ⟨rfl, rfl⟩ := tagged_inj colon_not_mem_addressTag absent shape
      rcases reason with ⟨_, invalid⟩ | ⟨character, member, invisible⟩ | ⟨character, member, stray⟩
      · rw [valid] at invalid
        cases invalid
      · rw [visible_addressTag character member] at invisible
        cases invisible
      · have notated := NetworkLiteral.isNotation_of_isIPv6 valid character member
        rw [isLiteralText_of_isNotation notated] at stray
        cases stray
  | tagged _ otherAbsent unannounced visibleTag _ visibleValue =>
      obtain ⟨rfl, rfl⟩ := tagged_inj otherAbsent absent shape
      rcases reason with ⟨announced, _⟩ | ⟨character, member, invisible⟩ | ⟨character, member, stray⟩
      · exact unannounced announced
      · rw [visibleTag character member] at invisible
        cases invisible
      · rw [visibleValue character member] at stray
        cases stray

/-! ## Visible characters -/

theorem StandardLiteral.visible
    {content : List Char} (standard : StandardLiteral content) :
    ∀ character ∈ content, isGraphic character = true := by
  have notated : ∀ character, NetworkLiteral.IsNotation character →
      isGraphic character = true := fun character valid =>
    isGraphic_of_isLiteralText (isLiteralText_of_isNotation valid)
  intro character member
  cases standard with
  | dottedQuad dotted =>
      exact notated character
        (NetworkLiteral.isNotation_of_isIPv4 (isIPv4_iff.2 dotted) character member)
  | groups valid =>
      rcases List.mem_append.1 member with inTag | behind
      · exact visible_addressTag character inTag
      · rcases List.mem_cons.1 behind with rfl | inAddress
        · decide
        · exact notated character (NetworkLiteral.isNotation_of_isIPv6 valid character inAddress)
  | tagged _ _ _ visibleTag _ visibleValue =>
      rcases List.mem_append.1 member with inTag | behind
      · exact visibleTag character inTag
      · rcases List.mem_cons.1 behind with rfl | inValue
        · decide
        · exact isGraphic_of_isLiteralText (visibleValue character inValue)

theorem isGraphic_of_isLetDig
    {character : Char} (valid : isLetDig character = true) :
    isGraphic character = true := by
  rw [isLetDig_iff] at valid
  rw [isGraphic_iff]
  omega

theorem isGraphic_of_isLabelText
    {character : Char} (valid : isLabelText character = true) :
    isGraphic character = true := by
  simp only [isLabelText, Bool.or_eq_true, decide_eq_true_eq] at valid
  rcases valid with letDig | rfl
  · exact isGraphic_of_isLetDig letDig
  · decide

theorem isGraphic_of_isAtomText
    {character : Char} (valid : isAtomText character = true) :
    isGraphic character = true := by
  simp only [isAtomText, Bool.or_eq_true, decide_eq_true_eq] at valid
  rcases valid with letDig | special
  · exact isGraphic_of_isLetDig letDig
  · have specials :
        ("!#$%&'*+-/=?^_\x60\x7b|\x7d~".toList.all isGraphic) = true := by
      decide
    exact List.all_eq_true.1 specials character special

theorem IsLocalPart.visible
    {localPart : List Char} (derived : IsLocalPart localPart)
    (unquoted : localPart.head? ≠ some '"') :
    ∀ character ∈ localPart, isGraphic character = true := by
  cases derived with
  | dotString dotted =>
      refine dotted.forall_mem (by decide) fun atom isAtom character member => ?_
      exact isGraphic_of_isAtomText (isAtom.2 character member)
  | quotedString _ => exact absurd rfl unquoted

theorem IsDomain.visible
    {domain : List Char} (derived : IsDomain domain)
    (standard : ∀ content, domain = '[' :: content ++ [']'] → ¬ LaxLiteral content) :
    ∀ character ∈ domain, isGraphic character = true := by
  cases derived with
  | name dotted =>
      refine dotted.forall_mem (by decide) fun label isLabel character member => ?_
      exact isGraphic_of_isLabelText (isLabel.inside character member)
  | @literal content accepted =>
      have visible := ((literalContent_iff.1 accepted).resolve_right (standard content rfl)).visible
      intro character member
      simp only [List.cons_append, List.mem_cons, List.mem_append, List.not_mem_nil,
        or_false] at member
      rcases member with rfl | inContent | rfl
      · decide
      · exact visible character inContent
      · decide

/-! ## Literals that are read -/

theorem exists_literal_of_head
    {domain : List Char} (derived : IsDomain domain) (bracketed : domain.head? = some '[') :
    ∃ content, domain = '[' :: content ++ [']'] ∧ LiteralContent content := by
  cases derived with
  | name dotted => exact absurd bracketed (not_bracket_of_domainName dotted)
  | @literal content accepted => exact ⟨content, rfl, accepted⟩

theorem parse_literal
    {localPart content : List Char}
    (derived : IsLocalPart localPart)
    (short : octets localPart ≤ maxLocalPart)
    (accepted : LiteralContent content)
    (shortContent : octets content + 2 ≤ maxDomain) :
    parseChars (localPart ++ '@' :: ('[' :: content ++ [']'])) =
      .ok (localPart, '[' :: content ++ [']']) := by
  have size : octets ('[' :: content ++ [']']) = octets content + 2 := by
    have bracket : octets [']'] = 1 := rfl
    have opening : '['.utf8Size = 1 := rfl
    rw [octets_append, octets_cons, bracket, opening]
    omega
  refine parseChars_of_parseBare (parseBare_iff.2 ⟨rfl, derived, short, .literal accepted, ?_⟩)
  rw [size]
  exact shortContent

/-- The text between the brackets of a literal that is read is standard or lax, and
not both.  Where it is not lax, nothing in the domain is white space, a control
character or beyond ASCII, and never is anything in a local part that is not quoted.
Each standard and each lax literal that is not too long is read. -/
theorem literals_standard_unless_lax
    {text localPart domain : String} (read : parse text = .ok (localPart, domain)) :
    (domain.toList.head? = some '[' →
      ∃ content, domain.toList = '[' :: content ++ [']'] ∧
        (StandardLiteral content ↔ ¬ LaxLiteral content)) ∧
    ((∀ content, domain.toList = '[' :: content ++ [']'] → ¬ LaxLiteral content) →
      ∀ character ∈ domain.toList, isGraphic character = true) ∧
    (localPart.toList.head? ≠ some '"' →
      ∀ character ∈ localPart.toList, isGraphic character = true) ∧
    ∀ content : String, StandardLiteral content.toList ∨ LaxLiteral content.toList →
      octets content.toList + 2 ≤ maxDomain →
      parse (localPart ++ "@[" ++ content ++ "]") = .ok (localPart, "[" ++ content ++ "]") := by
  have isMailbox := (parse_iff.1 read).2
  refine ⟨fun bracketed => ?_, isMailbox.isDomain.visible, isMailbox.isLocalPart.visible,
    fun content accepted short => ?_⟩
  · obtain ⟨content, shape, accepted⟩ := exists_literal_of_head isMailbox.isDomain bracketed
    refine ⟨content, shape, StandardLiteral.not_lax, ?_⟩
    exact (literalContent_iff.1 accepted).resolve_right
  · have characters := parse_literal isMailbox.isLocalPart isMailbox.localPart_length
      (literalContent_iff.2 accepted) short
    refine parse_iff.2 ?_
    have written : (localPart ++ "@[" ++ content ++ "]").toList =
        localPart.toList ++ '@' :: ('[' :: content.toList ++ [']']) := by
      simp
    have domainWritten : ("[" ++ content ++ "]").toList = '[' :: content.toList ++ [']'] := by
      simp
    rw [written, domainWritten]
    exact parseChars_iff.1 characters

/-! ### Two tagged literals -/

/-- A literal is read that is said to hold an IPv6 address and holds a space and a
letter beyond ASCII instead. -/
theorem lax_literal_read :
    parse "user@[IPv6:é b]" = .ok ("user", "[IPv6:é b]") ∧
      LaxLiteral "IPv6:é b".toList ∧
      ¬ (∀ text localPart domain content, parse text = .ok (localPart, domain) →
        domain.toList = '[' :: content ++ [']'] → StandardLiteral content) ∧
      ¬ (∀ text localPart domain, parse text = .ok (localPart, domain) →
        localPart.toList.head? ≠ some '"' →
        ∀ character ∈ domain.toList, isGraphic character = true) := by
  have read : parse "user@[IPv6:é b]" = .ok ("user", "[IPv6:é b]") := by
    decide +kernel
  have lax : LaxLiteral "IPv6:é b".toList :=
    @LaxLiteral.noAddress "é b".toList (by decide) (by decide)
  refine ⟨read, lax, fun standard => ?_, fun visible => ?_⟩
  · exact (standard _ _ _ "IPv6:é b".toList read (by decide)).not_lax lax
  · exact absurd (visible _ _ _ read (by decide) ' ' (by decide)) (by decide)

/-- A standard literal with a separator in its value. -/
theorem tagged_literal_standard :
    parse "<first.last@[x-net:a@b!]>" = .ok ("first.last", "[x-net:a@b!]") ∧
      StandardLiteral "x-net:a@b!".toList ∧
      (∀ character ∈ "[x-net:a@b!]".toList, isGraphic character = true) ∧
      parse ("first.last" ++ "@[" ++ "IPv6:2001:db8::10.0.0.1" ++ "]") =
        .ok ("first.last", "[" ++ "IPv6:2001:db8::10.0.0.1" ++ "]") := by
  have read : parse "<first.last@[x-net:a@b!]>" = .ok ("first.last", "[x-net:a@b!]") := by
    decide +kernel
  have standard : StandardLiteral "x-net:a@b!".toList :=
    @StandardLiteral.tagged "x-net".toList "a@b!".toList (by decide) (by decide) (by decide)
      (List.all_eq_true.1 (by decide)) (by decide) (List.all_eq_true.1 (by decide))
  have sixth : StandardLiteral "IPv6:2001:db8::10.0.0.1".toList :=
    @StandardLiteral.groups "2001:db8::10.0.0.1".toList (by decide +kernel)
  obtain ⟨_, visible, _, accepted⟩ := literals_standard_unless_lax read
  refine ⟨read, standard, visible fun content shape => ?_,
    accepted "IPv6:2001:db8::10.0.0.1" (Or.inl sixth) (by decide)⟩
  have enclosed : '[' :: "x-net:a@b!".toList ++ [']'] = '[' :: content ++ [']'] := shape
  have same := (List.cons.inj (List.append_cancel_right enclosed)).2
  exact same ▸ standard.not_lax

end Mailbox

end RecipientRewriting
