import RecipientRewriting.Proofs.Address.Casing

/-!
# The language of mailboxes

The mailbox grammar on its own, without the checks and without the scan for the
separator: dot strings, quoted strings, domain names and address literals.  The
checks accept exactly the parts that the grammar derives.
-/

namespace RecipientRewriting

open Text

/-! ## Pieces between separators -/

theorem Text.splitOn_of_not_mem
    {separator : Char} {text : List Char} (absent : separator ∉ text) :
    splitOn separator text = [text] := by
  induction text with
  | nil => rfl
  | cons character rest inductionHypothesis =>
      have different : character ≠ separator := fun same => absent (by simp [same])
      have later := inductionHypothesis fun member => absent (List.mem_cons_of_mem _ member)
      rw [splitOn, if_neg different, later]

theorem Text.splitOn_append
    {separator : Char} {piece : List Char}
    (absent : separator ∉ piece) (rest : List Char) :
    splitOn separator (piece ++ separator :: rest) = piece :: splitOn separator rest := by
  induction piece with
  | nil => simp [splitOn]
  | cons character piece inductionHypothesis =>
      have different : character ≠ separator := fun same => absent (by simp [same])
      have later := inductionHypothesis fun member => absent (List.mem_cons_of_mem _ member)
      rw [List.cons_append, splitOn, if_neg different, later]

namespace Mailbox

/-- Pieces of some form, joined by dots. -/
inductive Dotted (form : List Char → Prop) : List Char → Prop
  | single {piece : List Char} :
      form piece →
      Dotted form piece
  | cons {piece rest : List Char} :
      form piece →
      Dotted form rest →
      Dotted form (piece ++ '.' :: rest)

section Dotted

variable {form : List Char → Prop}

theorem dotted_intercalate
    {piece : List Char} {pieces : List (List Char)}
    (formed : ∀ item ∈ piece :: pieces, form item) :
    Dotted form (List.intercalate ['.'] (piece :: pieces)) := by
  induction pieces generalizing piece with
  | nil =>
      have whole : List.intercalate ['.'] [piece] = piece := by simp
      rw [whole]
      exact .single (formed piece List.mem_cons_self)
  | cons next rest inductionHypothesis =>
      have joined : List.intercalate ['.'] (piece :: next :: rest) =
          piece ++ '.' :: List.intercalate ['.'] (next :: rest) := by
        simp [List.intercalate]
      have later := inductionHypothesis fun item member =>
        formed item (List.mem_cons_of_mem piece member)
      rw [joined]
      exact .cons (formed piece List.mem_cons_self) later

/-- A text is made of pieces without dots exactly if it falls into such pieces
at its dots. -/
theorem dotted_iff
    {text : List Char}
    (undotted : ∀ piece, form piece → '.' ∉ piece) :
    Dotted form text ↔ ∀ piece ∈ splitOn '.' text, form piece := by
  constructor
  · intro dotted
    induction dotted with
    | @single piece formed =>
        rw [splitOn_of_not_mem (undotted piece formed)]
        simpa using formed
    | @cons piece rest formed _ inductionHypothesis =>
        rw [splitOn_append (undotted piece formed)]
        exact List.forall_mem_cons.2 ⟨formed, inductionHypothesis⟩
  · intro formed
    rw [← intercalate_splitOn '.' text]
    cases pieces : splitOn '.' text with
    | nil => exact absurd pieces (splitOn_ne_nil '.' text)
    | cons piece others =>
        rw [pieces] at formed
        exact dotted_intercalate formed

/-- What holds of the dot and of all characters of the pieces holds of the whole
text. -/
theorem Dotted.forall_mem
    {text : List Char} {property : Char → Prop}
    (dotted : Dotted form text)
    (dot : property '.')
    (inside : ∀ piece, form piece → ∀ character ∈ piece, property character) :
    ∀ character ∈ text, property character := by
  induction dotted with
  | @single piece formed => exact inside piece formed
  | @cons piece rest formed _ inductionHypothesis =>
      intro character member
      rcases List.mem_append.1 member with inPiece | behind
      · exact inside piece formed character inPiece
      · rcases List.mem_cons.1 behind with rfl | later
        · exact dot
        · exact inductionHypothesis character later

end Dotted

/-! ## Local parts -/

/-- An atom: characters of atoms, at least one. -/
def IsAtom (text : List Char) : Prop :=
  text ≠ [] ∧ ∀ character ∈ text, isAtomText character = true

/-- What stands between the quotes of a quoted string: plain characters, and
pairs of a backslash and a visible character or space. -/
inductive QuotedContent : List Char → Prop
  | nil : QuotedContent []
  | plain {character : Char} {rest : List Char} :
      isQuotedText character = true →
      QuotedContent rest →
      QuotedContent (character :: rest)
  | pair {character : Char} {rest : List Char} :
      isQuotable character = true →
      QuotedContent rest →
      QuotedContent ('\\' :: character :: rest)

/-- A local part is a dot string or a quoted string. -/
inductive IsLocalPart : List Char → Prop
  | dotString {text : List Char} :
      Dotted IsAtom text →
      IsLocalPart text
  | quotedString {content : List Char} :
      QuotedContent content →
      IsLocalPart ('"' :: content ++ ['"'])

theorem isAtomText_dot : isAtomText '.' = false := by
  decide

theorem isAtomText_quote : isAtomText '"' = false := by
  decide

theorem isQuotedText_backslash : isQuotedText '\\' = false := by
  decide

theorem IsAtom.undotted {text : List Char} (atom : IsAtom text) : '.' ∉ text := by
  intro member
  have valid := atom.2 '.' member
  rw [isAtomText_dot] at valid
  cases valid

theorem checkDotString_iff {text : List Char} :
    checkDotString text = .ok () ↔ Dotted IsAtom text := by
  rw [checkDotString_ok_iff, dotted_iff fun piece => IsAtom.undotted]
  constructor
  · rintro ⟨_, atoms⟩
    exact atoms
  · intro atoms
    refine ⟨?_, atoms⟩
    rintro rfl
    exact (atoms [] (by simp [splitOn])).1 rfl

theorem checkQuotedContent_iff {content : List Char} :
    checkQuotedContent content = .ok () ↔ QuotedContent content := by
  constructor
  · intro accepted
    induction content using checkQuotedContent.induct with
    | case1 => exact .nil
    | case2 => simp [checkQuotedContent] at accepted
    | case3 character rest quotable inductionHypothesis =>
        rw [checkQuotedContent, if_pos quotable] at accepted
        exact .pair quotable (inductionHypothesis accepted)
    | case4 character rest notQuotable =>
        rw [checkQuotedContent, if_neg notQuotable] at accepted
        cases accepted
    | case5 character rest _ _ plain inductionHypothesis =>
        rw [checkQuotedContent, if_pos plain] at accepted
        · exact .plain plain (inductionHypothesis accepted)
        · assumption
        · assumption
    | case6 character rest _ _ notPlain =>
        rw [checkQuotedContent, if_neg notPlain] at accepted
        · cases accepted
        · assumption
        · assumption
  · intro derived
    induction derived with
    | nil => rfl
    | @plain character rest plain _ inductionHypothesis =>
        have unescaped : character ≠ '\\' := by
          rintro rfl
          rw [isQuotedText_backslash] at plain
          cases plain
        rw [checkQuotedContent, if_pos plain]
        · exact inductionHypothesis
        · intro isBackslash
          exact absurd isBackslash unescaped
        · intro other rest isBackslash
          exact absurd isBackslash unescaped
    | @pair character rest quotable _ inductionHypothesis =>
        rw [checkQuotedContent, if_pos quotable]
        exact inductionHypothesis

theorem checkQuotedString_iff {text : List Char} :
    checkQuotedString text = .ok () ↔
      ∃ content, text = '"' :: content ++ ['"'] ∧ QuotedContent content := by
  unfold checkQuotedString
  constructor
  · intro accepted
    split at accepted
    · rename_i content enclosed
      obtain ⟨rest, opened, closed⟩ := Option.bind_eq_some_iff.1 enclosed
      rw [dropInitial?_eq_some_iff] at opened
      rw [dropLast?_eq_some_iff] at closed
      exact ⟨content, by simp [opened, closed], checkQuotedContent_iff.1 accepted⟩
    · cases accepted
  · rintro ⟨content, rfl, derived⟩
    have opened : dropInitial? ['"'] ('"' :: content ++ ['"']) = some (content ++ ['"']) :=
      dropInitial?_eq_some_iff.2 rfl
    have closed : dropLast? '"' (content ++ ['"']) = some content :=
      dropLast?_eq_some_iff.2 rfl
    rw [opened, Option.bind_some, closed]
    exact checkQuotedContent_iff.2 derived

theorem not_quote_of_dotString
    {text : List Char} (dotted : Dotted IsAtom text) :
    text.head? ≠ some '"' := by
  intro starts
  have unquoted : ∀ character ∈ text, character ≠ '"' := by
    refine dotted.forall_mem (by decide) ?_
    rintro piece atom character member rfl
    have valid := atom.2 '"' member
    rw [isAtomText_quote] at valid
    cases valid
  exact unquoted '"' (List.mem_of_mem_head? starts) rfl

theorem checkLocalPart_iff {text : List Char} :
    checkLocalPart text = .ok () ↔ IsLocalPart text := by
  unfold checkLocalPart
  constructor
  · intro accepted
    by_cases quoted : text.head? = some '"'
    · rw [if_pos quoted] at accepted
      obtain ⟨content, rfl, derived⟩ := checkQuotedString_iff.1 accepted
      exact .quotedString derived
    · rw [if_neg quoted] at accepted
      exact .dotString (checkDotString_iff.1 accepted)
  · intro derived
    cases derived with
    | dotString dotted =>
        rw [if_neg (not_quote_of_dotString dotted)]
        exact checkDotString_iff.2 dotted
    | @quotedString content inside =>
        have quoted : ('"' :: content ++ ['"']).head? = some '"' := rfl
        rw [if_pos quoted]
        exact checkQuotedString_iff.2 ⟨content, rfl, inside⟩

/-! ## Domains -/

/-- A label: letters, digits and hyphens, with a letter or digit at both ends. -/
structure IsLabel (text : List Char) : Prop where
  first : ∃ character rest, text = character :: rest ∧ isLetDig character = true
  last : ∃ initial character, text = initial ++ [character] ∧ isLetDig character = true
  inside : ∀ character ∈ text, isLabelText character = true

/-- Four numbers from 0 to 255 in decimal notation, joined by dots. -/
def IsDottedQuad (text : List Char) : Prop :=
  ∃ first second third fourth : Fin 256,
    text = Nat.toDigits 10 first ++ '.' :: Nat.toDigits 10 second ++
      '.' :: Nat.toDigits 10 third ++ '.' :: Nat.toDigits 10 fourth

inductive LiteralContent : List Char → Prop
  | dottedQuad {content : List Char} :
      IsDottedQuad content →
      LiteralContent content
  | tagged {tag value : List Char} :
      tag ≠ [] →
      ':' ∉ tag →
      value ≠ [] →
      LiteralContent (tag ++ ':' :: value)

inductive IsDomain : List Char → Prop
  | name {text : List Char} :
      Dotted IsLabel text →
      IsDomain text
  | literal {content : List Char} :
      LiteralContent content →
      IsDomain ('[' :: content ++ [']'])

theorem checkLabel_iff {text : List Char} :
    checkLabel text = .ok () ↔ IsLabel text := by
  rw [checkLabel_ok_iff]
  constructor
  · rintro ⟨front, back, inside⟩
    obtain ⟨first, isFirst, firstValid⟩ := Option.any_eq_true _ _ |>.1 front
    obtain ⟨last, isLast, lastValid⟩ := Option.any_eq_true _ _ |>.1 back
    obtain ⟨rest, shape⟩ := List.head?_eq_some_iff.1 isFirst
    obtain ⟨initial, sameShape⟩ := List.getLast?_eq_some_iff.1 isLast
    exact ⟨⟨first, rest, shape, firstValid⟩, ⟨initial, last, sameShape, lastValid⟩, inside⟩
  · rintro ⟨⟨first, rest, shape, firstValid⟩, ⟨initial, last, sameShape, lastValid⟩, inside⟩
    refine ⟨?_, ?_, inside⟩
    · rw [shape]
      exact firstValid
    · rw [sameShape, List.getLast?_concat]
      exact lastValid

theorem isLabelText_dot : isLabelText '.' = false := by
  decide

theorem isLabelText_bracket : isLabelText '[' = false := by
  decide

theorem IsLabel.undotted {text : List Char} (label : IsLabel text) : '.' ∉ text := by
  intro member
  have valid := label.inside '.' member
  rw [isLabelText_dot] at valid
  cases valid

theorem checkDomainName_iff {text : List Char} :
    checkDomainName text = .ok () ↔ Dotted IsLabel text := by
  rw [checkDomainName_ok_iff, dotted_iff fun piece => IsLabel.undotted]
  simp only [checkLabel_iff]
  constructor
  · rintro ⟨_, labels⟩
    exact labels
  · intro labels
    refine ⟨?_, labels⟩
    rintro rfl
    obtain ⟨_, _, impossible, _⟩ := (labels [] (by simp [splitOn])).first
    cases impossible

/-! ### Address literals -/

theorem exists_digitChar
    {character : Char} (digit : character.isDigit = true) :
    ∃ value : Fin 10, character = Nat.digitChar value := by
  obtain ⟨atLeast, atMost⟩ := isDigit_iff.1 digit
  refine ⟨⟨character.toNat - 48, by omega⟩, ?_⟩
  have all : ∀ value : Fin 10, Nat.digitChar value = Char.ofNat (value + 48) := by
    decide
  rw [all]
  have restored : character.toNat - 48 + 48 = character.toNat := by omega
  rw [restored, Char.ofNat_toNat]

/-- A number from 0 to 255 is accepted only as it is written. -/
theorem toDigits_of_isDecimalOctet
    {text : List Char} (valid : NetworkLiteral.isDecimalOctet text = true) :
    Nat.toDigits 10 (decimalValue text) = text ∧ decimalValue text < 256 := by
  have parts := valid
  simp only [NetworkLiteral.isDecimalOctet, Bool.and_eq_true, List.all_eq_true,
    decide_eq_true_eq] at parts
  obtain ⟨⟨⟨⟨nonempty, short⟩, digits⟩, small⟩, _⟩ := parts
  refine ⟨?_, by omega⟩
  clear small
  rcases text with _ | ⟨first, _ | ⟨second, _ | ⟨third, _ | ⟨fourth, rest⟩⟩⟩⟩
  · simp at nonempty
  · obtain ⟨firstValue, rfl⟩ := exists_digitChar (digits first (by simp))
    clear nonempty short digits valid
    revert firstValue
    decide +kernel
  · obtain ⟨firstValue, rfl⟩ := exists_digitChar (digits first (by simp))
    obtain ⟨secondValue, rfl⟩ := exists_digitChar (digits second (by simp))
    clear nonempty short digits
    revert firstValue secondValue
    decide +kernel
  · obtain ⟨firstValue, rfl⟩ := exists_digitChar (digits first (by simp))
    obtain ⟨secondValue, rfl⟩ := exists_digitChar (digits second (by simp))
    obtain ⟨thirdValue, rfl⟩ := exists_digitChar (digits third (by simp))
    clear nonempty short digits
    revert firstValue secondValue thirdValue
    decide +kernel
  · simp only [List.length_cons] at short
    omega

theorem isDecimalOctet_toDigits :
    ∀ value : Fin 256, NetworkLiteral.isDecimalOctet (Nat.toDigits 10 value) = true := by
  decide +kernel

theorem exists_toDigits
    {text : List Char} (valid : NetworkLiteral.isDecimalOctet text = true) :
    ∃ value : Fin 256, text = Nat.toDigits 10 value := by
  obtain ⟨written, small⟩ := toDigits_of_isDecimalOctet valid
  exact ⟨⟨decimalValue text, small⟩, written.symm⟩

theorem dot_not_mem_toDigits (value : Fin 256) : '.' ∉ Nat.toDigits 10 value := by
  have valid := isDecimalOctet_toDigits value
  simp only [NetworkLiteral.isDecimalOctet, Bool.and_eq_true, List.all_eq_true] at valid
  intro member
  have digit := valid.1.1.2 '.' member
  have noDigit : Char.isDigit '.' = false := by decide
  rw [noDigit] at digit
  cases digit

theorem exists_four
    {fields : List (List Char)} (four : fields.length = 4) :
    ∃ first second third fourth, fields = [first, second, third, fourth] := by
  rcases fields with _ | ⟨first, _ | ⟨second, _ | ⟨third, _ | ⟨fourth, _ | ⟨fifth, rest⟩⟩⟩⟩⟩
  case cons.cons.cons.cons.nil => exact ⟨first, second, third, fourth, rfl⟩
  all_goals
    simp only [List.length_cons, List.length_nil] at four
    omega

theorem isIPv4_iff {text : List Char} :
    NetworkLiteral.isIPv4 text = true ↔ IsDottedQuad text := by
  constructor
  · intro valid
    simp only [NetworkLiteral.isIPv4, Bool.and_eq_true, decide_eq_true_eq,
      List.all_eq_true] at valid
    obtain ⟨four, numbers⟩ := valid
    obtain ⟨first, second, third, fourth, fields⟩ := exists_four four
    rw [fields] at numbers
    obtain ⟨firstValue, rfl⟩ := exists_toDigits (numbers first (by simp))
    obtain ⟨secondValue, rfl⟩ := exists_toDigits (numbers second (by simp))
    obtain ⟨thirdValue, rfl⟩ := exists_toDigits (numbers third (by simp))
    obtain ⟨fourthValue, rfl⟩ := exists_toDigits (numbers fourth (by simp))
    refine ⟨firstValue, secondValue, thirdValue, fourthValue, ?_⟩
    have joined := intercalate_splitOn '.' text
    rw [fields] at joined
    rw [← joined]
    simp [List.intercalate]
  · rintro ⟨first, second, third, fourth, rfl⟩
    have fields : splitOn '.' (Nat.toDigits 10 first ++ '.' :: Nat.toDigits 10 second ++
        '.' :: Nat.toDigits 10 third ++ '.' :: Nat.toDigits 10 fourth) =
        [Nat.toDigits 10 first, Nat.toDigits 10 second, Nat.toDigits 10 third,
          Nat.toDigits 10 fourth] := by
      simp only [List.append_assoc, List.cons_append]
      rw [splitOn_append (dot_not_mem_toDigits first), splitOn_append (dot_not_mem_toDigits second),
        splitOn_append (dot_not_mem_toDigits third),
        splitOn_of_not_mem (dot_not_mem_toDigits fourth)]
    unfold NetworkLiteral.isIPv4
    rw [fields]
    simp [isDecimalOctet_toDigits]

theorem cutFirst_append
    {separator : Char} {before : List Char}
    (absent : separator ∉ before) (behind : List Char) :
    cutFirst separator (before ++ separator :: behind) = some (before, behind) := by
  induction before with
  | nil => simp [cutFirst]
  | cons character before inductionHypothesis =>
      have different : character ≠ separator := fun same => absent (by simp [same])
      have later := inductionHypothesis fun member => absent (List.mem_cons_of_mem _ member)
      rw [List.cons_append, cutFirst, if_neg different, later]
      rfl

theorem isGeneralLiteral_iff {content : List Char} :
    isGeneralLiteral content = true ↔
      ∃ tag value, content = tag ++ ':' :: value ∧ tag ≠ [] ∧ ':' ∉ tag ∧ value ≠ [] := by
  unfold isGeneralLiteral
  constructor
  · intro valid
    cases cut : cutFirst ':' content with
    | none => simp [cut] at valid
    | some halves =>
        obtain ⟨tag, value⟩ := halves
        obtain ⟨shape, absent⟩ := cutFirst_eq_some cut
        have nonempty : tag ≠ [] ∧ value ≠ [] := by simpa [cut] using valid
        exact ⟨tag, value, shape, nonempty.1, absent, nonempty.2⟩
  · rintro ⟨tag, value, rfl, tagged, absent, valued⟩
    rw [cutFirst_append absent]
    simp [tagged, valued]

/-- A literal of IPv6 needs no form of its own, since it has a tag and a value. -/
theorem isLiteralContent_iff {content : List Char} :
    isLiteralContent content = true ↔ LiteralContent content := by
  unfold isLiteralContent
  constructor
  · intro valid
    by_cases dotted : NetworkLiteral.isIPv4 content = true
    · exact .dottedQuad (isIPv4_iff.1 dotted)
    · have general : isGeneralLiteral content = true := by
        simp only [dotted, Bool.or_eq_true] at valid
        rcases valid with (impossible | sixth) | general
        · cases impossible
        · obtain ⟨address, dropped, accepted⟩ := Option.any_eq_true _ _ |>.1 sixth
          exact isGeneralLiteral_of_isIPv6 dropped accepted
        · exact general
      obtain ⟨tag, value, rfl, tagged, absent, valued⟩ := isGeneralLiteral_iff.1 general
      exact .tagged tagged absent valued
  · intro derived
    cases derived with
    | dottedQuad dotted => simp [isIPv4_iff.2 dotted]
    | @tagged tag value tagged absent valued =>
        have general := isGeneralLiteral_iff.2 ⟨tag, value, rfl, tagged, absent, valued⟩
        simp [general]

theorem not_bracket_of_domainName
    {text : List Char} (dotted : Dotted IsLabel text) :
    text.head? ≠ some '[' := by
  intro starts
  have unbracketed : ∀ character ∈ text, character ≠ '[' := by
    refine dotted.forall_mem (by decide) ?_
    rintro piece label character member rfl
    have valid := label.inside '[' member
    rw [isLabelText_bracket] at valid
    cases valid
  exact unbracketed '[' (List.mem_of_mem_head? starts) rfl

theorem checkDomain_iff {text : List Char} :
    checkDomain text = .ok () ↔ IsDomain text := by
  unfold checkDomain
  constructor
  · intro accepted
    by_cases literal : text.head? = some '['
    · rw [if_pos literal] at accepted
      obtain ⟨content, rfl, valid⟩ := checkAddressLiteral_ok_iff.1 accepted
      exact .literal (isLiteralContent_iff.1 valid)
    · rw [if_neg literal] at accepted
      exact .name (checkDomainName_iff.1 accepted)
  · intro derived
    cases derived with
    | name dotted =>
        rw [if_neg (not_bracket_of_domainName dotted)]
        exact checkDomainName_iff.2 dotted
    | @literal content inside =>
        have bracketed : ('[' :: content ++ [']']).head? = some '[' := rfl
        rw [if_pos bracketed]
        exact checkAddressLiteral_ok_iff.2 ⟨content, rfl, isLiteralContent_iff.2 inside⟩

end Mailbox

end RecipientRewriting
