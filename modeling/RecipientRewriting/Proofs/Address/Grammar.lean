import RecipientRewriting.Address.Basic
import RecipientRewriting.Proofs.Success

/-!
# What the mailbox checks accept

Each check of the mailbox grammar answers with the first violation it meets.
The lemmas here say what it means that there is none, check by check, so that
later modules need not open the checks again.
-/

namespace RecipientRewriting

open Text

/-! ## Cutting text -/

theorem Text.dropInitial?_eq_some_iff {initial text rest : List Char} :
    dropInitial? initial text = some rest ↔ text = initial ++ rest := by
  constructor
  · exact eq_append_of_dropInitial?
  · rintro rfl
    exact dropInitial?_append initial rest

theorem Text.dropLast?_eq_some_iff {last : Char} {text initial : List Char} :
    dropLast? last text = some initial ↔ text = initial ++ [last] := by
  unfold dropLast?
  constructor
  · intro dropped
    split at dropped
    · rename_i ends
      simp only [Option.some.injEq] at dropped
      obtain ⟨front, rfl⟩ := List.getLast?_eq_some_iff.1 ends
      simpa using dropped
    · simp at dropped
  · rintro rfl
    simp

theorem Text.mem_splitOn_or
    {character : Char} {text : List Char}
    (separator : Char)
    (member : character ∈ text) :
    character = separator ∨ ∃ piece ∈ splitOn separator text, character ∈ piece := by
  induction text with
  | nil => simp at member
  | cons first rest inductionHypothesis =>
      rw [splitOn]
      by_cases isSeparator : first = separator
      · rcases List.mem_cons.1 member with rfl | later
        · exact Or.inl isSeparator
        · rcases inductionHypothesis later with same | ⟨piece, inPieces, inPiece⟩
          · exact Or.inl same
          · exact Or.inr ⟨piece, by simp [isSeparator, inPieces], inPiece⟩
      · simp only [isSeparator, if_false]
        cases pieces : splitOn separator rest with
        | nil => exact absurd pieces (splitOn_ne_nil separator rest)
        | cons piece others =>
            rcases List.mem_cons.1 member with rfl | later
            · exact Or.inr ⟨character :: piece, by simp, by simp⟩
            · rcases inductionHypothesis later with same | ⟨other, inPieces, inPiece⟩
              · exact Or.inl same
              · rw [pieces] at inPieces
                rcases List.mem_cons.1 inPieces with rfl | inOthers
                · exact Or.inr ⟨first :: other, by simp, by simp [inPiece]⟩
                · exact Or.inr ⟨other, by simp [inOthers], inPiece⟩

/-! ## Ranges of characters -/

theorem Text.between_iff {lowest highest character : Char} :
    (lowest ≤ character && character ≤ highest) = true ↔
      lowest.toNat ≤ character.toNat ∧ character.toNat ≤ highest.toNat := by
  simp [Char.le_def, UInt32.le_iff_toNat_le]

theorem Text.isDigit_iff {character : Char} :
    character.isDigit = true ↔ 48 ≤ character.toNat ∧ character.toNat ≤ 57 :=
  @between_iff '0' '9' character

/-- There is nothing but digits and dots in an IPv4 address. -/
theorem NetworkLiteral.isDigit_or_dot_of_isIPv4
    {text : List Char} (valid : isIPv4 text = true) :
    ∀ character ∈ text, character.isDigit = true ∨ character = '.' := by
  simp only [isIPv4, Bool.and_eq_true, List.all_eq_true] at valid
  intro character member
  rcases mem_splitOn_or '.' member with rfl | ⟨field, inFields, inField⟩
  · exact Or.inr rfl
  · have octet := valid.2 field inFields
    simp only [isDecimalOctet, Bool.and_eq_true, List.all_eq_true] at octet
    exact Or.inl (octet.1.1.2 character inField)

namespace Mailbox

theorem isLetDig_iff {character : Char} :
    isLetDig character = true ↔
      (65 ≤ character.toNat ∧ character.toNat ≤ 90) ∨
        (97 ≤ character.toNat ∧ character.toNat ≤ 122) ∨
          (48 ≤ character.toNat ∧ character.toNat ≤ 57) := by
  have ranges : isLetDig character =
      ((decide (65 ≤ character.val ∧ character.val ≤ 90) ||
        (decide (97 ≤ character.val) && decide (character.val ≤ 122))) ||
          (decide (48 ≤ character.val) && decide (character.val ≤ 57))) :=
    rfl
  rw [ranges]
  simp [UInt32.le_iff_toNat_le, or_assoc]

/-! ## Local parts -/

theorem checkAtom_ok_iff {whole atom : List Char} :
    checkAtom whole atom = .ok () ↔
      atom ≠ [] ∧ ∀ character ∈ atom, isAtomText character = true := by
  unfold checkAtom
  cases atom with
  | nil => simp
  | cons first rest =>
      simp only [List.isEmpty_cons, Bool.false_eq_true, if_false]
      split
      · rename_i character found
        have violation := List.find?_some found
        have member := List.mem_of_find?_eq_some found
        simp only [reduceCtorEq, false_iff, not_and]
        intro _ valid
        simp [valid character member] at violation
      · rename_i none
        simpa [List.find?_eq_none] using none

theorem checkDotString_ok_iff {text : List Char} :
    checkDotString text = .ok () ↔
      text ≠ [] ∧ ∀ atom ∈ splitOn '.' text,
        atom ≠ [] ∧ ∀ character ∈ atom, isAtomText character = true := by
  unfold checkDotString
  cases text with
  | nil => simp
  | cons first rest => simp [forM_eq_ok_iff, checkAtom_ok_iff]

/-! ## Domains -/

theorem checkLabel_ok_iff {label : List Char} :
    checkLabel label = .ok () ↔
      label.head?.any isLetDig = true ∧ label.getLast?.any isLetDig = true ∧
        ∀ character ∈ label, isLabelText character = true := by
  unfold checkLabel
  cases front : label.head?.any isLetDig
  · simp
  · cases back : label.getLast?.any isLetDig
    · simp
    · simp only [Bool.and_self, if_true, true_and]
      split
      · rename_i character found
        have violation := List.find?_some found
        have member := List.mem_of_find?_eq_some found
        simp only [reduceCtorEq, false_iff]
        intro valid
        simp [valid character member] at violation
      · rename_i none
        simpa [List.find?_eq_none] using none

theorem checkDomainName_ok_iff {text : List Char} :
    checkDomainName text = .ok () ↔
      text ≠ [] ∧ ∀ label ∈ splitOn '.' text, checkLabel label = .ok () := by
  unfold checkDomainName
  cases text with
  | nil => simp
  | cons first rest => simp [forM_eq_ok_iff]

theorem checkAddressLiteral_ok_iff {text : List Char} :
    checkAddressLiteral text = .ok () ↔
      ∃ content, text = '[' :: content ++ [']'] ∧ isLiteralContent content = true := by
  unfold checkAddressLiteral
  constructor
  · intro accepted
    split at accepted
    · rename_i content enclosed
      split at accepted
      · rename_i valid
        obtain ⟨rest, opened, closed⟩ := Option.bind_eq_some_iff.1 enclosed
        rw [dropInitial?_eq_some_iff] at opened
        rw [dropLast?_eq_some_iff] at closed
        exact ⟨content, by simp [opened, closed], valid⟩
      · simp at accepted
    · simp at accepted
  · rintro ⟨content, rfl, valid⟩
    have opened : dropInitial? ['['] ('[' :: content ++ [']']) = some (content ++ [']']) :=
      dropInitial?_eq_some_iff.2 rfl
    have closed : dropLast? ']' (content ++ [']']) = some content :=
      dropLast?_eq_some_iff.2 rfl
    simp only [opened, Option.bind_some, closed, valid, if_true]

/-! ## Whole mailboxes -/

theorem checkHalves_ok_iff {localPart domain : List Char} :
    checkHalves localPart domain = .ok () ↔
      octets localPart ≤ maxLocalPart ∧ octets domain ≤ maxDomain ∧
        checkLocalPart localPart = .ok () ∧ checkDomain domain = .ok () := by
  unfold checkHalves
  by_cases longLocal : octets localPart > maxLocalPart
  · have tooLong : ¬ octets localPart ≤ maxLocalPart := by omega
    simp [longLocal, tooLong, bind, Except.bind, throw, throwThe, MonadExceptOf.throw]
  · have shortLocal : octets localPart ≤ maxLocalPart := by omega
    by_cases longDomain : octets domain > maxDomain
    · have tooLong : ¬ octets domain ≤ maxDomain := by omega
      simp [longLocal, longDomain, tooLong, bind, Except.bind, throw, throwThe,
        MonadExceptOf.throw]
    · have shortDomain : octets domain ≤ maxDomain := by omega
      simp only [longLocal, longDomain, if_false, shortLocal, shortDomain, true_and]
      change (checkLocalPart localPart >>= fun _ => checkDomain domain) = .ok () ↔ _
      exact check_bind_eq_ok_iff

/-- Where the first separator stands does not depend on what follows it. -/
theorem cutSeparator_append
    {scan : Scan} {text before behind : List Char}
    (cut : cutSeparator scan text = some (before, behind))
    (other : List Char) :
    text = before ++ '@' :: behind ∧
      cutSeparator scan (before ++ '@' :: other) = some (before, other) := by
  induction text generalizing scan before with
  | nil => simp [cutSeparator] at cut
  | cons character rest inductionHypothesis =>
      rw [cutSeparator] at cut
      split at cut
      · rename_i separates
        simp only [Option.some.injEq, Prod.mk.injEq] at cut
        obtain ⟨rfl, rfl⟩ := cut
        have isAt : character = '@' := by
          simp only [Scan.separates, Bool.and_eq_true, decide_eq_true_eq] at separates
          exact separates.1.1
        subst isAt
        simp [cutSeparator, separates]
      · rename_i passes
        simp only [Option.map_eq_some_iff, Prod.mk.injEq, Prod.exists] at cut
        obtain ⟨initial, final, found, rfl, rfl⟩ := cut
        obtain ⟨shape, again⟩ := inductionHypothesis found
        refine ⟨by simp [shape], ?_⟩
        simp [cutSeparator, passes, again]

end Mailbox

end RecipientRewriting
