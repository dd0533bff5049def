import Mathlib.Control.Monad.Basic
import RecipientRewriting.Proofs.Address.Language
import RecipientRewriting.Proofs.Address.RoundTrip

/-!
# Reading exactly the mailboxes

A text is read exactly if it is a mailbox of the grammar, up to white space and
one pair of angle brackets.  The scan finds the separator behind every local
part of the grammar, whatever stands between quotes.  The offsets at which the
text is cut on the way are all boundaries of characters.
-/

namespace RecipientRewriting

open Text

/-! ## Cutting at offsets -/

/-- Cuts a text at an offset in octets, which has to be a boundary between two
characters or one of the ends. -/
def Text.cutAt? (offset : Nat) : List Char → Option (List Char × List Char)
  | [] => if offset = 0 then some ([], []) else none
  | character :: rest =>
      if offset = 0 then
        some ([], character :: rest)
      else if offset < character.utf8Size then
        none
      else
        (cutAt? (offset - character.utf8Size) rest).map
          fun (before, behind) => (character :: before, behind)

theorem Text.cutAt?_append (before behind : List Char) :
    cutAt? (octets before) (before ++ behind) = some (before, behind) := by
  induction before with
  | nil => cases behind <;> simp [cutAt?]
  | cons character before inductionHypothesis =>
      have positive : 0 < character.utf8Size := Char.utf8Size_pos character
      have notFront : character.utf8Size + octets before ≠ 0 := by omega
      have notInside : ¬ character.utf8Size + octets before < character.utf8Size := by omega
      have remaining : character.utf8Size + octets before - character.utf8Size =
          octets before := by
        omega
      rw [octets_cons, List.cons_append, cutAt?, if_neg notFront, if_neg notInside, remaining,
        inductionHypothesis]
      rfl

namespace Mailbox

def separatorOffset? (scan : Scan) (offset : Nat) : List Char → Option Nat
  | [] => none
  | character :: rest =>
      if scan.separates character then some offset
      else separatorOffset? (scan.step character) (offset + character.utf8Size) rest

/-- As `unwrap`, with the brackets cut off by their offsets.  None if a cut is
not possible. -/
def unwrapByOffsets (text : List Char) : Option (Except AddressError (List Char)) :=
  match dropInitial? ['<'] text with
  | none => some (.ok text)
  | some rest =>
      if text.getLast? = some '>' then
        match octets rest with
        | 0 => none
        | size + 1 => (cutAt? size rest).map fun (inner, _) => .ok inner
      else
        some (.error .missingCloseBracket)

/-- As `parseBare`, with both halves cut out by their offsets.  None if a cut is
not possible. -/
def parseBareByOffsets (text : List Char) :
    Option (Except AddressError (List Char × List Char)) :=
  match separatorOffset? .start 0 text with
  | none => some (.error .missingAtSign)
  | some offset =>
      match cutAt? offset text, cutAt? (offset + 1) text with
      | some (localPart, _), some (_, domain) =>
          some ((checkHalves localPart domain).map fun _ => (localPart, domain))
      | _, _ => none

/-- As `parseChars`, with all cuts at offsets.  None if one of them is not
possible. -/
def parseByOffsets (text : List Char) :
    Option (Except AddressError (List Char × List Char)) :=
  let trimmed := trimBlanks text
  if trimmed.isEmpty then
    some (.error .empty)
  else
    match unwrapByOffsets trimmed with
    | none => none
    | some (.error fault) => some (.error fault)
    | some (.ok inner) => parseBareByOffsets inner

theorem separatorOffset?_eq (scan : Scan) (offset : Nat) (text : List Char) :
    separatorOffset? scan offset text =
      (cutSeparator scan text).map fun (before, _) => offset + octets before := by
  induction text generalizing scan offset with
  | nil => rfl
  | cons character rest inductionHypothesis =>
      rw [separatorOffset?, cutSeparator]
      by_cases separates : scan.separates character = true
      · rw [if_pos separates, if_pos separates]
        rfl
      · rw [if_neg separates, if_neg separates, inductionHypothesis]
        cases cutSeparator (scan.step character) rest with
        | none => rfl
        | some halves => simp [Nat.add_assoc]

theorem unclosed_of_dropLast?
    {rest : List Char} (unclosed : dropLast? '>' rest = none) :
    ('<' :: rest).getLast? ≠ some '>' := by
  intro closes
  obtain ⟨initial, shape⟩ := List.getLast?_eq_some_iff.1 closes
  cases initial with
  | nil => simp at shape
  | cons first initial =>
      have ends : rest = initial ++ ['>'] := (List.cons.inj shape).2
      rw [dropLast?_eq_some_iff.2 ends] at unclosed
      cases unclosed

theorem getLast?_enclosed (inner : List Char) :
    ('<' :: (inner ++ ['>'])).getLast? = some '>' := by
  rw [← List.cons_append, List.getLast?_concat]

theorem unwrapByOffsets_eq (text : List Char) :
    unwrapByOffsets text = some (unwrap text) := by
  unfold unwrapByOffsets unwrap
  cases opened : dropInitial? ['<'] text with
  | none => rfl
  | some rest =>
      obtain rfl : text = '<' :: rest := dropInitial?_eq_some_iff.1 opened
      cases closed : dropLast? '>' rest with
      | none =>
          dsimp only
          rw [if_neg (unclosed_of_dropLast? closed), closed]
      | some inner =>
          obtain rfl : rest = inner ++ ['>'] := dropLast?_eq_some_iff.1 closed
          have size : octets (inner ++ ['>']) = octets inner + 1 := octets_append inner ['>']
          dsimp only
          rw [if_pos (getLast?_enclosed inner), size, closed]
          dsimp only
          rw [cutAt?_append]
          rfl

theorem parseBareByOffsets_eq (text : List Char) :
    parseBareByOffsets text = some (parseBare text) := by
  unfold parseBareByOffsets parseBare
  rw [separatorOffset?_eq]
  cases cut : cutSeparator .start text with
  | none => rfl
  | some halves =>
      obtain ⟨localPart, domain⟩ := halves
      obtain ⟨shape, _⟩ := cutSeparator_append cut domain
      have front : cutAt? (octets localPart) text = some (localPart, '@' :: domain) := by
        rw [shape, cutAt?_append]
      have behind : cutAt? (octets localPart + 1) text = some (localPart ++ ['@'], domain) := by
        have size : octets (localPart ++ ['@']) = octets localPart + 1 :=
          octets_append localPart ['@']
        have regrouped : localPart ++ '@' :: domain = (localPart ++ ['@']) ++ domain := by simp
        rw [shape, regrouped, ← size, cutAt?_append]
      simp only [Option.map_some, Nat.zero_add]
      rw [front, behind]

/-- Every cut is possible, whatever the text, so that reading always comes to
its answer. -/
theorem parseByOffsets_eq (text : List Char) :
    parseByOffsets text = some (parseChars text) := by
  unfold parseByOffsets parseChars
  by_cases empty : (trimBlanks text).isEmpty = true
  · dsimp only
    rw [if_pos empty, if_pos empty]
  · dsimp only
    rw [if_neg empty, if_neg empty, unwrapByOffsets_eq]
    cases unwrap (trimBlanks text) with
    | error fault => rfl
    | ok inner => exact parseBareByOffsets_eq inner

/-! ## Finding the separator -/

/-- The scan inside a quoted string, not behind a backslash. -/
def Scan.quoting : Scan :=
  ⟨true, false, false⟩

theorem Scan.step_start
    {character : Char}
    (noQuote : character ≠ '"') (noBracket : character ≠ '[') (noBackslash : character ≠ '\\') :
    Scan.start.step character = Scan.start := by
  simp [Scan.start, Scan.step, noQuote, noBracket, noBackslash]

theorem Scan.separates_start
    {character : Char} (noSeparator : character ≠ '@') :
    Scan.start.separates character = false := by
  simp [Scan.start, Scan.separates, noSeparator]

theorem Scan.step_quoting
    {character : Char} (noQuote : character ≠ '"') (noBackslash : character ≠ '\\') :
    Scan.quoting.step character = Scan.quoting := by
  simp [Scan.quoting, Scan.step, noQuote, noBackslash]

/-- A backslash and the character behind it leave the scan as it is, also if
that character is a quote or another backslash. -/
theorem Scan.step_pair (character : Char) :
    (Scan.quoting.step '\\').step character = Scan.quoting := by
  simp [Scan.quoting, Scan.step]

theorem cutSeparator_of_plain
    {text : List Char}
    (plain : ∀ character ∈ text,
      character ≠ '"' ∧ character ≠ '[' ∧ character ≠ '\\' ∧ character ≠ '@')
    (behind : List Char) :
    cutSeparator .start (text ++ '@' :: behind) = some (text, behind) := by
  induction text with
  | nil => rfl
  | cons character rest inductionHypothesis =>
      obtain ⟨noQuote, noBracket, noBackslash, noSeparator⟩ :=
        plain character List.mem_cons_self
      have later := inductionHypothesis fun other member =>
        plain other (List.mem_cons_of_mem character member)
      rw [List.cons_append, cutSeparator, Scan.separates_start noSeparator,
        Scan.step_start noQuote noBracket noBackslash, later]
      rfl

theorem cutSeparator_of_quoted
    {content : List Char} (derived : QuotedContent content) (behind : List Char) :
    cutSeparator .quoting (content ++ '"' :: '@' :: behind) =
      some (content ++ ['"'], behind) := by
  induction derived with
  | nil => rfl
  | @plain character rest plain _ inductionHypothesis =>
      have unescaped : character ≠ '"' ∧ character ≠ '\\' := by
        simp only [isQuotedText, Bool.and_eq_true, decide_eq_true_eq] at plain
        exact ⟨plain.1.2, plain.2⟩
      have inside : Scan.quoting.separates character = false := by
        simp [Scan.quoting, Scan.separates]
      rw [List.cons_append, cutSeparator, inside, Scan.step_quoting unescaped.1 unescaped.2,
        inductionHypothesis]
      rfl
  | @pair character rest _ _ inductionHypothesis =>
      have inside : Scan.quoting.separates '\\' = false := rfl
      have escaped : (Scan.quoting.step '\\').separates character = false := by
        simp [Scan.quoting, Scan.step, Scan.separates]
      rw [List.cons_append, List.cons_append, cutSeparator, inside, cutSeparator, escaped,
        Scan.step_pair, inductionHypothesis]
      rfl

theorem ne_of_isAtomText
    {character : Char} (valid : isAtomText character = true) :
    character ≠ '"' ∧ character ≠ '[' ∧ character ≠ '\\' ∧ character ≠ '@' := by
  refine ⟨?_, ?_, ?_, ?_⟩
  all_goals
    rintro rfl
    revert valid
    decide

/-- The scan stops behind a local part, at the separator that follows it. -/
theorem cutSeparator_of_isLocalPart
    {localPart : List Char} (derived : IsLocalPart localPart) (domain : List Char) :
    cutSeparator .start (localPart ++ '@' :: domain) = some (localPart, domain) := by
  cases derived with
  | dotString dotted =>
      refine cutSeparator_of_plain ?_ domain
      refine dotted.forall_mem (by decide) ?_
      intro atom isAtom character member
      exact ne_of_isAtomText (isAtom.2 character member)
  | @quotedString content inside =>
      have quoted := cutSeparator_of_quoted inside domain
      have opening : Scan.start.step '"' = Scan.quoting := rfl
      have passes : Scan.start.separates '"' = false := rfl
      have regrouped : '"' :: content ++ ['"'] ++ '@' :: domain =
          '"' :: (content ++ '"' :: '@' :: domain) := by
        simp
      rw [regrouped, cutSeparator, passes, opening, quoted]
      rfl

/-! ## Whole mailboxes -/

/-- Both halves of a mailbox, each within its length. -/
structure IsMailbox (localPart domain : List Char) : Prop where
  isLocalPart : IsLocalPart localPart
  localPart_length : octets localPart ≤ maxLocalPart
  isDomain : IsDomain domain
  domain_length : octets domain ≤ maxDomain

def withoutBrackets (text : List Char) : List Char :=
  if text.head? = some '<' ∧ text.getLast? = some '>' then text.tail.dropLast else text

theorem checkHalves_iff {localPart domain : List Char} :
    checkHalves localPart domain = .ok () ↔ IsMailbox localPart domain := by
  rw [checkHalves_ok_iff, checkLocalPart_iff, checkDomain_iff]
  constructor
  · rintro ⟨shortLocal, shortDomain, isLocalPart, isDomain⟩
    exact ⟨isLocalPart, shortLocal, isDomain, shortDomain⟩
  · rintro ⟨isLocalPart, shortLocal, isDomain, shortDomain⟩
    exact ⟨shortLocal, shortDomain, isLocalPart, isDomain⟩

theorem parseBare_iff {text localPart domain : List Char} :
    parseBare text = .ok (localPart, domain) ↔
      text = localPart ++ '@' :: domain ∧ IsMailbox localPart domain := by
  rw [parseBare_eq_ok_iff, checkHalves_iff]
  constructor
  · rintro ⟨cut, isMailbox⟩
    exact ⟨(cutSeparator_append cut domain).1, isMailbox⟩
  · rintro ⟨rfl, isMailbox⟩
    exact ⟨cutSeparator_of_isLocalPart isMailbox.isLocalPart domain, isMailbox⟩

/-- A bracket that is never closed is no part of a mailbox, so that only the
brackets around the whole text matter. -/
theorem unwrap_iff
    {text localPart : List Char}
    (derived : IsLocalPart localPart)
    (domain : List Char) :
    unwrap text = .ok (localPart ++ '@' :: domain) ↔
      withoutBrackets text = localPart ++ '@' :: domain := by
  obtain ⟨first, others, rfl, _, noBracket⟩ :=
    head_of_checkLocalPart (checkLocalPart_iff.2 derived)
  unfold unwrap withoutBrackets
  cases opened : dropInitial? ['<'] text with
  | none =>
      have unopened : ¬ (text.head? = some '<' ∧ text.getLast? = some '>') := by
        rintro ⟨opens, _⟩
        obtain ⟨rest, rfl⟩ := List.head?_eq_some_iff.1 opens
        have dropped : dropInitial? ['<'] ('<' :: rest) = some rest :=
          dropInitial?_eq_some_iff.2 rfl
        rw [opened] at dropped
        cases dropped
      rw [if_neg unopened]
      simp
  | some rest =>
      obtain rfl : text = '<' :: rest := dropInitial?_eq_some_iff.1 opened
      cases closed : dropLast? '>' rest with
      | none =>
          have unclosed : ¬ (('<' :: rest).head? = some '<' ∧
              ('<' :: rest).getLast? = some '>') := by
            rintro ⟨_, closes⟩
            exact unclosed_of_dropLast? closed closes
          dsimp only
          rw [if_neg unclosed, closed]
          constructor
          · intro failed
            cases failed
          · intro same
            exact absurd (List.cons.inj same).1.symm noBracket
      | some inner =>
          obtain rfl : rest = inner ++ ['>'] := dropLast?_eq_some_iff.1 closed
          have enclosed : ('<' :: (inner ++ ['>'])).head? = some '<' ∧
              ('<' :: (inner ++ ['>'])).getLast? = some '>' :=
            ⟨rfl, getLast?_enclosed inner⟩
          dsimp only
          rw [if_pos enclosed, closed]
          simp

theorem parseChars_iff {text localPart domain : List Char} :
    parseChars text = .ok (localPart, domain) ↔
      withoutBrackets (trimBlanks text) = localPart ++ '@' :: domain ∧
        IsMailbox localPart domain := by
  have nonempty : parseChars text = .ok (localPart, domain) ↔
      (unwrap (trimBlanks text) >>= parseBare) = .ok (localPart, domain) := by
    unfold parseChars
    cases trimmed : trimBlanks text with
    | nil =>
        constructor
        all_goals
          intro failed
          cases failed
    | cons first rest => exact Iff.rfl
  rw [nonempty, bind_eq_ok_iff]
  constructor
  · rintro ⟨inner, unwrapped, bare⟩
    obtain ⟨rfl, isMailbox⟩ := parseBare_iff.1 bare
    exact ⟨(unwrap_iff isMailbox.isLocalPart domain).1 unwrapped, isMailbox⟩
  · rintro ⟨enclosed, isMailbox⟩
    refine ⟨localPart ++ '@' :: domain, ?_, parseBare_iff.2 ⟨rfl, isMailbox⟩⟩
    exact (unwrap_iff isMailbox.isLocalPart domain).2 enclosed

theorem parse_iff {text localPart domain : String} :
    parse text = .ok (localPart, domain) ↔
      withoutBrackets (trimBlanks text.toList) = localPart.toList ++ '@' :: domain.toList ∧
        IsMailbox localPart.toList domain.toList := by
  rw [← parseChars_iff]
  unfold parse
  rw [map_eq_ok_iff]
  constructor
  · rintro ⟨⟨front, behind⟩, characters, written⟩
    obtain ⟨rfl, rfl⟩ := Prod.mk.inj written
    rw [String.toList_ofList, String.toList_ofList]
    exact characters
  · intro characters
    refine ⟨_, characters, ?_⟩
    simp

theorem IsMailbox.unique
    {localPart domain otherLocal otherDomain : List Char}
    (isMailbox : IsMailbox localPart domain)
    (other : IsMailbox otherLocal otherDomain)
    (same : localPart ++ '@' :: domain = otherLocal ++ '@' :: otherDomain) :
    localPart = otherLocal ∧ domain = otherDomain := by
  have cut := cutSeparator_of_isLocalPart isMailbox.isLocalPart domain
  rw [same, cutSeparator_of_isLocalPart other.isLocalPart otherDomain] at cut
  obtain ⟨sameLocal, sameDomain⟩ := Prod.mk.inj (Option.some.inj cut)
  exact ⟨sameLocal.symm, sameDomain.symm⟩

/-- A text is read exactly if it is, between white space and at most one pair of
angle brackets, a mailbox of the grammar, and into the halves of this mailbox.
There are no other halves of that kind, and no cut of the text is impossible. -/
theorem parse_exactly (text : String) :
    (∀ localPart domain, parse text = .ok (localPart, domain) ↔
      withoutBrackets (trimBlanks text.toList) = localPart.toList ++ '@' :: domain.toList ∧
        IsMailbox localPart.toList domain.toList) ∧
    (∀ localPart domain otherLocal otherDomain,
      withoutBrackets (trimBlanks text.toList) = localPart ++ '@' :: domain →
      IsMailbox localPart domain →
      withoutBrackets (trimBlanks text.toList) = otherLocal ++ '@' :: otherDomain →
      IsMailbox otherLocal otherDomain →
      localPart = otherLocal ∧ domain = otherDomain) ∧
    parseByOffsets text.toList = some (parseChars text.toList) := by
  refine ⟨fun localPart domain => parse_iff, ?_, parseByOffsets_eq text.toList⟩
  intro localPart domain otherLocal otherDomain shape isMailbox otherShape otherMailbox
  exact isMailbox.unique otherMailbox (shape.symm.trans otherShape)

/-- A quoted local part may hold separators, brackets and escaped quotes. -/
theorem parse_exactly_quoted :
    parse " <\"a@[\\\"\\\\\"@[10.0.0.255]> " = .ok ("\"a@[\\\"\\\\\"", "[10.0.0.255]") ∧
      withoutBrackets (trimBlanks " <\"a@[\\\"\\\\\"@[10.0.0.255]> ".toList) =
        "\"a@[\\\"\\\\\"".toList ++ '@' :: "[10.0.0.255]".toList ∧
      IsMailbox "\"a@[\\\"\\\\\"".toList "[10.0.0.255]".toList := by
  have read : parse " <\"a@[\\\"\\\\\"@[10.0.0.255]> " =
      .ok ("\"a@[\\\"\\\\\"", "[10.0.0.255]") := by
    decide +kernel
  obtain ⟨accepted, _, _⟩ := parse_exactly " <\"a@[\\\"\\\\\"@[10.0.0.255]> "
  exact ⟨read, (accepted _ _).1 read⟩

end Mailbox

end RecipientRewriting
