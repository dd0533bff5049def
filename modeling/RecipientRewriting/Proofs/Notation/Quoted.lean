import Mathlib.Data.List.Basic
import RecipientRewriting.Notation.Lexical
import RecipientRewriting.Text.Quoted

/-!
# Reading quoted text back

Text between quotes is read as the text that was put there: the reader takes
what stands for a character to be that character, whichever of the ways of
writing it was chosen.
-/

namespace RecipientRewriting.Notation

open Text

/-! ## Characters by their numbers -/

theorem hexValue?_digitChar :
    ∀ value < 16, hexValue? (Nat.digitChar value) = some value := by
  decide

theorem digitChar_ne_brace :
    ∀ value < 16, Nat.digitChar value ≠ '\x7d' := by
  decide

/-- The digits of a number have its value, and none of them is a brace. -/
theorem toDigits_read (number : Nat) :
    (∀ digit ∈ Nat.toDigits 16 number, digit ≠ '\x7d') ∧
      ∃ values, (Nat.toDigits 16 number).mapM hexValue? = some values ∧
        values.foldl (fun number value => 16 * number + value) 0 = number := by
  induction number using Nat.strongRecOn with
  | ind number inductionHypothesis =>
      by_cases small : number < 16
      · rw [Nat.toDigits_of_lt_base small]
        refine ⟨?_, [number], ?_, by simp⟩
        · intro digit member
          obtain rfl : digit = Nat.digitChar number := by simpa using member
          exact digitChar_ne_brace number small
        · simp [hexValue?_digitChar number small]
      · rw [Nat.toDigits_of_base_le (by omega) (by omega)]
        -- The last digit stands for the remainder, those in front of it for the quotient.
        have smaller : number / 16 < number := by omega
        have last : number % 16 < 16 := by omega
        obtain ⟨noBrace, values, read, value⟩ := inductionHypothesis (number / 16) smaller
        refine ⟨?_, values ++ [number % 16], ?_, ?_⟩
        · intro digit member
          rcases List.mem_append.1 member with front | back
          · exact noBrace digit front
          · obtain rfl : digit = Nat.digitChar (number % 16) := by simpa using back
            exact digitChar_ne_brace _ last
        · simp [read, hexValue?_digitChar _ last]
        · rw [List.foldl_append, value]
          simp only [List.foldl_cons, List.foldl_nil]
          omega

theorem takeWhile_append_of_all
    {front : List Char} {stop : Char} (behind : List Char)
    (absent : ∀ character ∈ front, character ≠ stop) :
    (front ++ stop :: behind).takeWhile (· ≠ stop) = front := by
  rw [List.takeWhile_append_of_pos (by simpa using absent)]
  simp

theorem readNumberEscape?_digits (character : Char) (rest : List Char) :
    readNumberEscape? ('\x7b' :: Nat.toDigits 16 character.toNat ++ '\x7d' :: rest) =
      some (character, rest) := by
  obtain ⟨noBrace, values, read, value⟩ := toDigits_read character.toNat
  have valid : character.toNat < 0xd800 ∨
      (0xdfff < character.toNat ∧ character.toNat < 0x110000) :=
    character.valid
  have short : (Nat.toDigits 16 character.toNat).length ≤ 6 := by
    rw [Nat.length_toDigits_le_iff (by omega) (by omega)]
    omega
  have nonempty : Nat.toDigits 16 character.toNat ≠ [] := Nat.toDigits_ne_nil
  simp only [readNumberEscape?, List.cons_append]
  rw [takeWhile_append_of_all rest noBrace, read]
  simp [value, nonempty, short]
  omega

/-! ## Escapes -/

/-- A backslash is followed by an escape, unless by the end of a line. -/
theorem readQuoted?_backslash
    {character : Char} {rest : List Char}
    (escape : List Char) (fuel : Nat)
    (inLine : dropLineEnd? (escape ++ rest) = none)
    (read : readEscape? .characters (escape ++ rest) = some (character, rest)) :
    readQuoted? .characters (fuel + 1) ('\\' :: escape ++ rest) =
      (readQuoted? .characters fuel rest).map fun (text, behind) =>
        (character :: text, behind) := by
  rw [List.cons_append, readQuoted?, inLine]
  cases later : readQuoted? .characters fuel rest with
  | none => simp [read, later]
  | some result => simp [read, later]

/-- What stands for a character is read as this character. -/
theorem readQuoted?_escapeChar (character : Char) (fuel : Nat) (rest : List Char) :
    readQuoted? .characters (fuel + 1) (escapeChar true character ++ rest) =
      (readQuoted? .characters fuel rest).map fun (text, behind) =>
        (character :: text, behind) := by
  unfold escapeChar
  split
  · subst character
    exact readQuoted?_backslash ['0'] fuel rfl rfl
  split
  · subst character
    exact readQuoted?_backslash ['t'] fuel rfl rfl
  split
  · subst character
    exact readQuoted?_backslash ['n'] fuel rfl rfl
  split
  · subst character
    exact readQuoted?_backslash ['r'] fuel rfl rfl
  split
  · rename_i quote
    simp only [Bool.true_and, Bool.or_eq_true, decide_eq_true_eq] at quote
    rcases quote with (rfl | rfl) | rfl
    · exact readQuoted?_backslash ['"'] fuel rfl rfl
    · exact readQuoted?_backslash ['\\'] fuel rfl rfl
    · exact readQuoted?_backslash ['\''] fuel rfl rfl
  · rename_i noQuote
    simp only [Bool.true_and, Bool.or_eq_true, decide_eq_true_eq, not_or] at noQuote
    obtain ⟨⟨noDouble, noBackslash⟩, _⟩ := noQuote
    split
    · rw [List.singleton_append, readQuoted?]
      · cases readQuoted? .characters fuel rest with
        | none => rfl
        | some result => rfl
      · exact noDouble
      · exact noBackslash
    · have read : readEscape? .characters
          (('u' :: '\x7b' :: Nat.toDigits 16 character.toNat ++ ['\x7d']) ++ rest) =
          some (character, rest) := by
        simpa [readEscape?] using readNumberEscape?_digits character rest
      simpa [escapeNumber] using readQuoted?_backslash _ fuel rfl read

/-- Nothing that is put between quotes vanishes. -/
theorem length_le_flatMap_escapeChar (text : List Char) :
    text.length ≤ (text.flatMap (escapeChar true)).length := by
  induction text with
  | nil => simp
  | cons character text inductionHypothesis =>
      have shown : 1 ≤ (escapeChar true character).length := by
        unfold escapeChar escapeNumber
        repeat' split
        all_goals simp
      rw [List.flatMap_cons, List.length_append, List.length_cons]
      omega

theorem readQuoted?_flatMap_escapeChar
    {text : List Char} {fuel : Nat}
    (enough : text.length < fuel)
    (rest : List Char) :
    readQuoted? .characters fuel (text.flatMap (escapeChar true) ++ '"' :: rest) =
      some (text, rest) := by
  induction text generalizing fuel with
  | nil =>
      obtain ⟨less, rfl⟩ := Nat.exists_eq_add_of_lt enough
      simp [readQuoted?]
  | cons character text inductionHypothesis =>
      cases fuel with
      | zero => simp at enough
      | succ fuel =>
          have shorter : text.length < fuel := by simpa using enough
          rw [List.flatMap_cons, List.append_assoc, readQuoted?_escapeChar,
            inductionHypothesis shorter]
          rfl

/-- Text between quotes is read back, whatever follows the closing quote. -/
theorem readString?_quoteChars (text rest : List Char) :
    readString? (quoteChars true text ++ rest) = some (text, rest) := by
  have enough := length_le_flatMap_escapeChar text
  simp only [quoteChars, List.cons_append, List.append_assoc, List.nil_append, readString?]
  apply readQuoted?_flatMap_escapeChar
  rw [List.length_append]
  omega

end RecipientRewriting.Notation
