/-!
# Text

Which characters are white space and what digits stand for, how many octets a text has,
and how it is cut apart.
-/

namespace RecipientRewriting.Text

/-!
## White space

Addresses, rules and header values are trimmed of the characters with the
Unicode property `White_Space`, which are more than the core library's
`Char.isWhitespace` knows.  Trimming works on lists of characters; the
function on strings wraps it.
-/

/-- The characters with the property `White_Space`. -/
def isBlank (character : Char) : Bool :=
  let code := character.toNat
  (9 ≤ code && code ≤ 13) || code == 0x20 || code == 0x85 || code == 0xA0 ||
    code == 0x1680 || (0x2000 ≤ code && code ≤ 0x200A) || code == 0x2028 ||
    code == 0x2029 || code == 0x202F || code == 0x205F || code == 0x3000

def dropBlanks (text : List Char) : List Char :=
  text.dropWhile isBlank

def dropBlanksEnd (text : List Char) : List Char :=
  (text.reverse.dropWhile isBlank).reverse

def trimBlanks (text : List Char) : List Char :=
  dropBlanksEnd (dropBlanks text)

def trim (text : String) : String :=
  String.ofList (trimBlanks text.toList)

/-! ## Digits -/

def hexValue? (character : Char) : Option Nat :=
  if character.isDigit then some (character.toNat - '0'.toNat)
  else if 'a' ≤ character && character ≤ 'f' then some (character.toNat - 'a'.toNat + 10)
  else if 'A' ≤ character && character ≤ 'F' then some (character.toNat - 'A'.toNat + 10)
  else none

def isHexDigit (character : Char) : Bool :=
  (hexValue? character).isSome

def decimalValue (digits : List Char) : Nat :=
  digits.foldl (fun value digit => 10 * value + (digit.toNat - '0'.toNat)) 0

def hexOctet? (high low : Char) : Option Nat := do
  some (16 * (← hexValue? high) + (← hexValue? low))

/-!
## Lengths in octets

Limits on addresses count the octets of their UTF-8 form.
-/

def octets (text : List Char) : Nat :=
  text.foldr (fun character count => character.utf8Size + count) 0

@[simp]
theorem octets_nil : octets [] = 0 :=
  rfl

@[simp]
theorem octets_cons (character : Char) (text : List Char) :
    octets (character :: text) = character.utf8Size + octets text :=
  rfl

@[simp]
theorem octets_append (initial rest : List Char) :
    octets (initial ++ rest) = octets initial + octets rest := by
  induction initial with
  | nil => simp
  | cons character initial inductionHypothesis => simp [inductionHypothesis, Nat.add_assoc]

/-! ## Cutting text apart -/

/-- The pieces of `text` between occurrences of `separator`; there is always at
least one, possibly empty. -/
def splitOn (separator : Char) : List Char → List (List Char)
  | [] => [[]]
  | character :: rest =>
      if character = separator then
        [] :: splitOn separator rest
      else
        match splitOn separator rest with
        | [] => [[character]]
        | piece :: pieces => (character :: piece) :: pieces

/-- What stands before and behind the first `separator`. -/
def cutFirst (separator : Char) : List Char → Option (List Char × List Char)
  | [] => none
  | character :: rest =>
      if character = separator then
        some ([], rest)
      else
        (cutFirst separator rest).map fun (before, behind) => (character :: before, behind)

/-- What stands before and behind the last `separator`. -/
def cutLast (separator : Char) : List Char → Option (List Char × List Char)
  | [] => none
  | character :: rest =>
      match cutLast separator rest with
      | some (before, behind) => some (character :: before, behind)
      | none => if character = separator then some ([], rest) else none

/-- What follows `initial` at the front of `text`. -/
def dropInitial? : List Char → List Char → Option (List Char)
  | [], text => some text
  | _ :: _, [] => none
  | expected :: initial, character :: text =>
      if expected = character then dropInitial? initial text else none

/-- What precedes the character `last` at the end of `text`. -/
def dropLast? (last : Char) (text : List Char) : Option (List Char) :=
  if text.getLast? = some last then some text.dropLast else none

/-! ## Nothing is lost -/

theorem splitOn_ne_nil (separator : Char) (text : List Char) : splitOn separator text ≠ [] := by
  cases text with
  | nil => simp [splitOn]
  | cons character rest =>
      rw [splitOn]
      split
      · simp
      · split <;> simp

/-- Joining the pieces again gives the text. -/
theorem intercalate_splitOn (separator : Char) (text : List Char) :
    List.intercalate [separator] (splitOn separator text) = text := by
  induction text with
  | nil => simp [splitOn]
  | cons character rest inductionHypothesis =>
      rw [splitOn]
      have someLeft := splitOn_ne_nil separator rest
      split
      · rename_i same
        cases pieces : splitOn separator rest with
        | nil => exact absurd pieces someLeft
        | cons piece others =>
            rw [pieces] at inductionHypothesis
            simpa [List.intercalate, same] using inductionHypothesis
      · cases pieces : splitOn separator rest with
        | nil => exact absurd pieces someLeft
        | cons piece others =>
            rw [pieces] at inductionHypothesis
            cases others <;> simp_all [List.intercalate]

theorem cutFirst_eq_some {separator : Char} {text before behind : List Char}
    (cut : cutFirst separator text = some (before, behind)) :
    text = before ++ separator :: behind ∧ separator ∉ before := by
  induction text generalizing before with
  | nil => simp [cutFirst] at cut
  | cons character rest inductionHypothesis =>
      rw [cutFirst] at cut
      split at cut
      · rename_i same
        simp only [Option.some.injEq, Prod.mk.injEq] at cut
        obtain ⟨rfl, rfl⟩ := cut
        simp [same]
      · rename_i different
        simp only [Option.map_eq_some_iff, Prod.mk.injEq, Prod.exists] at cut
        obtain ⟨initial, final, found, rfl, rfl⟩ := cut
        obtain ⟨equality, absent⟩ := inductionHypothesis found
        refine ⟨by simp [equality], ?_⟩
        simp only [List.mem_cons, not_or]
        exact ⟨fun equality => different equality.symm, absent⟩

theorem dropInitial?_append (initial text : List Char) :
    dropInitial? initial (initial ++ text) = some text := by
  induction initial with
  | nil => rfl
  | cons character rest inductionHypothesis => simp [dropInitial?, inductionHypothesis]

theorem eq_append_of_dropInitial? {initial text rest : List Char}
    (dropped : dropInitial? initial text = some rest) : text = initial ++ rest := by
  induction initial generalizing text with
  | nil => simpa [dropInitial?] using dropped
  | cons expected initial inductionHypothesis =>
      cases text with
      | nil => simp [dropInitial?] at dropped
      | cons character text =>
          rw [dropInitial?] at dropped
          split at dropped
          · rename_i same
            simp [same, inductionHypothesis dropped]
          · simp at dropped

end RecipientRewriting.Text
