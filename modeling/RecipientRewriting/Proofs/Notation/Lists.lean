import RecipientRewriting.Notation.Format
import RecipientRewriting.Proofs.Notation.Quoted
import RecipientRewriting.Proofs.Success

/-!
# Reading lists back

Members with commas between them are read in turn, so a list of values that are
written as strings is read as that list.
-/

namespace RecipientRewriting.Notation

open Text

universe u

/-! ## Compact form -/

namespace Document

@[simp]
theorem compact_string (text : String) :
    (string text).compact = quoteChars true text.toList :=
  rfl

@[simp]
theorem compact_list (items : List Document) :
    (list items).compact = '[' :: compactItems items ++ [']'] :=
  rfl

theorem compactItems_eq (items : List Document) :
    compactItems items = [','].intercalate (items.map compact) := by
  induction items with
  | nil => rfl
  | cons item rest inductionHypothesis =>
      cases rest with
      | nil =>
          rw [List.map_singleton, List.intercalate_singleton]
          rfl
      | cons second rest =>
          have first : compactItems (item :: second :: rest) =
              item.compact ++ ',' :: compactItems (second :: rest) :=
            rfl
          rw [first, inductionHypothesis]
          simp

end Document

/-! ## Between items -/

theorem skipSpace_of_visible
    {character : Char}
    (visible : isSpace character = false)
    (noComment : character ≠ '/')
    (rest : List Char) :
    skipSpace (character :: rest) = .ok (character :: rest) := by
  have kept : dropSpace .plain (character :: rest) = some (character :: rest) := by
    rw [dropSpace]
    · simp [visible]
    · intro behind same
      exact absurd same noComment
    · intro behind same
      exact absurd same noComment
    · exact noComment
  rw [skipSpace, kept]

@[simp]
theorem skipSpace_quote (rest : List Char) : skipSpace ('"' :: rest) = .ok ('"' :: rest) :=
  skipSpace_of_visible (by decide) (by decide) rest

@[simp]
theorem skipSpace_comma (rest : List Char) : skipSpace (',' :: rest) = .ok (',' :: rest) :=
  skipSpace_of_visible (by decide) (by decide) rest

theorem skipComma_comma (rest : List Char) :
    skipComma (',' :: '"' :: rest) = .ok (true, '"' :: rest) := by
  simp [skipComma, bind, Except.bind, pure, Except.pure]

/-- What can end members: nothing that is taken for space, a comma or a string. -/
def IsClosing (closing : Char) : Prop :=
  isSpace closing = false ∧ closing ∉ ['/', ',', '"']

instance (closing : Char) : Decidable (IsClosing closing) :=
  inferInstanceAs (Decidable (_ ∧ _))

theorem IsClosing.skipSpace
    {closing : Char} (closes : IsClosing closing) (rest : List Char) :
    skipSpace (closing :: rest) = .ok (closing :: rest) :=
  skipSpace_of_visible closes.1 (List.ne_of_not_mem_cons closes.2) rest

theorem IsClosing.skipComma
    {closing : Char} (closes : IsClosing closing) (rest : List Char) :
    skipComma (closing :: rest) = .ok (false, closing :: rest) := by
  have noComma : closing ≠ ',' := fun same => closes.2 (by simp [same])
  simp [Notation.skipComma, closes.skipSpace, noComma, bind, Except.bind, pure, Except.pure]

/-! ## Members -/

section Members

variable {state : Type} {closing : Char}
  {member : state → List Char → Except ReadError (state × List Char)}

theorem foldMembers_closing
    (closes : IsClosing closing)
    (fuel : Nat) (separated : Bool) (current : state) (rest : List Char) :
    foldMembers closing member (fuel + 1) separated current (closing :: rest) =
      .ok (current, rest) := by
  simp [foldMembers, closes.skipSpace, bind, Except.bind, pure, Except.pure]

/-- One member that starts with a string in quotes. -/
theorem foldMembers_quote
    {current next : state} {text behind remaining : List Char} {separated : Bool}
    (closes : IsClosing closing)
    (fuel : Nat)
    (read : member current ('"' :: text) = .ok (next, behind))
    (between : skipComma behind = .ok (separated, remaining)) :
    foldMembers closing member (fuel + 1) true current ('"' :: text) =
      foldMembers closing member fuel separated next remaining := by
  have noQuote : closing ≠ '"' := fun same => closes.2 (by simp [same])
  simp [foldMembers, bind, Except.bind, read, between, noQuote.symm]

/-- The loop ends at the closing character, or reads one more member where one may
follow and goes on behind it. -/
theorem foldMembers_succ_eq_ok_iff
    {fuel : Nat} {separated : Bool} {current final : state} {text rest : List Char} :
    foldMembers closing member (fuel + 1) separated current text = .ok (final, rest) ↔
      ∃ shown, skipSpace text = .ok shown ∧
        ((shown.head? = some closing ∧ current = final ∧ shown.drop 1 = rest) ∨
          (shown.head? ≠ some closing ∧ separated = true ∧
            ∃ next behind goesOn remaining, member current shown = .ok (next, behind) ∧
              skipComma behind = .ok (goesOn, remaining) ∧
              foldMembers closing member fuel goesOn next remaining = .ok (final, rest))) := by
  rw [foldMembers, bind_eq_ok_iff]
  refine exists_congr fun shown => and_congr_right fun _ => ?_
  by_cases closes : shown.head? = some closing
  · simp [closes, pure, Except.pure]
  · cases separated with
    | false => simp [closes]
    | true => simp [closes, bind_eq_ok_iff]

/-- What every member preserves is preserved by all of them. -/
theorem foldMembers_invariant
    {fuel : Nat} {separated : Bool} {current final : state} {text rest : List Char}
    (invariant : state → Prop)
    (preserved : ∀ before text after behind, member before text = .ok (after, behind) →
      invariant before → invariant after)
    (start : invariant current)
    (read : foldMembers closing member fuel separated current text = .ok (final, rest)) :
    invariant final := by
  induction fuel generalizing separated current text with
  | zero => simp [foldMembers] at read
  | succ fuel inductionHypothesis =>
      obtain ⟨shown, _, ⟨_, rfl, _⟩ | ⟨_, _, next, behind, _, _, first, _, later⟩⟩ :=
        foldMembers_succ_eq_ok_iff.1 read
      · exact start
      · exact inductionHypothesis (preserved _ _ _ _ first start) later

end Members

/-! ## Members with commas between them -/

section Pieces

variable {alpha beta : Type} {closing : Char} {piece : alpha → List Char}

/-- Members that start with a string in quotes are read up to the closing character,
behind those found already. -/
theorem foldMembers_pieces
    {member : List beta → List Char → Except ReadError (List beta × List Char)}
    {values : List alpha} {fuel : Nat}
    (result : alpha → beta)
    (closes : IsClosing closing)
    (starts : ∀ value, ∃ tail, piece value = '"' :: tail)
    (reads : ∀ value ∈ values, ∀ found rest,
      member found (piece value ++ rest) = .ok (result value :: found, rest))
    (enough : values.length < fuel)
    (found : List beta) (rest : List Char) :
    foldMembers closing member fuel true found
        ([','].intercalate (values.map piece) ++ closing :: rest) =
      .ok ((values.map result).reverse ++ found, rest) := by
  induction values generalizing fuel found with
  | nil =>
      obtain ⟨less, rfl⟩ := Nat.exists_eq_add_of_lt enough
      simp [foldMembers_closing closes]
  | cons value values inductionHypothesis =>
      cases fuel with
      | zero => simp at enough
      | succ fuel =>
          have enoughLater : values.length < fuel := by simpa using enough
          have readsLater := fun other member => reads other (List.mem_cons_of_mem value member)
          have later := inductionHypothesis readsLater enoughLater (result value :: found)
          have first := reads value List.mem_cons_self found
          obtain ⟨front, quoted⟩ := starts value
          rw [quoted] at first
          -- The comma belongs to the member in front of it, so the last member is read apart.
          cases values with
          | nil =>
              simp only [List.map_cons, List.map_nil, List.intercalate_singleton, quoted]
              refine (foldMembers_quote closes fuel (first _) (closes.skipComma rest)).trans ?_
              obtain ⟨less, rfl⟩ := Nat.exists_eq_add_of_lt enoughLater
              simp [foldMembers_closing closes]
          | cons second values =>
              obtain ⟨tail, secondQuoted⟩ := starts second
              obtain ⟨behind, members⟩ : ∃ behind,
                  [','].intercalate ((second :: values).map piece) ++ closing :: rest =
                    '"' :: behind := by
                cases values with
                | nil => exact ⟨_, by simp [secondQuoted]; rfl⟩
                | cons third values => exact ⟨_, by simp [secondQuoted]; rfl⟩
              have characters :
                  [','].intercalate ((value :: second :: values).map piece) ++ closing :: rest =
                    '"' :: front ++ ',' :: ([','].intercalate ((second :: values).map piece) ++
                      closing :: rest) := by
                simp [quoted]
              rw [characters, members]
              refine (foldMembers_quote closes fuel (first _) (skipComma_comma behind)).trans ?_
              rw [← members, later]
              simp

/-- Every member has at least one character. -/
theorem length_le_intercalate
    (starts : ∀ value, ∃ tail, piece value = '"' :: tail) (values : List alpha) :
    values.length ≤ ([','].intercalate (values.map piece)).length := by
  induction values with
  | nil => simp
  | cons value values inductionHypothesis =>
      obtain ⟨tail, quoted⟩ := starts value
      cases values with
      | nil => simp [quoted]
      | cons second values =>
          simp only [List.map_cons, List.intercalate_cons_cons, List.length_append,
            List.length_cons, quoted] at inductionHypothesis ⊢
          omega

end Pieces

/-! ## Lists of strings -/

section Strings

variable {alpha : Type} {write : alpha → String} {parse : String → Except String alpha}

theorem compact_text (value : alpha) :
    ((Format.text write parse).document value).compact =
      quoteChars true (write value).toList := by
  simp [Format.text]

/-- A value that is written as a string is read as what this string stands for. -/
theorem reader_text
    {value result : alpha}
    (parsed : parse (write value) = .ok result)
    (settings : Settings) (rest : List Char) :
    (Format.text write parse).reader settings (quoteChars true (write value).toList ++ rest) =
      .ok (result, rest) := by
  simp [Format.text, Reader.convert, Reader.string, readString?_quoteChars, Reader.ofOption,
    parsed, bind, Except.bind, pure, Except.pure]

/-- A list of values that are written as strings is read back where it may nest
deep enough. -/
theorem reader_list
    {values : List alpha}
    (inverse : ∀ value ∈ values, parse (write value) = .ok value)
    (switches : Switches) (depth : Nat) (rest : List Char) :
    (Format.list (Format.text write parse)).reader ⟨switches, depth + 2⟩
        (((Format.list (Format.text write parse)).document values).compact ++ rest) =
      .ok (values, rest) := by
  have starts (value : alpha) :
      ∃ tail, ((Format.text write parse).document value).compact = '"' :: tail :=
    ⟨_, rfl⟩
  have characters :
      ((Format.list (Format.text write parse)).document values).compact ++ rest =
        '[' :: ([','].intercalate
          (values.map fun value => ((Format.text write parse).document value).compact) ++
            ']' :: rest) := by
    simp [Format.list, Document.compactItems_eq, Function.comp_def]
  have enough := length_le_intercalate starts values
  rw [characters]
  simp only [Format.list, Reader.list, Reader.nested, Settings.deeper, expect, readMembers, if_true,
    bind, Except.bind]
  rw [foldMembers_pieces id (by decide) starts]
  · simp [pure, Except.pure]
  · intro value member found behind
    rw [compact_text, reader_text (inverse value member)]
    rfl
  · rw [List.length_append]
    omega

end Strings

/-! ## Documents -/

section Documents

variable {alpha : Type} {format : Format alpha}

/-- A document is read as its value is, if it starts with neither space nor an
attribute. -/
theorem read_write
    {value result : alpha} {first : Char} {tail : List Char}
    (starts : (format.document value).compact = first :: tail)
    (visible : isSpace first = false)
    (noComment : first ≠ '/')
    (noAttribute : first ≠ '#')
    (single : format.reader .initial (format.document value).compact = .ok (result, [])) :
    format.read (format.write value) = .ok result := by
  have characters : (format.write value).toList = first :: tail := by
    simp [Format.write, Document.toCompact, starts]
  have ending : skipSpace [] = .ok [] := rfl
  rw [starts] at single
  simp [Format.read, read, characters, skipSpace_of_visible visible noComment, readPreamble,
    noAttribute, single, ending, bind, Except.bind, pure, Except.pure]

/-- A document that is a list of strings is read back. -/
theorem read_write_list
    {write : alpha → String} {parse : String → Except String alpha} {values : List alpha}
    (inverse : ∀ value ∈ values, parse (write value) = .ok value) :
    (Format.list (Format.text write parse)).read
        ((Format.list (Format.text write parse)).write values) = .ok values := by
  have starts : ((Format.list (Format.text write parse)).document values).compact =
      '[' :: (Document.compactItems (values.map (Format.text write parse).document) ++ [']']) :=
    rfl
  have back := reader_list inverse ⟨false, false, false⟩ 126 []
  rw [List.append_nil] at back
  exact read_write starts (by decide) (by decide) (by decide) back

end Documents

end RecipientRewriting.Notation
