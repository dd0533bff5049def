import RecipientRewriting.Proofs.Notation.Lists

/-!
# Reading maps back

A map whose keys are written as strings is read as its entries, in the order in
which they are written.  What its keys are read as need not be what they are, so
two entries may come to stand for one.
-/

namespace RecipientRewriting.Notation

open Text

namespace Document

@[simp]
theorem compact_map (entries : List (Document × Document)) :
    (map entries).compact = '\x7b' :: compactEntries entries ++ ['\x7d'] :=
  rfl

theorem compactEntries_eq (entries : List (Document × Document)) :
    compactEntries entries =
      [','].intercalate (entries.map fun entry => entry.1.compact ++ ':' :: entry.2.compact) := by
  induction entries with
  | nil => rfl
  | cons entry rest inductionHypothesis =>
      cases rest with
      | nil =>
          rw [List.map_singleton, List.intercalate_singleton]
          rfl
      | cons second rest =>
          have first : compactEntries (entry :: second :: rest) =
              entry.1.compact ++ ':' :: entry.2.compact ++ ',' ::
                compactEntries (second :: rest) :=
            rfl
          rw [first, inductionHypothesis]
          simp

end Document

section Entries

variable {alpha beta : Type} {write : alpha → String} {parse : String → Except String alpha}
  {asRead : alpha → alpha} {format : Format beta} {entries : List (alpha × beta)}

def compactEntry (write : alpha → String) (format : Format beta) (entry : alpha × beta) :
    List Char :=
  quoteChars true (write entry.1).toList ++ ':' :: (format.document entry.2).compact

/-- Entries of a map are read behind its opening brace, where their values may nest
deep enough. -/
theorem reader_entries
    {switches : Switches} {depth : Nat}
    (keys : ∀ entry ∈ entries, parse (write entry.1) = .ok (asRead entry.1))
    (visible : ∀ value, ∃ first tail, (format.document value).compact = first :: tail ∧
      isSpace first = false ∧ first ≠ '/')
    (values : ∀ entry ∈ entries, ∀ rest, format.reader ⟨switches, depth⟩
      ((format.document entry.2).compact ++ rest) = .ok (entry.2, rest))
    (rest : List Char) :
    Reader.entries (Format.text write parse).reader format.reader ⟨switches, depth + 2⟩
        ('\x7b' :: ([','].intercalate (entries.map (compactEntry write format)) ++
          '\x7d' :: rest)) =
      .ok (entries.map fun entry => (asRead entry.1, entry.2), rest) := by
  have starts (entry : alpha × beta) : ∃ tail, compactEntry write format entry = '"' :: tail :=
    ⟨_, rfl⟩
  have enough := length_le_intercalate starts entries
  simp only [Reader.entries, Reader.nested, Settings.deeper, expect, readMembers, if_true, bind,
    Except.bind]
  rw [foldMembers_pieces (fun entry => (asRead entry.1, entry.2)) (by decide) starts]
  · simp [pure, Except.pure]
  · intro entry member found behind
    obtain ⟨first, tail, characters, noSpace, noComment⟩ := visible entry.2
    have spaced : skipSpace ((format.document entry.2).compact ++ behind) =
        .ok ((format.document entry.2).compact ++ behind) := by
      rw [characters]
      exact skipSpace_of_visible noSpace noComment _
    have colon (text : List Char) : skipSpace (':' :: text) = .ok (':' :: text) :=
      skipSpace_of_visible (by decide) (by decide) text
    rw [compactEntry, List.append_assoc, reader_text (keys entry member)]
    simp only [List.cons_append, colon, if_true, spaced, values entry member behind]
    rfl
  · rw [List.length_append]
    omega

/-- A map is read back with each key as what it is read as, where a later entry takes
the place of an earlier one. -/
theorem read_write_orderedMap
    [DecidableEq alpha] [Ord alpha] [Std.TransOrd alpha] [Std.LawfulEqOrd alpha]
    {map : OrderedMap alpha beta}
    (keys : ∀ entry ∈ map.entries, parse (write entry.1) = .ok (asRead entry.1))
    (visible : ∀ value, ∃ first tail, (format.document value).compact = first :: tail ∧
      isSpace first = false ∧ first ≠ '/')
    (values : ∀ entry ∈ map.entries, ∀ rest, format.reader ⟨⟨false, false, false⟩, 126⟩
      ((format.document entry.2).compact ++ rest) = .ok (entry.2, rest)) :
    (Format.orderedMap (Format.text write parse) format).read
        ((Format.orderedMap (Format.text write parse) format).write map) =
      .ok (.ofList (map.entries.map fun entry => (asRead entry.1, entry.2))) := by
  have characters :
      ((Format.orderedMap (Format.text write parse) format).document map).compact =
        '\x7b' :: ([','].intercalate (map.entries.map (compactEntry write format)) ++
          ['\x7d']) := by
    simp [Format.orderedMap, Document.compactEntries_eq, Function.comp_def, compact_text]
    rfl
  have back := reader_entries keys visible values []
  refine read_write characters (by decide) (by decide) (by decide) ?_
  rw [characters]
  exact bind_eq_ok_iff.2 ⟨_, back, rfl⟩

end Entries

end RecipientRewriting.Notation
