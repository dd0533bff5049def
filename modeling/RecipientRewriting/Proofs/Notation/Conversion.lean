import Mathlib.Data.List.Forall2
import RecipientRewriting.Proofs.Notation.Lists

/-!
# Values made from other values

A reader that makes its values from those of another one reads the same texts,
except where there is nothing to make.  This carries over to lists and to whole
documents: a list of values that are written as strings is read exactly where a
list of strings is, and each of them stands for a value.
-/

namespace RecipientRewriting.Notation

/-! ## Pairs of lists -/

theorem exists_related_of_mem
    {alpha beta : Type} {relation : alpha → beta → Prop}
    {items : List alpha} {values : List beta} {item : alpha}
    (related : List.Forall₂ relation items values)
    (member : item ∈ items) :
    ∃ value ∈ values, relation item value := by
  induction related with
  | nil => simp at member
  | @cons first firstValue rest values firstRelated _ inductionHypothesis =>
      rcases List.mem_cons.1 member with rfl | later
      · exact ⟨firstValue, List.mem_cons_self, firstRelated⟩
      · obtain ⟨value, inValues, holds⟩ := inductionHypothesis later
        exact ⟨value, List.mem_cons_of_mem firstValue inValues, holds⟩

namespace Reader

variable {alpha beta : Type} {relation : alpha → beta → Prop}
  {raw : Reader alpha} {reader : Reader beta}

/-- `reader` reads where `raw` reads something that is related to a value, and
takes as much of the text. -/
def Converts (relation : alpha → beta → Prop) (raw : Reader alpha) (reader : Reader beta) :
    Prop :=
  ∀ settings text value rest,
    reader settings text = .ok (value, rest) ↔
      ∃ found, raw settings text = .ok (found, rest) ∧ relation found value

theorem converts_convert (change : alpha → Except String beta) (raw : Reader alpha) :
    Converts (fun found value => change found = .ok value) raw (convert change raw) := by
  intro settings text value rest
  unfold convert
  rw [bind_eq_ok_iff]
  constructor
  · rintro ⟨⟨found, behind⟩, read, converted⟩
    cases outcome : change found with
    | error reason => simp [outcome] at converted
    | ok result =>
        obtain ⟨rfl, rfl⟩ : result = value ∧ behind = rest := by
          simpa [outcome, pure, Except.pure] using converted
        exact ⟨found, read, outcome⟩
  · rintro ⟨found, read, related⟩
    refine ⟨(found, rest), read, ?_⟩
    simp [related, pure, Except.pure]

theorem Converts.nested
    (converts : Converts relation raw reader) :
    Converts relation (nested raw) (nested reader) := by
  intro settings text value rest
  unfold Reader.nested
  simp only [bind_eq_ok_iff]
  constructor
  · rintro ⟨below, deeper, read⟩
    obtain ⟨found, rawRead, related⟩ := (converts below text value rest).1 read
    exact ⟨found, ⟨below, deeper, rawRead⟩, related⟩
  · rintro ⟨found, ⟨below, deeper, rawRead⟩, related⟩
    exact ⟨below, deeper, (converts below text value rest).2 ⟨found, rawRead, related⟩⟩

/-! ## Lists -/

/-- Reads one more item of a list, in front of those found already. -/
def oneMore (item : Reader alpha) (settings : Settings) (found : List alpha)
    (text : List Char) : Except ReadError (List alpha × List Char) := do
  let (value, rest) ← item settings text
  pure (value :: found, rest)

theorem oneMore_eq_ok_iff
    {item : Reader alpha} {settings : Settings} {found after : List alpha}
    {text rest : List Char} :
    oneMore item settings found text = .ok (after, rest) ↔
      ∃ value, item settings text = .ok (value, rest) ∧ after = value :: found := by
  unfold oneMore
  rw [bind_eq_ok_iff]
  constructor
  · rintro ⟨⟨value, behind⟩, read, same⟩
    obtain ⟨rfl, rfl⟩ : value :: found = after ∧ behind = rest := by
      simpa [pure, Except.pure] using same
    exact ⟨value, read, rfl⟩
  · rintro ⟨value, read, rfl⟩
    exact ⟨(value, rest), read, rfl⟩

/-- What has been found while items are read is found in the end. -/
theorem mem_of_foldMembers
    {item : Reader alpha} {settings : Settings} {closing : Char} {fuel : Nat}
    {separated : Bool} {found values : List alpha} {text rest : List Char} {value : alpha}
    (read : foldMembers closing (oneMore item settings) fuel separated found text =
      .ok (values, rest))
    (member : value ∈ found) :
    value ∈ values := by
  refine foldMembers_invariant (fun items : List alpha => value ∈ items) ?_ member read
  intro before text after behind one inBefore
  obtain ⟨other, _, rfl⟩ := oneMore_eq_ok_iff.1 one
  exact List.mem_cons_of_mem other inBefore

theorem foldMembers_converts
    {settings : Settings} {closing : Char} {fuel : Nat} {separated : Bool}
    {rawFound : List alpha} {found values : List beta} {text rest : List Char}
    (unique : Relator.RightUnique relation)
    (converts : Converts relation raw reader)
    (related : List.Forall₂ relation rawFound found) :
    foldMembers closing (oneMore reader settings) fuel separated found text =
        .ok (values, rest) ↔
      ∃ raws, foldMembers closing (oneMore raw settings) fuel separated rawFound text =
          .ok (raws, rest) ∧
        List.Forall₂ relation raws values := by
  induction fuel generalizing separated rawFound found text with
  | zero => simp [foldMembers]
  | succ fuel inductionHypothesis =>
      constructor
      · intro read
        obtain ⟨shown, space, ⟨closes, rfl, rfl⟩ | ⟨opens, rfl, next, behind, goesOn, remaining,
          one, comma, later⟩⟩ := foldMembers_succ_eq_ok_iff.1 read
        · refine ⟨rawFound, ?_, related⟩
          exact foldMembers_succ_eq_ok_iff.2 ⟨shown, space, Or.inl ⟨closes, rfl, rfl⟩⟩
        · obtain ⟨value, readOne, rfl⟩ := oneMore_eq_ok_iff.1 one
          obtain ⟨item, rawOne, itemRelated⟩ := (converts _ _ _ _).1 readOne
          obtain ⟨raws, rawLater, rawsRelated⟩ :=
            (inductionHypothesis (.cons itemRelated related)).1 later
          have rawNext : oneMore raw settings rawFound shown = .ok (item :: rawFound, behind) :=
            oneMore_eq_ok_iff.2 ⟨item, rawOne, rfl⟩
          refine ⟨raws, ?_, rawsRelated⟩
          exact foldMembers_succ_eq_ok_iff.2 ⟨shown, space,
            Or.inr ⟨opens, rfl, _, behind, goesOn, remaining, rawNext, comma, rawLater⟩⟩
      · rintro ⟨raws, rawRead, rawsRelated⟩
        obtain ⟨shown, space, ⟨closes, rfl, rfl⟩ | ⟨opens, rfl, next, behind, goesOn, remaining,
          one, comma, rawLater⟩⟩ := foldMembers_succ_eq_ok_iff.1 rawRead
        · rw [unique.forall₂ related rawsRelated]
          exact foldMembers_succ_eq_ok_iff.2 ⟨shown, space, Or.inl ⟨closes, rfl, rfl⟩⟩
        · obtain ⟨item, rawOne, rfl⟩ := oneMore_eq_ok_iff.1 one
          -- The item is among those read in the end, all of which stand for values.
          have inRaws := mem_of_foldMembers rawLater List.mem_cons_self
          obtain ⟨value, _, itemRelated⟩ := exists_related_of_mem rawsRelated inRaws
          have readOne := (converts _ _ _ _).2 ⟨item, rawOne, itemRelated⟩
          have later :=
            (inductionHypothesis (.cons itemRelated related)).2 ⟨raws, rawLater, rawsRelated⟩
          have nextRead : oneMore reader settings found shown = .ok (value :: found, behind) :=
            oneMore_eq_ok_iff.2 ⟨value, readOne, rfl⟩
          exact foldMembers_succ_eq_ok_iff.2 ⟨shown, space,
            Or.inr ⟨opens, rfl, _, behind, goesOn, remaining, nextRead, comma, later⟩⟩

theorem list_eq_ok_iff
    {item : Reader alpha} {settings : Settings} {values : List alpha} {text rest : List Char} :
    list item settings text = .ok (values, rest) ↔
      ∃ below opened, settings.deeper = .ok below ∧ expect '[' text = .ok opened ∧
        readMembers ']' (oneMore item.nested below) [] opened =
          .ok (values.reverse, rest) := by
  unfold list nested
  simp only [bind_eq_ok_iff]
  constructor
  · rintro ⟨below, deeper, opened, bracket, ⟨found, behind⟩, members, same⟩
    obtain ⟨rfl, rfl⟩ : found.reverse = values ∧ behind = rest := by
      simpa [pure, Except.pure] using same
    rw [List.reverse_reverse]
    exact ⟨below, opened, deeper, bracket, members⟩
  · rintro ⟨below, opened, deeper, bracket, members⟩
    refine ⟨below, deeper, opened, bracket, _, members, ?_⟩
    simp [pure, Except.pure]

theorem Converts.list
    (unique : Relator.RightUnique relation)
    (converts : Converts relation raw reader) :
    Converts (List.Forall₂ relation) (list raw) (list reader) := by
  intro settings text values rest
  simp only [list_eq_ok_iff]
  constructor
  · rintro ⟨below, opened, deeper, bracket, members⟩
    obtain ⟨raws, rawMembers, related⟩ :=
      (foldMembers_converts unique converts.nested .nil).1 members
    refine ⟨raws.reverse, ⟨below, opened, deeper, bracket, ?_⟩, ?_⟩
    · rw [List.reverse_reverse]
      exact rawMembers
    · rw [← List.forall₂_reverse_iff, List.reverse_reverse]
      exact related
  · rintro ⟨raws, ⟨below, opened, deeper, bracket, rawMembers⟩, related⟩
    have reversed := List.forall₂_reverse_iff.2 related
    exact ⟨below, opened, deeper, bracket,
      (foldMembers_converts unique converts.nested .nil).2 ⟨_, rawMembers, reversed⟩⟩

end Reader

/-! ## Documents -/

theorem read_eq_ok_iff
    {alpha : Type} {reader : Reader alpha} {text : String} {value : alpha} :
    read reader text = .ok value ↔
      ∃ shown settings document rest, skipSpace text.toList = .ok shown ∧
        readPreamble (text.toList.length + 1) .initial shown = .ok (settings, document) ∧
        reader settings document = .ok (value, rest) ∧
        skipSpace rest = .ok [] := by
  unfold read
  simp only [bind_eq_ok_iff]
  constructor
  · rintro ⟨shown, space, ⟨settings, document⟩, preamble, ⟨found, rest⟩, single, behind,
      spaceBehind, ends⟩
    by_cases nothing : behind.isEmpty = true
    · rw [if_pos nothing] at ends
      obtain rfl : found = value := by simpa [pure, Except.pure] using ends
      obtain rfl : behind = [] := by simpa using nothing
      exact ⟨shown, settings, document, rest, space, preamble, single, spaceBehind⟩
    · rw [if_neg nothing] at ends
      simp at ends
  · rintro ⟨shown, settings, document, rest, space, preamble, single, spaceBehind⟩
    exact ⟨shown, space, _, preamble, _, single, [], spaceBehind, rfl⟩

theorem Reader.Converts.read_eq_ok_iff
    {alpha beta : Type} {relation : alpha → beta → Prop} {raw : Reader alpha}
    {reader : Reader beta} {text : String} {value : beta}
    (converts : Converts relation raw reader) :
    read reader text = .ok value ↔
      ∃ found, read raw text = .ok found ∧ relation found value := by
  simp only [Notation.read_eq_ok_iff]
  constructor
  · rintro ⟨shown, settings, document, rest, space, preamble, single, ends⟩
    obtain ⟨found, rawSingle, related⟩ := (converts _ _ _ _).1 single
    exact ⟨found, ⟨shown, settings, document, rest, space, preamble, rawSingle, ends⟩, related⟩
  · rintro ⟨found, ⟨shown, settings, document, rest, space, preamble, rawSingle, ends⟩, related⟩
    exact ⟨shown, settings, document, rest, space, preamble,
      (converts _ _ _ _).2 ⟨found, rawSingle, related⟩, ends⟩

/-- A list of values that are written as strings is read exactly where a list of
strings is read, each of which is read as the value in its place. -/
theorem read_list_text_iff
    {alpha : Type} {write : alpha → String} {parse : String → Except String alpha}
    {text : String} {values : List alpha} :
    (Format.list (Format.text write parse)).read text = .ok values ↔
      ∃ texts, (Format.list .string).read text = .ok texts ∧
        List.Forall₂ (fun written value => parse written = .ok value) texts values := by
  have unique : Relator.RightUnique fun written value => parse written = .ok value := by
    intro written value other parsed otherParsed
    rw [parsed] at otherParsed
    simpa using otherParsed
  have single := Reader.converts_convert parse Reader.string
  exact (single.list unique).read_eq_ok_iff

end RecipientRewriting.Notation
