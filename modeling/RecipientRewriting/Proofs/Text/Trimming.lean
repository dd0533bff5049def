import Mathlib.Data.List.TakeWhile
import RecipientRewriting.Text.Basic

/-!
# Trimming

What is left of a text when the white space around it is dropped.  A text is left
as it is exactly if it neither starts nor ends in white space, and white space
around it makes no difference to what is left.
-/

namespace RecipientRewriting.Text

/-! ## Nothing to trim -/

theorem dropBlanks_eq_self
    {text : List Char} (front : text.head?.any isBlank = false) :
    dropBlanks text = text := by
  cases text with
  | nil => rfl
  | cons first rest =>
      have shown : isBlank first = false := by simpa using front
      simp [dropBlanks, shown]

theorem getLast?_dropBlanksEnd (text : List Char) :
    (dropBlanksEnd text).getLast?.any isBlank = false := by
  unfold dropBlanksEnd
  rw [List.getLast?_reverse]
  cases left : List.dropWhile isBlank text.reverse with
  | nil => rfl
  | cons first rest =>
      have stops := List.head?_dropWhile_not isBlank text.reverse
      rw [left] at stops
      simpa using stops

theorem dropBlanksEnd_eq_self_iff {text : List Char} :
    dropBlanksEnd text = text ↔ text.getLast?.any isBlank = false := by
  constructor
  · intro same
    rw [← same]
    exact getLast?_dropBlanksEnd text
  · intro back
    rw [← List.head?_reverse] at back
    have kept := dropBlanks_eq_self back
    unfold dropBlanks at kept
    rw [dropBlanksEnd, kept, List.reverse_reverse]

theorem trimBlanks_eq_self
    {text : List Char}
    (front : text.head?.any isBlank = false)
    (back : text.getLast?.any isBlank = false) :
    trimBlanks text = text := by
  rw [trimBlanks, dropBlanks_eq_self front, dropBlanksEnd_eq_self_iff.2 back]

theorem mem_of_mem_trimBlanks
    {character : Char} {text : List Char}
    (member : character ∈ trimBlanks text) :
    character ∈ text := by
  unfold trimBlanks dropBlanksEnd at member
  rw [List.mem_reverse] at member
  have inReverse := (List.dropWhile_sublist isBlank).mem member
  rw [List.mem_reverse] at inReverse
  exact (List.dropWhile_sublist isBlank).mem inReverse

/-! ## White space around a text -/

theorem dropBlanksEnd_append
    {behind : List Char}
    (text : List Char)
    (blank : ∀ character ∈ behind, isBlank character = true) :
    dropBlanksEnd (text ++ behind) = dropBlanksEnd text := by
  have reversedBlank : ∀ character ∈ behind.reverse, isBlank character = true := by
    intro character member
    exact blank character (List.mem_reverse.1 member)
  unfold dropBlanksEnd
  rw [List.reverse_append, List.dropWhile_append_of_pos reversedBlank]

theorem dropBlanks_eq_nil
    {text : List Char}
    (blank : ∀ character ∈ text, isBlank character = true) :
    dropBlanks text = [] :=
  List.dropWhile_eq_nil_iff.2 blank

/-- White space around a text makes no difference to what is left by trimming. -/
theorem trimBlanks_append
    {front behind : List Char}
    (text : List Char)
    (frontBlank : ∀ character ∈ front, isBlank character = true)
    (behindBlank : ∀ character ∈ behind, isBlank character = true) :
    trimBlanks (front ++ text ++ behind) = trimBlanks text := by
  have dropped : dropBlanks (front ++ text ++ behind) = dropBlanks (text ++ behind) := by
    rw [List.append_assoc]
    exact List.dropWhile_append_of_pos frontBlank
  unfold trimBlanks
  rw [dropped]
  by_cases nothing : dropBlanks text = []
  · have allBlank : ∀ character ∈ text ++ behind, isBlank character = true := by
      intro character member
      rcases List.mem_append.1 member with inText | inBehind
      · exact List.dropWhile_eq_nil_iff.1 nothing character inText
      · exact behindBlank character inBehind
    rw [nothing, dropBlanks_eq_nil allBlank]
  · have kept : dropBlanks (text ++ behind) = dropBlanks text ++ behind := by
      have something : (List.dropWhile isBlank text).isEmpty = false := by
        simpa [dropBlanks] using nothing
      unfold dropBlanks
      rw [List.dropWhile_append, something]
      rfl
    rw [kept, dropBlanksEnd_append _ behindBlank]

/-- Nothing in front of a character that is shown is dropped. -/
theorem dropBlanksEnd_append_of_shown
    {front : List Char}
    (shown : front.getLast?.any isBlank = false)
    (text : List Char) :
    dropBlanksEnd (front ++ text) = front ++ dropBlanksEnd text := by
  rw [← List.head?_reverse] at shown
  have kept := dropBlanks_eq_self shown
  unfold dropBlanks at kept
  unfold dropBlanksEnd
  rw [List.reverse_append, List.dropWhile_append, kept]
  by_cases nothing : List.dropWhile isBlank text.reverse = []
  · simp [nothing]
  · simp [nothing]

end RecipientRewriting.Text
