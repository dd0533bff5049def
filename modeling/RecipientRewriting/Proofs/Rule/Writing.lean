import Mathlib.Data.List.Infix
import RecipientRewriting.Proofs.Address.RoundTrip
import RecipientRewriting.Rule.Basic

/-!
# Reading rules back

No marker starts another one, so the marker tells where the target of a written
rule begins, whatever the target looks like.  Reading trims the text it is given:
a written rule is read as itself exactly if its target does not end in white
space, which holds of every rule that has been read.
-/

namespace RecipientRewriting

open Text

/-! ## Markers -/

namespace RuleKind

/-- No marker starts another one. -/
theorem eq_of_marker_isPrefix :
    ∀ kind other : RuleKind, kind.marker.toList <+: other.marker.toList → kind = other := by
  intro kind other
  cases kind <;> cases other <;> decide

/-- A marker neither starts nor ends in white space. -/
theorem marker_shown (kind : RuleKind) :
    kind.marker.toList ≠ [] ∧ kind.marker.toList.head?.any isBlank = false ∧
      kind.marker.toList.getLast?.any isBlank = false := by
  cases kind <;> decide

/-- A text starts with the marker of one kind at most. -/
theorem eq_of_marker_append
    {kind other : RuleKind} {target otherTarget : List Char}
    (same : kind.marker.toList ++ target = other.marker.toList ++ otherTarget) :
    kind = other := by
  have starts : kind.marker.toList <+: other.marker.toList ++ otherTarget :=
    ⟨target, same⟩
  have otherStarts : other.marker.toList <+: other.marker.toList ++ otherTarget :=
    List.prefix_append _ _
  rcases List.prefix_or_prefix_of_prefix starts otherStarts with within | around
  · exact eq_of_marker_isPrefix kind other within
  · exact (eq_of_marker_isPrefix other kind around).symm

end RuleKind

namespace Rule

/-! ## Written rules -/

theorem toList_text (rule : Rule) :
    rule.text.toList = rule.kind.marker.toList ++ rule.target.toList :=
  String.toList_append

/-- Rules that are written alike are equal. -/
theorem text_injective {rule other : Rule} (same : rule.text = other.text) : rule = other := by
  have characters : rule.kind.marker.toList ++ rule.target.toList =
      other.kind.marker.toList ++ other.target.toList := by
    rw [← toList_text, ← toList_text, same]
  obtain ⟨kind, target⟩ := rule
  obtain ⟨otherKind, otherTarget⟩ := other
  obtain rfl : kind = otherKind := RuleKind.eq_of_marker_append characters
  have sameTarget : target = otherTarget :=
    String.toList_inj.1 (List.append_cancel_left characters)
  rw [sameTarget]

/-! ## Reading markers -/

theorem findMarker_append
    {kind : RuleKind} {kinds : List RuleKind}
    (member : kind ∈ kinds) (target : List Char) :
    findMarker (kind.marker.toList ++ target) kinds = some (kind, String.ofList target) := by
  induction kinds with
  | nil => simp at member
  | cons first rest inductionHypothesis =>
      rw [findMarker]
      cases dropped : dropInitial? first.marker.toList (kind.marker.toList ++ target) with
      | some found =>
          have shape := eq_append_of_dropInitial? dropped
          obtain rfl : kind = first := RuleKind.eq_of_marker_append shape
          rw [dropInitial?_append] at dropped
          simp [Option.some.inj dropped]
      | none =>
          rcases List.mem_cons.1 member with rfl | later
          · rw [dropInitial?_append] at dropped
            cases dropped
          · exact inductionHypothesis later

theorem eq_append_of_findMarker
    {text : List Char} {kinds : List RuleKind} {kind : RuleKind} {target : String}
    (found : findMarker text kinds = some (kind, target)) :
    text = kind.marker.toList ++ target.toList := by
  induction kinds with
  | nil => simp [findMarker] at found
  | cons first rest inductionHypothesis =>
      rw [findMarker] at found
      split at found
      · rename_i behind dropped
        obtain ⟨rfl, rfl⟩ := Prod.mk.inj (Option.some.inj found)
        rw [String.toList_ofList]
        exact eq_append_of_dropInitial? dropped
      · exact inductionHypothesis found

/-! ## Reading rules -/

theorem eq_of_make
    {kind : RuleKind} {target : String} {rule : Rule}
    (made : make kind target = .ok rule) :
    rule = ⟨kind, target⟩ := by
  unfold make at made
  split at made
  · cases made
  · split at made
    · cases made
    · exact (Except.ok.inj made).symm

/-- Reading a written rule makes the rule again, from what trimming leaves of its
target. -/
theorem parse_text (rule : Rule) :
    parse rule.text = make rule.kind (String.ofList (dropBlanksEnd rule.target.toList)) := by
  obtain ⟨something, front, back⟩ := rule.kind.marker_shown
  have frontKept : dropBlanks rule.text.toList = rule.text.toList := by
    apply dropBlanks_eq_self
    rw [toList_text, List.head?_append_of_ne_nil _ something]
    exact front
  have trimmed : trimBlanks rule.text.toList =
      rule.kind.marker.toList ++ dropBlanksEnd rule.target.toList := by
    rw [trimBlanks, frontKept, toList_text]
    exact dropBlanksEnd_append_of_shown back _
  unfold parse
  rw [trimmed]
  dsimp only
  rw [findMarker_append rule.kind.mem_all]

/-- A rule that can be made is read back exactly if its target does not end in
white space. -/
theorem parse_text_iff
    {kind : RuleKind} {target : String} {rule : Rule}
    (made : make kind target = .ok rule) :
    parse rule.text = .ok rule ↔ rule.target.toList.getLast?.any isBlank = false := by
  obtain rfl := eq_of_make made
  rw [parse_text, ← dropBlanksEnd_eq_self_iff]
  constructor
  · intro read
    have sameTarget := congrArg Rule.target (eq_of_make read)
    have characters := congrArg String.toList sameTarget
    rw [String.toList_ofList] at characters
    exact characters.symm
  · intro kept
    rw [kept, String.ofList_toList]
    exact made

/-- What has been read is made from a kind and a target without white space at
its end. -/
theorem make_of_parse
    {text : String} {rule : Rule}
    (read : parse text = .ok rule) :
    make rule.kind rule.target = .ok rule ∧
      rule.target.toList.getLast?.any isBlank = false := by
  have ending := getLast?_dropBlanksEnd (dropBlanks text.toList)
  unfold parse at read
  dsimp only at read
  split at read
  · rename_i kind target found
    obtain rfl := eq_of_make read
    refine ⟨read, ?_⟩
    change (trimBlanks text.toList).getLast?.any isBlank = false at ending
    rw [eq_append_of_findMarker found, List.getLast?_append] at ending
    cases last : target.toList.getLast? with
    | none => rfl
    | some character => simpa [last] using ending
  · obtain rfl := eq_of_make read
    refine ⟨read, ?_⟩
    rw [String.toList_ofList]
    exact ending

/-! ## Rules for addresses -/

/-- The written form of an address that was read will do as a target of every
kind but one. -/
theorem make_forAddress
    {kind : RuleKind} {address : Address}
    (noPattern : kind ≠ .regex)
    (parsed : address.IsParsed) :
    make kind (forAddress kind address).target = .ok (forAddress kind address) ∧
      (forAddress kind address).target.toList.getLast?.any isBlank = false := by
  have something : address.text.isEmpty = false := by
    rw [Bool.eq_false_iff, ne_eq, String.isEmpty_iff]
    simp [Address.text]
  constructor
  · simp [make, forAddress, something, noPattern]
  · exact parsed.getLast_text

/-- A rule is read back from its written form exactly if its target does not end in
white space.  Rules that have been read are read back, and so are those that name
an address that has been read.  Rules that are written alike are equal, whatever
their kinds and targets. -/
theorem read_back_exactly :
    (∀ kind target rule, make kind target = .ok rule →
      (parse rule.text = .ok rule ↔ rule.target.toList.getLast?.any isBlank = false)) ∧
    (∀ text rule, parse text = .ok rule →
      parse rule.text = .ok rule ∧ rule.target.toList.getLast?.any isBlank = false) ∧
    (∀ kind text address, kind ∈ [RuleKind.userAlias, .group, .forward] →
      Address.parse text = .ok address →
        parse (forAddress kind address).text = .ok (forAddress kind address) ∧
          (forAddress kind address).target.toList.getLast?.any isBlank = false) ∧
    ∀ rule other : Rule, rule.text = other.text → rule = other := by
  refine ⟨fun _ _ _ => parse_text_iff, ?_, ?_, fun _ _ => text_injective⟩
  · intro text rule read
    obtain ⟨made, ending⟩ := make_of_parse read
    exact ⟨(parse_text_iff made).2 ending, ending⟩
  · intro kind text address naming read
    have noPattern : kind ≠ .regex := by
      rintro rfl
      simp at naming
    obtain ⟨made, ending⟩ := make_forAddress noPattern ⟨text, read⟩
    exact ⟨(parse_text_iff made).2 ending, ending⟩

/-- A target that starts with white space and the marker of another kind. -/
def nested : Rule :=
  ⟨.domain, " domainAlias:alias:y.org"⟩

/-- A replacement that ends in white space. -/
def trailing : Rule :=
  ⟨.regex, "(.*)@x.org:carol\u3000"⟩

theorem awkward_read_back :
    make .domain nested.target = .ok nested ∧ parse nested.text = .ok nested ∧
      make .regex trailing.target = .ok trailing ∧ parse trailing.text ≠ .ok trailing ∧
      parse "\terror: \n" = .ok ⟨.error, ""⟩ ∧ parse "error:" = .ok ⟨.error, ""⟩ ∧
      parse "forward:\"a b\"@[192.0.2.1]" = .ok ⟨.forward, "\"a b\"@[192.0.2.1]"⟩ ∧
      nested.text ≠ trailing.text := by
  obtain ⟨made_iff, read_again, addresses, injective⟩ := read_back_exactly
  have nestedMade : make .domain nested.target = .ok nested := by decide
  have trailingMade : make .regex trailing.target = .ok trailing := by decide
  have emptyRead : parse "\terror: \n" = .ok ⟨.error, ""⟩ := by decide
  have quotedRead : Address.parse "<\"a b\"@[192.0.2.1]>" =
      .ok ⟨"\"a b\"", .ofString "[192.0.2.1]"⟩ := by
    decide +kernel
  have unlike : nested ≠ trailing := by decide
  refine ⟨nestedMade, (made_iff _ _ _ nestedMade).2 (by decide), trailingMade, ?_, emptyRead,
    (read_again _ _ emptyRead).1, ?_, fun same => unlike (injective _ _ same)⟩
  · intro read
    have ending := (made_iff _ _ _ trailingMade).1 read
    revert ending
    decide
  · exact (addresses .forward _ _ (by decide) quotedRead).1

end Rule

end RecipientRewriting
