import RecipientRewriting.Address.Basic
import RecipientRewriting.Rule.Kind
import RecipientRewriting.UniqueList

/-!
# Rules

A rule is a kind and a target, written as the marker of the kind followed by
the target.  Reading a rule checks its target only as far as the kind demands:
whether an address in a target is valid shows when the rule is applied.
-/

namespace RecipientRewriting

open Text

/-- Why a text is not a rule or not the source of rules. -/
inductive RuleFault
  /-- Only an error rule may have an empty target. -/
  | emptyTarget
  /-- A pattern without a replacement. -/
  | missingReplacement
  /-- The source of a rule is no address. -/
  | address (fault : AddressError)
  /-- The source of a rule has a quoted local part. -/
  | quotedLocalPart
  deriving DecidableEq, Repr

def RuleFault.message : RuleFault → String
  | .emptyTarget => "empty target"
  | .missingReplacement => "expected <pattern>:<replacement>"
  | .address fault => fault.message
  | .quotedLocalPart => "quoted local part"

/-- A text that was to be a rule or the source of rules, and why it is none. -/
structure InvalidRule where
  text : String
  fault : RuleFault
  deriving DecidableEq, Repr

def InvalidRule.message (invalid : InvalidRule) : String :=
  "Invalid mapping '" ++ invalid.text ++ "': " ++ invalid.fault.message

structure Rule where
  kind : RuleKind
  target : String
  deriving DecidableEq, Repr

/-- Cuts the target of a regex rule into pattern and replacement, at the first
colon behind the first character, so that a pattern may start with a colon. -/
def cutPattern : List Char → Option (List Char × List Char)
  | [] => none
  | first :: rest =>
      (cutFirst ':' rest).map fun (pattern, replacement) => (first :: pattern, replacement)

namespace Rule

def text (rule : Rule) : String :=
  rule.kind.marker ++ rule.target

instance : ToString Rule :=
  ⟨text⟩

/-- A rule with a checked target. -/
def make (kind : RuleKind) (target : String) : Except InvalidRule Rule :=
  if target.isEmpty && kind ≠ .error then
    .error ⟨kind.marker ++ target, .emptyTarget⟩
  else if kind = .regex && (cutPattern target.toList).isNone then
    .error ⟨kind.marker ++ target, .missingReplacement⟩
  else
    .ok ⟨kind, target⟩

def forAddress (kind : RuleKind) (address : Address) : Rule :=
  ⟨kind, address.text⟩

/-- The first of `kinds` whose marker starts `text`, with what follows the
marker. -/
def findMarker (text : List Char) : List RuleKind → Option (RuleKind × String)
  | [] => none
  | kind :: rest =>
      match dropInitial? kind.marker.toList text with
      | some target => some (kind, String.ofList target)
      | none => findMarker text rest

/-- Reads a rule.  A text without a marker is the target of an alias. -/
def parse (text : String) : Except InvalidRule Rule :=
  let trimmed := trimBlanks text.toList
  match findMarker trimmed RuleKind.all with
  | some (kind, target) => make kind target
  | none => make .userAlias (String.ofList trimmed)

/-- The address that the target names.  The text of an error rule names none. -/
def address? (rule : Rule) : Option Address :=
  if rule.kind = .error then none else Address.parse? rule.target

/-- Whether the target names a user and leaves the domain to be implied. -/
def needsDomain (rule : Rule) : Bool :=
  rule.kind.keepsIdentity && !rule.target.toList.contains '@'

def completeWith (rule : Rule) (domain : Domain) : Rule :=
  if rule.needsDomain then { rule with target := rule.target ++ "@" ++ domain.text } else rule

def patternParts? (rule : Rule) : Option (String × String) :=
  if rule.kind = .regex then
    (cutPattern rule.target.toList).map fun (pattern, replacement) =>
      (String.ofList pattern, String.ofList replacement)
  else
    none

end Rule

/-! ## Lists of rules -/

/-- The rules stored under one source: no rule twice, oldest first. -/
abbrev RuleList :=
  List Rule

namespace RuleList

def select (rules : RuleList) (kinds : KindSet) : RuleList :=
  rules.filter fun rule => kinds.contains rule.kind

def ofKind (rules : RuleList) (kind : RuleKind) : RuleList :=
  RuleList.select rules (.only kind)

/-- The text of the first error rule. -/
def rejection? (rules : RuleList) : Option String :=
  (rules.find? fun rule => rule.kind = .error).map Rule.target

/-- Stores a rule behind the others, unless it is there already; the answer says
whether it is new. -/
def insert (rules : RuleList) (rule : Rule) : Bool × RuleList :=
  if rules.contains rule then (false, rules) else (true, rules ++ [rule])

/-- Takes a rule out; the answer says whether that left fewer rules. -/
def remove (rules : RuleList) (rule : Rule) : Bool × RuleList :=
  let kept := rules.filter fun other => other ≠ rule
  (kept.length != rules.length, kept)

/-! ### What the operations answer and leave -/

variable {rules : RuleList} {rule : Rule}

theorem rejection?_eq_none_iff :
    rejection? rules = none ↔ ∀ rule ∈ rules, rule.kind ≠ .error := by
  simp [rejection?]

theorem rejection?_eq_some_iff {reason : String} :
    rejection? rules = some reason ↔
      ∃ earlier later, rules = earlier ++ ⟨.error, reason⟩ :: later ∧
        ∀ rule ∈ earlier, rule.kind ≠ .error := by
  unfold rejection?
  rw [Option.map_eq_some_iff]
  constructor
  · rintro ⟨⟨kind, target⟩, found, rfl⟩
    obtain ⟨isError, earlier, later, split, none⟩ := List.find?_eq_some_iff_append.1 found
    obtain rfl : kind = .error := by simpa using isError
    exact ⟨earlier, later, split, fun rule member => by simpa using none rule member⟩
  · rintro ⟨earlier, later, rfl, none⟩
    refine ⟨_, List.find?_eq_some_iff_append.2 ⟨by simp, earlier, later, rfl, ?_⟩, rfl⟩
    exact fun rule member => by simpa using none rule member

@[simp]
theorem insert_fst : (insert rules rule).1 = true ↔ rule ∉ rules := by
  by_cases present : rule ∈ rules
  · simp [insert, present]
  · simp [insert, present]

@[simp]
theorem insert_snd : (insert rules rule).2 = UniqueList.add rules rule := by
  by_cases present : rule ∈ rules
  · simp [insert, UniqueList.add, present]
  · simp [insert, UniqueList.add, present]

/-- A rule is taken out exactly if it was there. -/
@[simp]
theorem remove_fst : (remove rules rule).1 = true ↔ rule ∈ rules := by
  have shorter : (remove rules rule).1 = true ↔
      ¬ (rules.filter fun other => other ≠ rule).length = rules.length := by
    simp [remove]
  rw [shorter, List.length_filter_eq_length_iff]
  simp

@[simp]
theorem mem_remove {other : Rule} :
    other ∈ (remove rules rule).2 ↔ other ∈ rules ∧ other ≠ rule := by
  simp [remove]

theorem remove_sublist : List.Sublist (remove rules rule).2 rules :=
  List.filter_sublist

theorem remove_snd_of_not_mem (absent : rule ∉ rules) : (remove rules rule).2 = rules := by
  refine List.filter_eq_self.2 fun other member => ?_
  have different : other ≠ rule := fun same => absent (same ▸ member)
  simpa using different

end RuleList

end RecipientRewriting
