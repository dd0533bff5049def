import RecipientRewriting.Proofs.Processing.Phases
import RecipientRewriting.Proofs.Resolution.Heeding
import RecipientRewriting.Transport

/-!
# Rules that are not asked for

The first phase asks a directory for rules of certain kinds, for the default domain
and for local domains, and for nothing else.  Directories that answer these
questions alike take it through the same steps.  If forwarding rules are applied
separately they are of no kind that is asked for, so the first phase does not
depend on where they lead.
-/

namespace RecipientRewriting

/-! ## Directories -/

/-- The directories answer alike whatever is asked about `kinds`; their forwarding
rules are not compared. -/
structure Directory.AnswersAlike {world : Type} (kinds : KindSet)
    (directory other : Directory world) : Prop where
  resolve : ∀ source, directory.resolve source kinds = other.resolve source kinds
  defaultDomain : directory.defaultDomain = other.defaultDomain
  isLocal : directory.isLocal = other.isLocal

/-- The directory with its rules taken from a table.  How long lookups take, and
everything that is no rule, stays as it is. -/
def Directory.withTable {world : Type} (directory : Directory world) (table : RuleTable) :
    Directory world where
  resolve source kinds now :=
    let (timed, later) := directory.resolve source kinds now
    (⟨table.resolve source kinds, timed.milliseconds⟩, later)
  forwardRules source now :=
    let (timed, later) := directory.forwardRules source now
    (⟨.ok (table.forwardRules source), timed.milliseconds⟩, later)
  defaultDomain := directory.defaultDomain
  isLocal := directory.isLocal

theorem Directory.withTable_answersAlike
    {world : Type} {table other : RuleTable} {kinds : KindSet}
    (directory : Directory world) (agree : table.AgreesOn kinds other)
    (sameLimit : table.mappingLimit = other.mappingLimit) :
    (directory.withTable table).AnswersAlike kinds (directory.withTable other) where
  resolve := by
    intro source
    dsimp only [withTable]
    rw [agree.resolve_eq sameLimit source]
  defaultDomain := rfl
  isLocal := rfl

/-! ## The first phase -/

namespace Processor

variable {directoryWorld transportWorld : Type}

def withDirectory (processor : Processor directoryWorld transportWorld)
    (directory : Directory directoryWorld) : Processor directoryWorld transportWorld :=
  { processor with directory }

variable {processor : Processor directoryWorld transportWorld}
  {directory other : Directory directoryWorld}

theorem resolve_congr
    (alike : directory.AnswersAlike processor.settings.kinds other) (source : Source) :
    (processor.withDirectory directory).resolve source =
      (processor.withDirectory other).resolve source := by
  unfold resolve withDirectory
  rw [alike.resolve source]

theorem isLocal_congr
    (alike : directory.AnswersAlike processor.settings.kinds other) :
    (processor.withDirectory directory).isLocal = (processor.withDirectory other).isLocal := by
  funext domain
  unfold isLocal withDirectory
  rw [alike.isLocal]

theorem complete_congr
    (alike : directory.AnswersAlike processor.settings.kinds other) (rule : Rule) :
    (processor.withDirectory directory).complete rule =
      (processor.withDirectory other).complete rule := by
  unfold complete defaultDomain withDirectory
  rw [alike.defaultDomain]

theorem addTargets_congr
    (alike : directory.AnswersAlike processor.settings.kinds other)
    (found : List Address) (rules : RuleList) :
    (processor.withDirectory directory).addTargets found rules =
      (processor.withDirectory other).addTargets found rules := by
  induction rules generalizing found with
  | nil => rfl
  | cons rule rest inductionHypothesis =>
      simp only [addTargets, complete_congr alike, inductionHypothesis]

theorem decide_congr
    (alike : directory.AnswersAlike processor.settings.kinds other) (recipient : Address) :
    (processor.withDirectory directory).decide recipient =
      (processor.withDirectory other).decide recipient := by
  simp only [decide, targets, resolve_congr alike, isLocal_congr alike, addTargets_congr alike]

theorem decideAll_congr
    (alike : directory.AnswersAlike processor.settings.kinds other) (recipients : List Address) :
    (processor.withDirectory directory).decideAll recipients =
      (processor.withDirectory other).decideAll recipients := by
  induction recipients with
  | nil => rfl
  | cons recipient rest inductionHypothesis =>
      rw [decideAll, decideAll, decide_congr alike, inductionHypothesis]

/-- What is done about decisions does not involve the directory. -/
theorem redirect_withDirectory (mail : Mail) (decisions : List Decision) :
    (processor.withDirectory directory).redirect mail decisions =
      processor.redirect mail decisions := by
  induction decisions with
  | nil => rfl
  | cons decision rest inductionHypothesis =>
      rw [redirect, redirect, inductionHypothesis]
      rfl

/-- The first phase is the same with any two directories that answer its questions
alike. -/
theorem rewriting_congr
    (alike : directory.AnswersAlike processor.settings.kinds other)
    (mail : Mail) (surroundings : Surroundings directoryWorld transportWorld) :
    (processor.withDirectory directory).rewriting mail surroundings =
      (processor.withDirectory other).rewriting mail surroundings := by
  have phase : (processor.withDirectory directory).replaceRecipients =
      (processor.withDirectory other).replaceRecipients := by
    unfold replaceRecipients
    simp only [decideAll_congr alike, redirect_withDirectory]
    rfl
  unfold rewriting
  rw [phase]

end Processor

/-! ## Tables -/

/-- The tables have the same settings and differ at most in their forwarding rules,
as when these lead elsewhere; a source has rules in one of them if it has any in
the other. -/
structure RuleTable.DiffersInForwards (table other : RuleTable) : Prop where
  recursive : table.recursive = other.recursive
  mappingLimit : table.mappingLimit = other.mappingLimit
  defaultDomain : table.defaultDomain = other.defaultDomain
  occupied : ∀ source, table.stored source = [] ↔ other.stored source = []
  others : ∀ source, (table.stored source).filter (fun rule => rule.kind ≠ .forward) =
    (other.stored source).filter fun rule => rule.kind ≠ .forward

theorem RuleList.heeded_of_unforwarded (rules : RuleList) :
    RuleList.heeded rules (KindSet.all.excluding .forward) =
      rules.filter fun rule => rule.kind ≠ .forward := by
  unfold heeded select
  refine List.filter_congr fun rule _ => ?_
  cases rule.kind <;> decide

namespace RuleTable

variable {table other : RuleTable}

theorem DiffersInForwards.agreesOn (differs : table.DiffersInForwards other) :
    table.AgreesOn (KindSet.all.excluding .forward) other where
  recursive := differs.recursive
  defaultDomain := differs.defaultDomain
  occupied := differs.occupied
  heeded := by
    intro source
    rw [RuleList.heeded_of_unforwarded, RuleList.heeded_of_unforwarded]
    exact differs.others source

/-- A rule and what becomes of it when forwarding rules are changed. -/
def Retargets (rule changed : Rule) : Prop :=
  rule = changed ∨ rule.kind = .forward ∧ changed.kind = .forward

theorem filter_eq_of_retargets
    {rules changed : RuleList} (retargets : List.Forall₂ Retargets rules changed) :
    rules.filter (fun rule => rule.kind ≠ .forward) =
      changed.filter fun rule => rule.kind ≠ .forward := by
  induction retargets with
  | nil => rfl
  | cons first _ inductionHypothesis =>
      rcases first with rfl | ⟨forwards, stillForwards⟩
      · simp only [List.filter_cons, inductionHypothesis]
      · simpa [forwards, stillForwards] using inductionHypothesis

/-- Tables differ in forwarding rules if one has other targets in them. -/
theorem differsInForwards_of_retargets
    (recursive : table.recursive = other.recursive)
    (mappingLimit : table.mappingLimit = other.mappingLimit)
    (defaultDomain : table.defaultDomain = other.defaultDomain)
    (retargets : ∀ source,
      List.Forall₂ Retargets (table.stored source) (other.stored source)) :
    table.DiffersInForwards other where
  recursive := recursive
  mappingLimit := mappingLimit
  defaultDomain := defaultDomain
  occupied := by
    intro source
    rw [← List.length_eq_zero_iff, ← List.length_eq_zero_iff, (retargets source).length_eq]
  others := fun source => filter_eq_of_retargets (retargets source)

/-- For any kinds of rules, tables with the same settings that store the same error
rules and rules of these kinds, and have rules for the same sources, answer alike for
every source.  If forwarding rules are applied separately, a processor whose rules
come from a table goes through the same first phase with every table that differs at
most in forwarding rules. -/
theorem unrequested_irrelevant
    {directoryWorld transportWorld : Type} (table other : RuleTable)
    (processor : Processor directoryWorld transportWorld) :
    (∀ kinds, table.AgreesOn kinds other → table.mappingLimit = other.mappingLimit →
      ∀ source, table.resolve source kinds = other.resolve source kinds) ∧
    (processor.settings.forwardSeparately = true → table.DiffersInForwards other →
      ∀ mail surroundings,
        (processor.withDirectory (processor.directory.withTable table)).rewriting mail
            surroundings =
          (processor.withDirectory (processor.directory.withTable other)).rewriting mail
            surroundings) := by
  constructor
  · intro kinds agree sameLimit
    exact agree.resolve_eq sameLimit
  · intro separately differs mail surroundings
    have asked : processor.settings.kinds = KindSet.all.excluding .forward := by
      rw [ProcessorSettings.kinds, if_pos separately]
    refine Processor.rewriting_congr ?_ mail surroundings
    rw [asked]
    exact processor.directory.withTable_answersAlike differs.agreesOn differs.mappingLimit

/-! ## A user whose forwarding rule hides the rules of the domain -/

def crewLead : Source :=
  .user "a" (.ofString "x.org")

def crewMember : Source :=
  .user "e" (.ofString "x.org")

/-- A table in which both users forward to the same target, and mail for anyone else
in their domain is rejected. -/
def crew (target : String) : RuleTable where
  rules := .ofList [
    (crewLead, [⟨.userAlias, "b@y.org"⟩, ⟨.forward, target⟩]),
    (crewMember, [⟨.forward, target⟩]),
    (.anyone (.ofString "x.org"), [⟨.error, "no such user"⟩])]
  recursive := true
  mappingLimit := 10
  defaultDomain := none

def crewProcessor : Processor Unit Recorder where
  settings := ⟨true, true, .error, none⟩
  audit := .default
  directory := .ofTable (crew "c@y.org") ⟨[.ofString "x.org"], none⟩
  transport := Recorder.transport

def crewMail : Mail :=
  .fresh ⟨0⟩ ⟨none, [⟨"a", .ofString "x.org"⟩, ⟨"e", .ofString "x.org"⟩]⟩ []

theorem crew_retargets (target other : String) (source : Source) :
    List.Forall₂ Retargets ((crew target).stored source) ((crew other).stored source) := by
  have changed : Retargets ⟨.forward, target⟩ ⟨.forward, other⟩ := Or.inr ⟨rfl, rfl⟩
  simp only [stored, crew, OrderedMap.ofList, List.foldl, OrderedMap.find?_insert,
    OrderedMap.find?_empty]
  split
  · exact .cons (Or.inl rfl) .nil
  · split
    · exact .cons changed .nil
    · split
      · exact .cons (Or.inl rfl) (.cons changed .nil)
      · exact .nil

/-- Wherever the two users forward to, the first phase goes on to the alias and keeps
the other user, although a lookup for every kind finds the targets. -/
theorem crew_unaffected :
    crewProcessor.settings.forwardSeparately = true ∧
      (crew "c@y.org").DiffersInForwards (crew "d@z.org") ∧
      (crew "c@y.org").resolve crewMember .all ≠ (crew "d@z.org").resolve crewMember .all ∧
      (crew "c@y.org").resolve crewMember (KindSet.all.excluding .forward) =
        (crew "d@z.org").resolve crewMember (KindSet.all.excluding .forward) ∧
      (crewProcessor.withDirectory
        (crewProcessor.directory.withTable (crew "d@z.org"))).rewriting crewMail
          ⟨(), .empty, ⟨1⟩⟩ =
        crewProcessor.rewriting crewMail ⟨(), .empty, ⟨1⟩⟩ ∧
      (crewProcessor.rewriting crewMail ⟨(), .empty, ⟨1⟩⟩).mail.recipients =
        [⟨"e", .ofString "x.org"⟩] := by
  have differs : (crew "c@y.org").DiffersInForwards (crew "d@z.org") :=
    differsInForwards_of_retargets rfl rfl rfl (crew_retargets "c@y.org" "d@z.org")
  obtain ⟨lookups, phases⟩ :=
    unrequested_irrelevant (crew "c@y.org") (crew "d@z.org") crewProcessor
  refine ⟨rfl, differs, ?_, lookups _ differs.agreesOn rfl crewMember, ?_, ?_⟩
  · decide +kernel
  · exact (phases rfl differs crewMail ⟨(), .empty, ⟨1⟩⟩).symm
  · decide +kernel

end RuleTable

end RecipientRewriting
