import Mathlib.Data.List.Induction
import RecipientRewriting.Formats
import RecipientRewriting.Proofs.Dsn.HandOn
import RecipientRewriting.Proofs.Notation.Records
import RecipientRewriting.Proofs.OrderedMap

/-!
# Whose notification options an address gets

What becomes of every single entry when options are handed on.  An address that
nobody decided on keeps what it has, one that stays among its own replacements
keeps its own, and any other gets those of the first recipient it replaces.
-/

namespace RecipientRewriting.DsnParameters

/-! ## Who hands options on -/

/-- The first decision about each recipient, in order. -/
def firstOfEach : List Decision → List Decision
  | [] => []
  | decision :: rest =>
      decision :: (firstOfEach rest).filter fun later => later.recipient ≠ decision.recipient

/-- The decisions that hand options on: the first about each recipient that has
any. -/
def bequests (parameters : DsnParameters) (decisions : List Decision) : List Decision :=
  (firstOfEach decisions).filter fun decision => (parameters.find? decision.recipient).isSome

def withOptions (parameters : DsnParameters) (decision : Decision) :
    Option (Decision × RecipientDsn) :=
  (parameters.find? decision.recipient).map fun options => (decision, options)

theorem mem_of_mem_firstOfEach
    {decision : Decision} {decisions : List Decision}
    (member : decision ∈ firstOfEach decisions) :
    decision ∈ decisions := by
  induction decisions with
  | nil => exact member
  | cons first rest inductionHypothesis =>
      rcases List.mem_cons.1 member with rfl | later
      · exact List.mem_cons_self
      · exact List.mem_cons_of_mem first (inductionHypothesis (List.mem_of_mem_filter later))

theorem mem_bequests
    {parameters : DsnParameters} {decision : Decision} {decisions : List Decision}
    (member : decision ∈ parameters.bequests decisions) :
    decision ∈ decisions ∧ parameters.Covers decision.recipient := by
  obtain ⟨first, covers⟩ := List.mem_filter.1 member
  exact ⟨mem_of_mem_firstOfEach first, covers⟩

/-! ## Taking out -/

theorem find?_takeOut
    (parameters : DsnParameters) (decisions : List Decision) (address : Address) :
    (parameters.takeOut decisions).1.find? address =
      if address ∈ decisions.map Decision.recipient then none else parameters.find? address := by
  induction decisions generalizing parameters with
  | nil => rfl
  | cons decision rest inductionHypothesis =>
      cases found : parameters.find? decision.recipient with
      | none =>
          rw [takeOut_cons_of_none found, inductionHypothesis, List.map_cons]
          by_cases same : address = decision.recipient
          · simp [same, found]
          · simp [same]
      | some options =>
          rw [takeOut_cons_of_covers found, inductionHypothesis, find?_erase, List.map_cons]
          by_cases same : address = decision.recipient
          · simp [same]
          · simp [same]

/-- What is taken out are the options of those that hand them on. -/
theorem takeOut_taken (parameters : DsnParameters) (decisions : List Decision) :
    (parameters.takeOut decisions).2 =
      (firstOfEach decisions).filterMap parameters.withOptions := by
  induction decisions generalizing parameters with
  | nil => rfl
  | cons decision rest inductionHypothesis =>
      rw [firstOfEach, List.filterMap_cons, List.filterMap_filter]
      cases found : parameters.find? decision.recipient with
      | none =>
          have own : parameters.withOptions decision = none := by simp [withOptions, found]
          rw [takeOut_cons_of_none found, inductionHypothesis, own]
          refine List.filterMap_congr fun later _ => ?_
          by_cases same : later.recipient = decision.recipient
          · simp [withOptions, same, found]
          · simp [same]
      | some options =>
          have own : parameters.withOptions decision = some (decision, options) := by
            simp [withOptions, found]
          rw [takeOut_cons_of_covers found, inductionHypothesis, own]
          refine congrArg (List.cons (decision, options)) (List.filterMap_congr fun later _ => ?_)
          by_cases same : later.recipient = decision.recipient
          · simp [withOptions, same]
          · simp [withOptions, same]

theorem find?_of_mem_taken
    {parameters : DsnParameters} {decisions : List Decision} {taken : Decision × RecipientDsn}
    (member : taken ∈ (parameters.takeOut decisions).2) :
    parameters.find? taken.1.recipient = some taken.2 := by
  rw [takeOut_taken, List.mem_filterMap] at member
  obtain ⟨decision, _, own⟩ := member
  obtain ⟨options, found, rfl⟩ := Option.map_eq_some_iff.1 own
  exact found

theorem takeOut_taken_map (parameters : DsnParameters) (decisions : List Decision) :
    (parameters.takeOut decisions).2.map Prod.fst = parameters.bequests decisions := by
  rw [takeOut_taken, bequests]
  induction firstOfEach decisions with
  | nil => rfl
  | cons decision rest inductionHypothesis =>
      cases found : parameters.find? decision.recipient with
      | none =>
          have own : parameters.withOptions decision = none := by simp [withOptions, found]
          simp [own, found, inductionHypothesis]
      | some options =>
          have own : parameters.withOptions decision = some (decision, options) := by
            simp [withOptions, found]
          simp [own, found, inductionHypothesis]

/-! ## Giving back -/

theorem find?_giveBack
    (parameters : DsnParameters) (taken : Decision × RecipientDsn) (address : Address) :
    (parameters.giveBack taken).find? address =
      if address = taken.1.recipient ∧ address ∈ taken.1.newRecipients then some taken.2
      else parameters.find? address := by
  unfold giveBack
  by_cases stays : taken.1.recipient ∈ taken.1.newRecipients
  · rw [if_pos stays, find?_insert]
    by_cases same : address = taken.1.recipient
    · simp [same, stays]
    · simp [same]
  · rw [if_neg stays]
    by_cases same : address = taken.1.recipient
    · simp [same, stays]
    · simp [same]

section Folds

variable {parameters : DsnParameters} {taken : List (Decision × RecipientDsn)} {address : Address}

/-- An address that stays among its own replacements gets its own options back,
however often it is decided on. -/
theorem find?_foldl_giveBack_of_stays
    {options : RecipientDsn} {decision : Decision}
    (own : ∀ one ∈ taken, one.1.recipient = address → one.2 = options)
    (member : decision ∈ taken.map Prod.fst)
    (same : decision.recipient = address)
    (stays : address ∈ decision.newRecipients) :
    (taken.foldl giveBack parameters).find? address = some options := by
  induction taken using List.reverseRecOn with
  | nil => simp at member
  | append_singleton initial last inductionHypothesis =>
      rw [List.foldl_append, List.foldl_cons, List.foldl_nil, find?_giveBack]
      have lastOwn := own last (by simp)
      split
      · rename_i returns
        rw [lastOwn returns.1.symm]
      · rename_i keeps
        rw [List.map_append, List.mem_append] at member
        rcases member with earlier | final
        · exact inductionHypothesis (fun one inInitial => own one (by simp [inInitial])) earlier
        · obtain rfl : decision = last.1 := by simpa using final
          exact absurd ⟨same.symm, stays⟩ keeps

theorem find?_foldl_giveBack_of_leaves
    (leaves : ∀ decision ∈ taken.map Prod.fst, decision.recipient = address →
      address ∉ decision.newRecipients) :
    (taken.foldl giveBack parameters).find? address = parameters.find? address := by
  induction taken generalizing parameters with
  | nil => rfl
  | cons first rest inductionHypothesis =>
      obtain ⟨firstLeaves, restLeaves⟩ := List.forall_mem_cons.1 leaves
      rw [List.foldl_cons, inductionHypothesis restLeaves, find?_giveBack, if_neg]
      rintro ⟨same, stays⟩
      exact firstLeaves same.symm stays

/-! ## Passing on -/

theorem find?_offer
    (options : RecipientDsn) (parameters : DsnParameters) (recipient address : Address) :
    (offer options parameters recipient).find? address =
      (parameters.find? address).or (if address = recipient then some options else none) := by
  unfold offer
  cases found : parameters.find? recipient with
  | none =>
      rw [find?_insert]
      by_cases same : address = recipient
      · simp [same, found]
      · simp [same]
  | some own =>
      by_cases same : address = recipient
      · simp [same, found]
      · simp [same]

theorem find?_passOn
    (parameters : DsnParameters) (taken : Decision × RecipientDsn) (address : Address) :
    (parameters.passOn taken).find? address =
      (parameters.find? address).or
        (if address ∈ taken.1.newRecipients then some taken.2 else none) := by
  unfold passOn
  induction taken.1.newRecipients generalizing parameters with
  | nil => simp
  | cons recipient rest inductionHypothesis =>
      rw [List.foldl_cons, inductionHypothesis, find?_offer, Option.or_assoc]
      by_cases same : address = recipient
      · simp [same]
      · simp [same]

/-- The first one that replaces its recipient by the address gives its options to
it, unless the address has some already. -/
theorem find?_foldl_passOn :
    (taken.foldl passOn parameters).find? address =
      (parameters.find? address).or
        ((taken.find? fun one => address ∈ one.1.newRecipients).map Prod.snd) := by
  induction taken generalizing parameters with
  | nil => simp
  | cons first rest inductionHypothesis =>
      rw [List.foldl_cons, inductionHypothesis, find?_passOn, Option.or_assoc, List.find?_cons]
      by_cases replaced : address ∈ first.1.newRecipients
      · simp [replaced]
      · simp [replaced]

end Folds

/-! ## Handing on -/

variable {parameters : DsnParameters} {decisions : List Decision} {address : Address}

theorem exists_mem_firstOfEach
    (decided : address ∈ decisions.map Decision.recipient) :
    ∃ decision ∈ firstOfEach decisions, decision.recipient = address := by
  induction decisions with
  | nil => simp at decided
  | cons first rest inductionHypothesis =>
      by_cases same : first.recipient = address
      · exact ⟨first, List.mem_cons_self, same⟩
      · rw [List.map_cons, List.mem_cons] at decided
        have later := decided.resolve_left fun equality => same equality.symm
        obtain ⟨decision, member, recipient⟩ := inductionHypothesis later
        refine ⟨decision, List.mem_cons_of_mem first ?_, recipient⟩
        refine List.mem_filter.2 ⟨member, ?_⟩
        simpa [recipient] using Ne.symm same

theorem find?_taken (parameters : DsnParameters) (decisions : List Decision) (address : Address) :
    ((parameters.takeOut decisions).2.find? fun one => address ∈ one.1.newRecipients).map
        Prod.snd =
      ((parameters.bequests decisions).find? fun decision =>
        address ∈ decision.newRecipients).bind fun decision =>
          parameters.find? decision.recipient := by
  rw [← takeOut_taken_map, List.find?_map, Function.comp_def]
  cases found : (parameters.takeOut decisions).2.find? fun one =>
      address ∈ one.1.newRecipients with
  | none => rfl
  | some taken =>
      have own := find?_of_mem_taken (List.mem_of_find?_eq_some found)
      simp [own]

/-- What an address has when options are handed on: its own if nobody decided on it
or if it stays, and otherwise those of the first recipient it replaces. -/
theorem handOn_cases (parameters : DsnParameters) (decisions : List Decision)
    (address : Address) :
    (address ∉ decisions.map Decision.recipient ∧ parameters.Covers address ∧
      (parameters.handOn decisions).find? address = parameters.find? address) ∨
    (∃ decision ∈ parameters.bequests decisions, decision.recipient = address ∧
      address ∈ decision.newRecipients ∧
      (parameters.handOn decisions).find? address = parameters.find? address) ∨
    ((address ∈ decisions.map Decision.recipient ∨ ¬ parameters.Covers address) ∧
      (∀ decision ∈ parameters.bequests decisions, decision.recipient = address →
        address ∉ decision.newRecipients) ∧
      (parameters.handOn decisions).find? address =
        ((parameters.bequests decisions).find? fun decision =>
          address ∈ decision.newRecipients).bind fun decision =>
            parameters.find? decision.recipient) := by
  have found : (parameters.handOn decisions).find? address =
      (((parameters.takeOut decisions).2.foldl giveBack
        (parameters.takeOut decisions).1).find? address).or
          (((parameters.bequests decisions).find? fun decision =>
            address ∈ decision.newRecipients).bind fun decision =>
              parameters.find? decision.recipient) := by
    rw [← find?_taken]
    exact find?_foldl_passOn
  have remaining := find?_takeOut parameters decisions address
  by_cases stays : ∃ decision ∈ parameters.bequests decisions, decision.recipient = address ∧
      address ∈ decision.newRecipients
  · obtain ⟨decision, member, rfl, inside⟩ := stays
    obtain ⟨options, own⟩ := Option.isSome_iff_exists.1 (mem_bequests member).2
    have returned : ((parameters.takeOut decisions).2.foldl giveBack
        (parameters.takeOut decisions).1).find? decision.recipient = some options := by
      refine find?_foldl_giveBack_of_stays ?_ ?_ rfl inside
      · intro one inTaken same
        have oneOwn := find?_of_mem_taken inTaken
        rw [same, own] at oneOwn
        exact (Option.some.inj oneOwn).symm
      · rw [takeOut_taken_map]
        exact member
    refine Or.inr (Or.inl ⟨decision, member, rfl, inside, ?_⟩)
    rw [found, returned, own]
    rfl
  · have leaves : ∀ decision ∈ parameters.bequests decisions, decision.recipient = address →
        address ∉ decision.newRecipients :=
      fun decision member same inside => stays ⟨decision, member, same, inside⟩
    have unreturned : ((parameters.takeOut decisions).2.foldl giveBack
        (parameters.takeOut decisions).1).find? address =
          (parameters.takeOut decisions).1.find? address := by
      refine find?_foldl_giveBack_of_leaves ?_
      rw [takeOut_taken_map]
      exact leaves
    rw [unreturned, remaining] at found
    by_cases decided : address ∈ decisions.map Decision.recipient
    · rw [if_pos decided] at found
      exact Or.inr (Or.inr ⟨Or.inl decided, leaves, found⟩)
    · rw [if_neg decided] at found
      cases own : parameters.find? address with
      | none =>
          rw [own] at found
          have bare : ¬ parameters.Covers address := by simp [Covers, own]
          exact Or.inr (Or.inr ⟨Or.inr bare, leaves, found⟩)
      | some options =>
          rw [own] at found
          exact Or.inl ⟨decided, by simp [Covers, own], found⟩

/-! ## The options of one address -/

theorem find?_handOn_of_undecided
    (undecided : address ∉ decisions.map Decision.recipient)
    (covers : parameters.Covers address) :
    (parameters.handOn decisions).find? address = parameters.find? address := by
  rcases handOn_cases parameters decisions address with
    ⟨_, _, kept⟩ | ⟨_, _, _, _, kept⟩ | ⟨decided | uncovered, _, _⟩
  · exact kept
  · exact kept
  · exact absurd decided undecided
  · exact absurd covers uncovered

theorem find?_handOn_of_stays
    {decision : Decision}
    (member : decision ∈ parameters.bequests decisions)
    (stays : decision.recipient ∈ decision.newRecipients) :
    (parameters.handOn decisions).find? decision.recipient =
      parameters.find? decision.recipient := by
  rcases handOn_cases parameters decisions decision.recipient with
    ⟨_, _, kept⟩ | ⟨_, _, _, _, kept⟩ | ⟨_, leaves, _⟩
  · exact kept
  · exact kept
  · exact absurd stays (leaves decision member rfl)

theorem find?_handOn_of_leaves
    (bare : address ∈ decisions.map Decision.recipient ∨ ¬ parameters.Covers address)
    (leaves : ∀ decision ∈ parameters.bequests decisions, decision.recipient = address →
      address ∉ decision.newRecipients) :
    (parameters.handOn decisions).find? address =
      ((parameters.bequests decisions).find? fun decision =>
        address ∈ decision.newRecipients).bind fun decision =>
          parameters.find? decision.recipient := by
  rcases handOn_cases parameters decisions address with
    ⟨undecided, covers, _⟩ | ⟨decision, member, same, inside, _⟩ | ⟨_, _, found⟩
  · rcases bare with decided | uncovered
    · exact absurd decided undecided
    · exact absurd covers uncovered
  · exact absurd inside (leaves decision member same)
  · exact found

/-- No options are invented. -/
theorem exists_owner_of_handOn
    {options : RecipientDsn}
    (found : (parameters.handOn decisions).find? address = some options) :
    ∃ owner, parameters.find? owner = some options := by
  rcases handOn_cases parameters decisions address with
    ⟨_, _, kept⟩ | ⟨_, _, _, _, kept⟩ | ⟨_, _, passed⟩
  · exact ⟨address, kept ▸ found⟩
  · exact ⟨address, kept ▸ found⟩
  · rw [passed, Option.bind_eq_some_iff] at found
    obtain ⟨decision, _, own⟩ := found
    exact ⟨decision.recipient, own⟩

/-- Whoever has options replaces somebody, or had them and was not decided on. -/
theorem replaces_or_covers_of_handOn
    (covers : (parameters.handOn decisions).Covers address) :
    (∃ decision ∈ parameters.bequests decisions, address ∈ decision.newRecipients) ∨
      parameters.Covers address ∧ address ∉ decisions.map Decision.recipient := by
  rcases handOn_cases parameters decisions address with
    ⟨undecided, own, _⟩ | ⟨decision, member, _, inside, _⟩ | ⟨_, _, passed⟩
  · exact Or.inr ⟨own, undecided⟩
  · exact Or.inl ⟨decision, member, inside⟩
  · obtain ⟨options, found⟩ := Option.isSome_iff_exists.1 covers
    rw [passed, Option.bind_eq_some_iff] at found
    obtain ⟨decision, first, _⟩ := found
    refine Or.inl ⟨decision, List.mem_of_find?_eq_some first, ?_⟩
    simpa using List.find?_some first

/-- Every replacement of a recipient that hands options on has some. -/
theorem covers_handOn_of_replaces
    {decision : Decision}
    (member : decision ∈ parameters.bequests decisions)
    (replaces : address ∈ decision.newRecipients) :
    (parameters.handOn decisions).Covers address := by
  unfold Covers
  rcases handOn_cases parameters decisions address with
    ⟨_, covers, kept⟩ | ⟨other, otherMember, rfl, _, kept⟩ | ⟨_, _, passed⟩
  · rw [kept]
    exact covers
  · rw [kept]
    exact (mem_bequests otherMember).2
  · cases first : (parameters.bequests decisions).find? fun decision =>
        address ∈ decision.newRecipients with
    | none => exact absurd replaces (by simpa using List.find?_eq_none.1 first decision member)
    | some heir =>
        rw [passed, first]
        exact (mem_bequests (List.mem_of_find?_eq_some first)).2

/-- Where every recipient is left as it is, so are the options of every address. -/
theorem find?_handOn_of_passThrough
    (passing : ∀ decision ∈ decisions, decision = .passThrough decision.recipient) :
    (parameters.handOn decisions).find? address = parameters.find? address := by
  rcases handOn_cases parameters decisions address with
    ⟨_, _, kept⟩ | ⟨_, _, _, _, kept⟩ | ⟨bare, leaves, found⟩
  · exact kept
  · exact kept
  · have newRecipients {decision : Decision}
        (member : decision ∈ parameters.bequests decisions) :
        decision.newRecipients = [decision.recipient] := by
      rw [passing decision (mem_bequests member).1]
      rfl
    have nobody : (parameters.bequests decisions).find? (fun decision =>
        address ∈ decision.newRecipients) = none := by
      rw [List.find?_eq_none]
      intro decision member inside
      have same : address = decision.recipient := by
        simpa [newRecipients member] using inside
      exact leaves decision member same.symm (by simpa using inside)
    rw [found, nobody]
    have uncovered : ¬ parameters.Covers address := by
      rcases bare with decided | uncovered
      · intro covers
        obtain ⟨decision, first, rfl⟩ := exists_mem_firstOfEach decided
        have member : decision ∈ parameters.bequests decisions :=
          List.mem_filter.2 ⟨first, covers⟩
        exact leaves decision member rfl (by simp [newRecipients member])
      · exact uncovered
    have nothing : parameters.find? address = none := by simpa [Covers] using uncovered
    rw [nothing]
    rfl

/-! ## What stays as it is -/

/-- Only the options of recipients differ. -/
structure Adjusts (before after : DsnParameters) : Prop where
  envelopeId : after.envelopeId = before.envelopeId
  returnContent : after.returnContent = before.returnContent

namespace Adjusts

variable {before middle after : DsnParameters}

theorem refl (parameters : DsnParameters) : Adjusts parameters parameters :=
  ⟨rfl, rfl⟩

theorem trans (first : Adjusts before middle) (second : Adjusts middle after) :
    Adjusts before after :=
  ⟨second.envelopeId.trans first.envelopeId, second.returnContent.trans first.returnContent⟩

theorem foldl
    {alpha : Type} {step : DsnParameters → alpha → DsnParameters}
    (each : ∀ parameters item, Adjusts parameters (step parameters item))
    (parameters : DsnParameters) (items : List alpha) :
    Adjusts parameters (items.foldl step parameters) := by
  induction items generalizing parameters with
  | nil => exact .refl parameters
  | cons item rest inductionHypothesis =>
      exact (each parameters item).trans (inductionHypothesis (step parameters item))

end Adjusts

theorem adjusts_insert (parameters : DsnParameters) (recipient : Address)
    (options : RecipientDsn) :
    Adjusts parameters (parameters.insert recipient options) :=
  ⟨rfl, rfl⟩

theorem adjusts_takeOut (parameters : DsnParameters) (decisions : List Decision) :
    Adjusts parameters (parameters.takeOut decisions).1 := by
  induction decisions generalizing parameters with
  | nil => exact .refl parameters
  | cons decision rest inductionHypothesis =>
      cases found : parameters.find? decision.recipient with
      | none =>
          rw [takeOut_cons_of_none found]
          exact inductionHypothesis parameters
      | some options =>
          have erased : Adjusts parameters (parameters.erase decision.recipient) :=
            ⟨rfl, rfl⟩
          rw [takeOut_cons_of_covers found]
          exact erased.trans (inductionHypothesis _)

theorem adjusts_giveBack (parameters : DsnParameters) (taken : Decision × RecipientDsn) :
    Adjusts parameters (parameters.giveBack taken) := by
  unfold giveBack
  split
  · exact adjusts_insert parameters _ _
  · exact .refl parameters

theorem adjusts_passOn (parameters : DsnParameters) (taken : Decision × RecipientDsn) :
    Adjusts parameters (parameters.passOn taken) := by
  refine Adjusts.foldl (fun parameters recipient => ?_) parameters taken.1.newRecipients
  unfold offer
  split
  · exact .refl parameters
  · exact adjusts_insert parameters _ _

theorem adjusts_handOn (parameters : DsnParameters) (decisions : List Decision) :
    Adjusts parameters (parameters.handOn decisions) :=
  (adjusts_takeOut parameters decisions).trans <|
    (Adjusts.foldl adjusts_giveBack _ _).trans (Adjusts.foldl adjusts_passOn _ _)

theorem handOn_eq_self
    (passing : ∀ decision ∈ decisions, decision = .passThrough decision.recipient) :
    parameters.handOn decisions = parameters := by
  have adjusts := adjusts_handOn parameters decisions
  have recipients : (parameters.handOn decisions).recipients = parameters.recipients :=
    OrderedMap.ext_find fun address => find?_handOn_of_passThrough passing
  calc parameters.handOn decisions
      = ⟨(parameters.handOn decisions).envelopeId, (parameters.handOn decisions).returnContent,
          (parameters.handOn decisions).recipients⟩ := rfl
    _ = parameters := by rw [adjusts.envelopeId, adjusts.returnContent, recipients]

/-! ## The whole effect -/

/-- What handing options on does to every address, for decisions in which recipients
may recur and replacements may be shared.  The options for the whole mail stay.  No
options are invented, whoever has some replaces somebody or had them and was not
decided on, and every replacement of a recipient that hands options on has some.
Leaving every recipient as it is changes nothing. -/
theorem handOn_exactly (parameters : DsnParameters) (decisions : List Decision) :
    (parameters.handOn decisions).envelopeId = parameters.envelopeId ∧
    (parameters.handOn decisions).returnContent = parameters.returnContent ∧
    (∀ address, address ∉ decisions.map Decision.recipient → parameters.Covers address →
      (parameters.handOn decisions).find? address = parameters.find? address) ∧
    (∀ decision ∈ parameters.bequests decisions,
      decision.recipient ∈ decision.newRecipients →
        (parameters.handOn decisions).find? decision.recipient =
          parameters.find? decision.recipient) ∧
    (∀ address,
      (address ∈ decisions.map Decision.recipient ∨ ¬ parameters.Covers address) →
      (∀ decision ∈ parameters.bequests decisions, decision.recipient = address →
        address ∉ decision.newRecipients) →
        (parameters.handOn decisions).find? address =
          ((parameters.bequests decisions).find? fun decision =>
            address ∈ decision.newRecipients).bind fun decision =>
              parameters.find? decision.recipient) ∧
    (∀ address options, (parameters.handOn decisions).find? address = some options →
      ∃ owner, parameters.find? owner = some options) ∧
    (∀ address, (parameters.handOn decisions).Covers address →
      (∃ decision ∈ parameters.bequests decisions, address ∈ decision.newRecipients) ∨
        parameters.Covers address ∧ address ∉ decisions.map Decision.recipient) ∧
    (∀ decision ∈ parameters.bequests decisions, ∀ address ∈ decision.newRecipients,
      (parameters.handOn decisions).Covers address) ∧
    ((∀ decision ∈ decisions, decision = .passThrough decision.recipient) →
      (∀ address, (parameters.handOn decisions).find? address = parameters.find? address) ∧
        parameters.handOn decisions = parameters) := by
  have adjusts := adjusts_handOn parameters decisions
  refine ⟨adjusts.envelopeId, adjusts.returnContent, fun _ => find?_handOn_of_undecided,
    fun _ => find?_handOn_of_stays, fun _ => find?_handOn_of_leaves,
    fun _ _ => exists_owner_of_handOn, fun _ => replaces_or_covers_of_handOn,
    fun _ member _ => covers_handOn_of_replaces member, fun passing => ?_⟩
  exact ⟨fun _ => find?_handOn_of_passThrough passing, handOn_eq_self passing⟩

/-! ### Two recipients that change places -/

def resident (localPart : String) : Address :=
  ⟨localPart, .ofString "x.org"⟩

def given (recipient : String) : RecipientDsn :=
  ⟨none, some recipient⟩

def household : DsnParameters :=
  ⟨some "id", some .full, .ofList
    [(resident "anne", given "a"), (resident "bert", given "b"), (resident "carl", given "c")]⟩

/-- The first user is replaced by the second one and another, the second one by the
first one and itself.  The first user is decided on again, and somebody without
options is replaced by somebody who has some. -/
def moves : List Decision :=
  [⟨resident "anne", .success [resident "bert", resident "dora"], []⟩,
   ⟨resident "bert", .success [resident "anne", resident "bert"], []⟩,
   ⟨resident "anne", .success [resident "emil"], []⟩,
   ⟨resident "fred", .success [resident "carl", resident "gert"], []⟩]

theorem household_moves :
    household.bequests moves = moves.take 2 ∧
      (household.handOn moves).find? (resident "anne") = some (given "b") ∧
      (household.handOn moves).find? (resident "bert") = some (given "b") ∧
      (household.handOn moves).find? (resident "carl") = some (given "c") ∧
      (household.handOn moves).find? (resident "dora") = some (given "a") ∧
      (household.handOn moves).find? (resident "emil") = none ∧
      household.handOn [.passThrough (resident "bert"), .passThrough (resident "gert")] =
        household := by
  obtain ⟨_, _, undecided, stays, leaves, _, _, _, _⟩ := handOn_exactly household moves
  obtain ⟨_, _, _, _, _, _, _, _, passing⟩ :=
    handOn_exactly household [.passThrough (resident "bert"), .passThrough (resident "gert")]
  have heirs : household.bequests moves = moves.take 2 := by decide +kernel
  refine ⟨heirs, ?_, ?_, ?_, ?_, ?_, (passing (by decide)).2⟩
  · exact (leaves (resident "anne") (by decide) (by decide +kernel)).trans (by decide +kernel)
  · exact (stays moves[1] (by decide +kernel) (by decide)).trans (by decide +kernel)
  · exact (undecided (resident "carl") (by decide) (by decide +kernel)).trans (by decide +kernel)
  · exact (leaves (resident "dora") (by decide +kernel) (by decide +kernel)).trans
      (by decide +kernel)
  · exact (leaves (resident "emil") (by decide +kernel) (by decide +kernel)).trans
      (by decide +kernel)

end RecipientRewriting.DsnParameters
