import RecipientRewriting.Dsn

/-!
# Who has notification options

Which addresses have options once recipients are replaced, whatever the options
are: those that had some and were not decided on, and the replacements of those
that had some.  The order of the decisions plays no part in this, only in whose
options an address gets.
-/

namespace RecipientRewriting.DsnParameters

def Covers (parameters : DsnParameters) (address : Address) : Prop :=
  (parameters.find? address).isSome = true

instance (parameters : DsnParameters) (address : Address) :
    Decidable (parameters.Covers address) :=
  inferInstanceAs (Decidable ((parameters.find? address).isSome = true))

theorem covers_insert
    {parameters : DsnParameters} {recipient address : Address} {options : RecipientDsn} :
    (parameters.insert recipient options).Covers address ↔
      parameters.Covers address ∨ address = recipient := by
  by_cases same : address = recipient
  · simp [Covers, same]
  · simp [Covers, same]

theorem covers_erase
    {parameters : DsnParameters} {recipient address : Address} :
    (parameters.erase recipient).Covers address ↔
      parameters.Covers address ∧ address ≠ recipient := by
  by_cases same : address = recipient
  · simp [Covers, same]
  · simp [Covers, same]

/-! ## Taking out -/

theorem takeOut_cons_of_covers
    {parameters : DsnParameters} {decision : Decision} {options : RecipientDsn}
    (found : parameters.find? decision.recipient = some options) (rest : List Decision) :
    parameters.takeOut (decision :: rest) =
      (((parameters.erase decision.recipient).takeOut rest).1,
        (decision, options) :: ((parameters.erase decision.recipient).takeOut rest).2) := by
  rw [takeOut, found]

theorem takeOut_cons_of_none
    {parameters : DsnParameters} {decision : Decision}
    (absent : parameters.find? decision.recipient = none) (rest : List Decision) :
    parameters.takeOut (decision :: rest) = parameters.takeOut rest := by
  rw [takeOut, absent]

/-- Whoever is decided on has nothing left. -/
theorem covers_takeOut_remaining
    {parameters : DsnParameters} {decisions : List Decision} {address : Address} :
    (parameters.takeOut decisions).1.Covers address ↔
      parameters.Covers address ∧ address ∉ decisions.map Decision.recipient := by
  induction decisions generalizing parameters with
  | nil => simp [takeOut]
  | cons decision rest inductionHypothesis =>
      cases found : parameters.find? decision.recipient with
      | none =>
          rw [takeOut_cons_of_none found, inductionHypothesis, List.map_cons, List.mem_cons, not_or]
          refine and_congr_right fun covers => ⟨fun absent => ⟨?_, absent⟩, And.right⟩
          rintro rfl
          simp [Covers, found] at covers
      | some options =>
          rw [takeOut_cons_of_covers found, inductionHypothesis, covers_erase, List.map_cons,
            List.mem_cons, not_or, and_assoc]

/-- Where a recipient is decided on twice in the same way, every decision about a
recipient with options is among those they are taken out for. -/
theorem mem_takeOut_taken
    {parameters : DsnParameters} {decisions : List Decision} {decision : Decision}
    (consistent : ∀ one ∈ decisions, ∀ other ∈ decisions,
      one.recipient = other.recipient → one = other) :
    decision ∈ (parameters.takeOut decisions).2.map Prod.fst ↔
      decision ∈ decisions ∧ parameters.Covers decision.recipient := by
  induction decisions generalizing parameters with
  | nil => simp [takeOut]
  | cons first rest inductionHypothesis =>
      have restConsistent := fun one member other otherMember =>
        consistent one (List.mem_cons_of_mem first member) other
          (List.mem_cons_of_mem first otherMember)
      cases found : parameters.find? first.recipient with
      | none =>
          rw [takeOut_cons_of_none found, inductionHypothesis restConsistent, List.mem_cons]
          refine and_congr_left fun covers => ⟨Or.inr, ?_⟩
          rintro (rfl | later)
          · simp [Covers, found] at covers
          · exact later
      | some options =>
          rw [takeOut_cons_of_covers found, List.map_cons, List.mem_cons,
            inductionHypothesis restConsistent, covers_erase, List.mem_cons]
          constructor
          · rintro (rfl | ⟨later, covers, _⟩)
            · exact ⟨Or.inl rfl, by simp [Covers, found]⟩
            · exact ⟨Or.inr later, covers⟩
          · rintro ⟨rfl | later, covers⟩
            · exact Or.inl rfl
            · by_cases same : decision.recipient = first.recipient
              · exact Or.inl (consistent decision (List.mem_cons_of_mem first later) first
                  List.mem_cons_self same)
              · exact Or.inr ⟨later, covers, same⟩

/-! ## Handing on -/

theorem covers_giveBack
    {parameters : DsnParameters} {taken : Decision × RecipientDsn} {address : Address} :
    (parameters.giveBack taken).Covers address ↔
      parameters.Covers address ∨
        address = taken.1.recipient ∧ taken.1.recipient ∈ taken.1.newRecipients := by
  unfold giveBack
  by_cases stays : taken.1.recipient ∈ taken.1.newRecipients
  · simp [stays, covers_insert]
  · simp [stays]

theorem covers_offer
    {parameters : DsnParameters} {options : RecipientDsn} {recipient address : Address} :
    (offer options parameters recipient).Covers address ↔
      parameters.Covers address ∨ address = recipient := by
  unfold offer
  cases found : parameters.find? recipient with
  | none => exact covers_insert
  | some own =>
      refine ⟨Or.inl, ?_⟩
      rintro (covers | rfl)
      · exact covers
      · simp [Covers, found]

theorem covers_passOn
    {parameters : DsnParameters} {taken : Decision × RecipientDsn} {address : Address} :
    (parameters.passOn taken).Covers address ↔
      parameters.Covers address ∨ address ∈ taken.1.newRecipients := by
  unfold passOn
  induction taken.1.newRecipients generalizing parameters with
  | nil => simp
  | cons recipient rest inductionHypothesis =>
      rw [List.foldl_cons, inductionHypothesis, covers_offer, List.mem_cons, or_assoc]

theorem covers_foldl_giveBack
    {parameters : DsnParameters} {taken : List (Decision × RecipientDsn)} {address : Address} :
    (taken.foldl giveBack parameters).Covers address ↔
      parameters.Covers address ∨ ∃ decision ∈ taken.map Prod.fst,
        address = decision.recipient ∧ decision.recipient ∈ decision.newRecipients := by
  induction taken generalizing parameters with
  | nil => simp
  | cons first rest inductionHypothesis =>
      rw [List.foldl_cons, inductionHypothesis, covers_giveBack]
      simp [or_assoc]

theorem covers_foldl_passOn
    {parameters : DsnParameters} {taken : List (Decision × RecipientDsn)} {address : Address} :
    (taken.foldl passOn parameters).Covers address ↔
      parameters.Covers address ∨ ∃ decision ∈ taken.map Prod.fst,
        address ∈ decision.newRecipients := by
  induction taken generalizing parameters with
  | nil => simp
  | cons first rest inductionHypothesis =>
      rw [List.foldl_cons, inductionHypothesis, covers_passOn]
      simp [or_assoc]

/-- Those have options behind the replacement who had some and were not decided on,
or who replace somebody who had some. -/
theorem covers_handOn
    {parameters : DsnParameters} {decisions : List Decision} {address : Address}
    (consistent : ∀ one ∈ decisions, ∀ other ∈ decisions,
      one.recipient = other.recipient → one = other) :
    (parameters.handOn decisions).Covers address ↔
      parameters.Covers address ∧ address ∉ decisions.map Decision.recipient ∨
        ∃ decision ∈ decisions, parameters.Covers decision.recipient ∧
          address ∈ decision.newRecipients := by
  unfold handOn
  dsimp only
  rw [covers_foldl_passOn, covers_foldl_giveBack, covers_takeOut_remaining]
  constructor
  · rintro ((remains | ⟨decision, member, rfl, stays⟩) | ⟨decision, member, replaces⟩)
    · exact Or.inl remains
    · obtain ⟨decided, covers⟩ := (mem_takeOut_taken consistent).1 member
      exact Or.inr ⟨decision, decided, covers, stays⟩
    · obtain ⟨decided, covers⟩ := (mem_takeOut_taken consistent).1 member
      exact Or.inr ⟨decision, decided, covers, replaces⟩
  · rintro (remains | ⟨decision, decided, covers, replaces⟩)
    · exact Or.inl (Or.inl remains)
    · exact Or.inr ⟨decision, (mem_takeOut_taken consistent).2 ⟨decided, covers⟩, replaces⟩

end RecipientRewriting.DsnParameters
