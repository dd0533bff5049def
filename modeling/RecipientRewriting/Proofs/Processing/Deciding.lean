import RecipientRewriting.Proofs.Partition
import RecipientRewriting.Proofs.Processing.Questions
import RecipientRewriting.Proofs.Resolution.Answer

/-!
# Deciding before doing

What a pass decides about recipients, it decides by asking only.  Whatever the
directory answers, the addresses that come out can be read, and each recipient
gets its own decision.
-/

namespace RecipientRewriting

namespace Processor

variable {directoryWorld transportWorld : Type}
  (processor : Processor directoryWorld transportWorld)

/-! ## Lookups -/

theorem answer_of_withinLimit
    {answer : Type} {settings : ProcessorSettings} {timed : Timed answer} {value : answer}
    (inTime : withinLimit settings timed = .ok value) :
    timed.answer = .ok value := by
  unfold withinLimit at inTime
  split at inTime
  · split at inTime
    · simp at inTime
    · exact inTime
  · exact inTime

theorem resolve_asks (source : Source) :
    (processor.resolve source).Asks Effect.DecidesRecipients fun _ => True := by
  refine Pass.asks_bind (Pass.consult_succeeds _).asks ?_
  intro timed _
  exact Pass.asks_lookup trivial rfl fun _ _ => trivial

/-- Forwarding rules are those that the directory has answered with. -/
theorem findForwards_asks (source : Source) :
    (processor.findForwards source).Asks Effect.DecidesForwards fun rules =>
      ∃ world, (processor.directory.forwardRules source world).1.answer = .ok rules := by
  refine Pass.asks_bind (Pass.consult_succeeds _).asks ?_
  intro timed consulted
  obtain ⟨world, rfl⟩ := consulted
  exact Pass.asks_lookup trivial rfl fun rules inTime => ⟨world, answer_of_withinLimit inTime⟩

theorem isLocal_asks (domain : Domain) :
    (processor.isLocal domain).Asks Effect.DecidesRecipients fun _ => True := by
  refine Pass.asks_bind (Pass.consult_succeeds _).asks ?_
  intro reply _
  refine (Pass.note_succeeds _).bind ?_
  intro value before noted
  obtain rfl := noted
  exact Pass.ensures_pure ⟨by simp [Effect.DecidesRecipients], rfl, trivial⟩

theorem defaultDomain_asks :
    processor.defaultDomain.Asks (fun effect => effect.asksDefaultDomain = true)
      fun _ => True := by
  refine Pass.asks_bind Pass.get_succeeds.asks ?_
  intro state _
  cases state.defaultDomain with
  | some domain => exact Pass.asks_pure trivial
  | none =>
      refine Pass.asks_bind (Pass.consult_succeeds _).asks ?_
      intro reply _
      rw [← bind_assoc]
      refine Pass.asks_bind (Pass.asks_lookup rfl rfl fun _ _ => trivial) ?_
      intro domain _
      refine Pass.asks_bind (Pass.modify_succeeds ?_).asks ?_
      · intro state
        rfl
      · intro stored _
        exact Pass.asks_pure trivial

/-! ## Targets -/

theorem complete_asks (rule : Rule) :
    (processor.complete rule).Asks (fun effect => effect.asksDefaultDomain = true)
      fun _ => True := by
  unfold complete
  split
  · refine Pass.asks_bind processor.defaultDomain_asks ?_
    intro domain _
    exact Pass.asks_pure trivial
  · exact Pass.asks_pure trivial

theorem addTargets_asks
    {found : List Address} (rules : RuleList)
    (foundParsed : ∀ address ∈ found, address.IsParsed) :
    (processor.addTargets found rules).Asks (fun effect => effect.asksDefaultDomain = true)
      fun addresses => ∀ address ∈ addresses, address.IsParsed := by
  induction rules generalizing found with
  | nil => exact Pass.asks_pure foundParsed
  | cons rule rest inductionHypothesis =>
      refine Pass.asks_bind (processor.complete_asks rule) ?_
      intro completed _
      apply inductionHypothesis
      intro address member
      rcases UniqueList.mem_addAll.1 member with earlier | named
      · exact foundParsed address earlier
      · exact RuleTable.address?_isParsed (Option.mem_toList.1 named)

/-- Rules lead only to addresses that can be read. -/
theorem targets_asks (rules : RuleList) :
    (processor.targets rules).Asks (fun effect => effect.asksDefaultDomain = true)
      fun addresses => ∀ address ∈ addresses, address.IsParsed :=
  processor.addTargets_asks rules (by simp)

/-! ## Local and remote targets -/

theorem askAll_asks (groups : List Partition.Group) :
    (Partition.askAll processor.isLocal groups).Asks Effect.DecidesRecipients
      fun answered => answered.map Prod.fst = groups := by
  induction groups with
  | nil => exact Pass.asks_pure rfl
  | cons group rest inductionHypothesis =>
      refine Pass.asks_bind (processor.isLocal_asks group.domain) ?_
      intro answer _
      refine Pass.asks_bind inductionHypothesis ?_
      intro others groups
      rw [← groups]
      exact Pass.asks_pure rfl

theorem ofAddresses_asks (addresses : List Address) :
    (Partition.ofAddresses processor.isLocal addresses).Asks Effect.DecidesRecipients
      fun split => ∀ address, address ∈ split.onSite ∨ address ∈ split.remote →
        address ∈ addresses := by
  refine Pass.asks_bind (processor.askAll_asks _) ?_
  intro answered groups
  refine Pass.asks_pure ?_
  intro address member
  obtain ⟨group, inGroups, inGroup⟩ := Partition.exists_group_of_mem_ofAnswers member
  rw [groups] at inGroups
  exact Partition.mem_of_mem_groupByDomain inGroups inGroup

end Processor

/-! ## Decisions -/

structure Decision.IsParsed (decision : Decision) : Prop where
  accepted : ∀ address ∈ decision.newRecipients, address.IsParsed
  rejected : ∀ address, decision.outcome = .rejected address → address.IsParsed
  remote : ∀ address ∈ decision.remote, address.IsParsed

theorem Decision.passThrough_isParsed
    {recipient : Address} (parsed : recipient.IsParsed) :
    (Decision.passThrough recipient).IsParsed where
  accepted := by simpa [passThrough, newRecipients, Outcome.newRecipients] using parsed
  rejected := by simp [passThrough]
  remote := by simp [passThrough]

theorem Decision.reject_isParsed
    {recipient : Address} (parsed : recipient.IsParsed) :
    (Decision.reject recipient).IsParsed where
  accepted := by simp [reject, newRecipients, Outcome.newRecipients]
  rejected := by simpa [reject] using parsed
  remote := by simp [reject]

namespace Processor

variable {directoryWorld transportWorld : Type}
  (processor : Processor directoryWorld transportWorld)

theorem decide_asks (recipient : Address) :
    (processor.decide recipient).Asks Effect.DecidesRecipients fun decision =>
      decision.recipient = recipient ∧ (recipient.IsParsed → decision.IsParsed) := by
  unfold decide
  split
  · exact Pass.asks_pure ⟨rfl, Decision.passThrough_isParsed⟩
  · rename_i source _
    refine Pass.asks_bind (processor.resolve_asks source) ?_
    intro resolution _
    split
    · exact Pass.asks_pure ⟨rfl, Decision.reject_isParsed⟩
    · exact Pass.asks_pure ⟨rfl, Decision.passThrough_isParsed⟩
    · rename_i rules _
      refine Pass.asks_bind ((processor.targets_asks rules).mono
        (fun _ => Effect.decidesRecipients_of_asksDefaultDomain) fun _ parsed => parsed) ?_
      intro addresses parsed
      refine Pass.asks_bind (processor.ofAddresses_asks addresses) ?_
      intro split among
      refine Pass.asks_pure ⟨rfl, fun _ => ⟨?_, by simp, ?_⟩⟩
      · intro address member
        exact parsed address (among address (Or.inl member))
      · intro address member
        exact parsed address (among address (Or.inr member))

/-- Every recipient gets a decision of its own, in order. -/
theorem decideAll_asks (recipients : List Address) :
    (processor.decideAll recipients).Asks Effect.DecidesRecipients fun decisions =>
      decisions.map Decision.recipient = recipients ∧
        ((∀ recipient ∈ recipients, recipient.IsParsed) →
          ∀ decision ∈ decisions, decision.IsParsed) := by
  induction recipients with
  | nil => exact Pass.asks_pure ⟨rfl, by simp⟩
  | cons recipient rest inductionHypothesis =>
      refine Pass.asks_bind (processor.decide_asks recipient) ?_
      intro decision decided
      obtain ⟨rfl, parsed⟩ := decided
      refine Pass.asks_bind inductionHypothesis ?_
      intro others othersDecided
      obtain ⟨rfl, othersParsed⟩ := othersDecided
      refine Pass.asks_pure ⟨rfl, ?_⟩
      intro allParsed other member
      rcases List.mem_cons.1 member with rfl | later
      · exact parsed (allParsed _ List.mem_cons_self)
      · exact othersParsed (fun address inRest =>
          allParsed address (List.mem_cons_of_mem _ inRest)) other later

end Processor

/-! ## Forwarding -/

/-- At some time the directory has forwarding rules for an address. -/
def Directory.Forwards {world : Type} (directory : Directory world) (address : Address) : Prop :=
  ∃ source now rules, Source.ofAddress? address = some source ∧
    (directory.forwardRules source now).1.answer = .ok rules ∧ rules ≠ []

/-- A copy is sent only for a recipient that forwards and has not done so yet,
and only to addresses that have not done so either. -/
def ForwardAction.IsSound {world : Type} (directory : Directory world) (ledger : Ledger)
    (recipients : List Address) : ForwardAction → Prop
  | sendCopy sender targets =>
      sender ∈ recipients ∧ directory.Forwards sender ∧ sender ∉ ledger.addresses ∧
        ∀ target ∈ targets, target.IsParsed ∧ target ∉ (ledger.add sender).addresses
  | remove _ => True
  | recordLoop recipient => recipient ∈ recipients

theorem ForwardAction.isSound_of_mem_decide
    {world : Type} {directory : Directory world} {ledger : Ledger} {recipient : Address}
    {recipients targets : List Address} {action : ForwardAction}
    (forwards : directory.Forwards recipient)
    (inRecipients : recipient ∈ recipients)
    (parsed : ∀ target ∈ targets, target.IsParsed)
    (member : action ∈ decide recipient targets ledger) :
    action.IsSound directory ledger recipients := by
  unfold decide at member
  split at member
  · simp at member
  · rename_i absent
    have notRecorded : recipient ∉ ledger.addresses := fun recorded =>
      absent (Ledger.contains_iff.2 recorded)
    rcases List.mem_append.1 member with member | reported
    · rcases List.mem_append.1 member with sent | removed
      · split at sent
        · simp at sent
        · obtain rfl := List.mem_singleton.1 sent
          refine ⟨inRecipients, forwards, notRecorded, ?_⟩
          intro target inOthers
          obtain ⟨inFresh, different⟩ := List.mem_filter.1 inOthers
          obtain ⟨inTargets, fresh⟩ := Ledger.mem_nonRecorded.1 inFresh
          refine ⟨parsed target inTargets, ?_⟩
          rw [Ledger.mem_add, not_or]
          exact ⟨fresh, by simpa using different⟩
      · split at removed
        · simp at removed
        · obtain rfl := List.mem_singleton.1 removed
          trivial
    · split at reported
      · obtain rfl := List.mem_singleton.1 reported
        exact inRecipients
      · simp at reported

namespace Processor

variable {directoryWorld transportWorld : Type}
  (processor : Processor directoryWorld transportWorld)

theorem forwardActions_asks
    {recipient : Address} {recipients : List Address}
    (ledger : Ledger)
    (member : recipient ∈ recipients) :
    (processor.forwardActions ledger recipient).Asks Effect.DecidesForwards fun actions =>
      ∀ action ∈ actions, action.IsSound processor.directory ledger recipients := by
  unfold forwardActions
  split
  · exact Pass.asks_pure (by simp)
  · rename_i source sourceOf
    refine Pass.asks_bind (processor.findForwards_asks source) ?_
    intro rules found
    obtain ⟨world, answered⟩ := found
    split
    · exact Pass.asks_pure (by simp)
    · rename_i nonempty
      refine Pass.asks_bind ((processor.targets_asks rules).mono
        (fun _ => Effect.decidesForwards_of_asksDefaultDomain) fun _ parsed => parsed) ?_
      intro addresses parsed
      have forwards : processor.directory.Forwards recipient :=
        ⟨source, world, rules, sourceOf, answered, nonempty⟩
      exact Pass.asks_pure fun action =>
        ForwardAction.isSound_of_mem_decide forwards member parsed

theorem allForwardActions_asks
    {chosen recipients : List Address}
    (ledger : Ledger)
    (subset : ∀ recipient ∈ chosen, recipient ∈ recipients) :
    (processor.allForwardActions ledger chosen).Asks Effect.DecidesForwards fun actions =>
      ∀ action ∈ actions, action.IsSound processor.directory ledger recipients := by
  induction chosen with
  | nil => exact Pass.asks_pure (by simp)
  | cons recipient rest inductionHypothesis =>
      have inRest := fun other member => subset other (List.mem_cons_of_mem recipient member)
      refine Pass.asks_bind
        (processor.forwardActions_asks ledger (subset recipient List.mem_cons_self)) ?_
      intro actions sound
      refine Pass.asks_bind (inductionHypothesis inRest) ?_
      intro others othersSound
      refine Pass.asks_pure ?_
      intro action member
      rcases List.mem_append.1 member with first | later
      · exact sound action first
      · exact othersSound action later

end Processor

end RecipientRewriting
