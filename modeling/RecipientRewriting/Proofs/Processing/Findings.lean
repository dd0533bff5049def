import RecipientRewriting.Proofs.Processing.Recall

/-!
# Decisions and what has been found

What a pass decides on follows from what its lookups have found and from the one
default domain that it completes targets with.  `Answers` says of what a
directory may have answered with; here it is what it has answered with in this
pass, as the trace shows it.
-/

namespace RecipientRewriting

/-! ## Targets that are completed -/

namespace RuleList

/-- The addresses that rules name, each once, where `supplied` is the domain of
those that leave one out. -/
def addressesWith (supplied : Option Domain) (rules : RuleList) : List Address :=
  RuleList.addresses (rules.map fun rule => supplied.elim rule rule.completeWith)

def Completable (supplied : Option Domain) (rules : RuleList) : Prop :=
  ∀ rule ∈ rules, rule.needsDomain = true → supplied ≠ none

theorem Completable.mono
    {earlier supplied : Option Domain} {rules : RuleList}
    (completable : Completable earlier rules)
    (kept : ∀ domain, earlier = some domain → supplied = some domain) :
    Completable supplied rules := by
  intro rule member needs
  cases remembered : earlier with
  | none => exact absurd remembered (completable rule member needs)
  | some domain => simp [kept domain remembered]

theorem elim_completeWith_of_whole
    {rule : Rule} (whole : rule.needsDomain = false) (supplied : Option Domain) :
    supplied.elim rule rule.completeWith = rule := by
  cases supplied with
  | none => rfl
  | some domain => simp [Rule.completeWith, whole]

/-- A domain that is remembered later makes no difference to what was complete. -/
theorem Completable.addressesWith_eq
    {earlier supplied : Option Domain} {rules : RuleList}
    (completable : Completable earlier rules)
    (kept : ∀ domain, earlier = some domain → supplied = some domain) :
    addressesWith supplied rules = addressesWith earlier rules := by
  cases remembered : earlier with
  | some domain => rw [kept domain remembered]
  | none =>
      have same : ∀ rule ∈ rules,
          supplied.elim rule rule.completeWith =
            (none : Option Domain).elim rule rule.completeWith := by
        intro rule member
        have whole : rule.needsDomain = false := by
          by_contra needs
          exact completable rule member (by simpa using needs) remembered
        exact elim_completeWith_of_whole whole supplied
      rw [addressesWith, addressesWith, List.map_congr_left same]

end RuleList

/-! ## Decisions -/

/-- What has been found about a recipient leads to the decision. -/
inductive Decision.FollowsFrom (supplied : Option Domain) (effects : List Effect)
    (recipient : Address) : Decision → Prop
  | unnamed :
      Source.ofAddress? recipient = none →
      FollowsFrom supplied effects recipient (.passThrough recipient)
  | unmapped {source : Source} :
      Source.ofAddress? recipient = some source →
      .resolved source (.ok (.success [])) ∈ effects →
      FollowsFrom supplied effects recipient (.passThrough recipient)
  | rejected {source : Source} {reason : String} :
      Source.ofAddress? recipient = some source →
      .resolved source (.ok (.rejected reason)) ∈ effects →
      FollowsFrom supplied effects recipient (.reject recipient)
  | replaced {source : Source} {rules : RuleList} {onSite remote : List Address} :
      Source.ofAddress? recipient = some source →
      .resolved source (.ok (.success rules)) ∈ effects →
      rules ≠ [] →
      rules.Completable supplied →
      (onSite ++ remote).Perm (rules.addressesWith supplied) →
      FollowsFrom supplied effects recipient ⟨recipient, .success onSite, remote⟩

theorem Decision.FollowsFrom.mono
    {earlier supplied : Option Domain} {before effects : List Effect} {recipient : Address}
    {decision : Decision}
    (follows : FollowsFrom earlier before recipient decision)
    (kept : ∀ domain, earlier = some domain → supplied = some domain)
    (subset : before ⊆ effects) :
    FollowsFrom supplied effects recipient decision := by
  cases follows with
  | unnamed unnamed => exact .unnamed unnamed
  | unmapped named found => exact .unmapped named (subset found)
  | rejected named found => exact .rejected named (subset found)
  | replaced named found nonempty completable addresses =>
      rw [← completable.addressesWith_eq kept] at addresses
      exact .replaced named (subset found) nonempty (completable.mono kept) addresses

/-! ## Forwarding -/

/-- What forwarding does about a recipient for which these rules were found. -/
def ForwardAction.decideBy (supplied : Option Domain) (ledger : Ledger)
    (found : Address × RuleList) : List ForwardAction :=
  match found.2 with
  | [] => []
  | rules => decide found.1 (rules.addressesWith supplied) ledger

/-- The forwarding rules that a lookup has found, and for whom. -/
def Effect.forwardRules? : Effect → Option (Source × RuleList)
  | foundForwards source (.ok rules) => some (source, rules)
  | _ => none

/-- Forwarding rules were looked up for every recipient that can have any, in
turn, and the actions are what the answers amount to. -/
structure ForwardAction.Settle (supplied : Option Domain) (ledger : Ledger)
    (recipients : List Address) (effects : List Effect) (actions : List ForwardAction)
    (found : List (Address × RuleList)) : Prop where
  each : found.map Prod.fst = recipients.filter fun recipient => !recipient.isQuoted
  answers : effects.filterMap Effect.forwardRules? =
    found.map fun answer => (.user answer.1.localPart answer.1.domain, answer.2)
  completable : ∀ answer ∈ found, answer.2.Completable supplied
  actions : actions = found.flatMap (decideBy supplied ledger)

/-- Effects that look up no forwarding rules. -/
theorem forwardRules_eq_nil
    {effects : List Effect}
    (others : ∀ effect ∈ effects, effect.DecidesRecipients ∨ effect.IsDeed) :
    effects.filterMap Effect.forwardRules? = [] := by
  refine List.filterMap_eq_nil_iff.2 ?_
  intro effect member
  rcases others effect member with question | deed
  · cases effect <;> first | rfl | exact question.elim
  · cases effect <;> first | rfl | exact deed.elim

namespace ForwardAction

variable {earlier supplied : Option Domain} {ledger : Ledger}

theorem decideBy_eq
    {answer : Address × RuleList}
    (completable : answer.2.Completable earlier)
    (kept : ∀ domain, earlier = some domain → supplied = some domain) :
    decideBy supplied ledger answer = decideBy earlier ledger answer := by
  unfold decideBy
  split
  · rfl
  · rw [completable.addressesWith_eq kept]

theorem Settle.mono
    {recipients : List Address} {effects : List Effect} {actions : List ForwardAction}
    {found : List (Address × RuleList)}
    (settle : Settle earlier ledger recipients effects actions found)
    (kept : ∀ domain, earlier = some domain → supplied = some domain) :
    Settle supplied ledger recipients effects actions found where
  each := settle.each
  answers := settle.answers
  completable := fun answer member => (settle.completable answer member).mono kept
  actions := by
    rw [settle.actions]
    refine List.flatMap_congr ?_
    intro answer member
    exact (decideBy_eq (settle.completable answer member) kept).symm

theorem Settle.append
    {recipients others : List Address} {before behind : List Effect}
    {actions more : List ForwardAction} {found later : List (Address × RuleList)}
    (first : Settle supplied ledger recipients before actions found)
    (second : Settle supplied ledger others behind more later) :
    Settle supplied ledger (recipients ++ others) (before ++ behind) (actions ++ more)
      (found ++ later) where
  each := by rw [List.map_append, List.filter_append, first.each, second.each]
  answers := by rw [List.filterMap_append, List.map_append, first.answers, second.answers]
  completable := by
    intro answer member
    rcases List.mem_append.1 member with inFound | inLater
    · exact first.completable answer inFound
    · exact second.completable answer inLater
  actions := by rw [List.flatMap_append, first.actions, second.actions]

/-- Effects that look up no forwarding rules make no difference. -/
theorem Settle.preceded
    {recipients : List Address} {before effects : List Effect} {actions : List ForwardAction}
    {found : List (Address × RuleList)}
    (settle : Settle supplied ledger recipients effects actions found)
    (others : before.filterMap Effect.forwardRules? = []) :
    Settle supplied ledger recipients (before ++ effects) actions found where
  each := settle.each
  answers := by rw [List.filterMap_append, others, List.nil_append, settle.answers]
  completable := settle.completable
  actions := settle.actions

theorem Settle.followed
    {recipients : List Address} {effects behind : List Effect} {actions : List ForwardAction}
    {found : List (Address × RuleList)}
    (settle : Settle supplied ledger recipients effects actions found)
    (others : behind.filterMap Effect.forwardRules? = []) :
    Settle supplied ledger recipients (effects ++ behind) actions found where
  each := settle.each
  answers := by rw [List.filterMap_append, others, List.append_nil, settle.answers]
  completable := settle.completable
  actions := settle.actions

end ForwardAction

namespace Processor

variable {directoryWorld transportWorld : Type}
  (processor : Processor directoryWorld transportWorld)

/-! ## Lookups -/

theorem run_defaultDomain_of_some
    {start : PassState directoryWorld transportWorld} {domain : Domain}
    (remembered : start.defaultDomain = some domain) :
    processor.defaultDomain.run start = (.ok domain, start) := by
  have read : (get : Pass directoryWorld transportWorld _).run start = (.ok start, start) := rfl
  rw [defaultDomain, Pass.run_bind_of_ok read, remembered]
  rfl

theorem run_defaultDomain_of_none
    {start : PassState directoryWorld transportWorld}
    (forgotten : start.defaultDomain = none) :
    processor.defaultDomain.run start =
      let (reply, directory) := processor.directory.defaultDomain start.directory
      (reply.mapError .lookup,
        { start with
          directory
          defaultDomain := reply.toOption
          trace := start.trace ++ [.askedDefaultDomain reply] }) := by
  obtain ⟨surroundings, remembered, trace⟩ := start
  obtain rfl : remembered = none := forgotten
  have read : (get : Pass directoryWorld transportWorld _).run ⟨surroundings, none, trace⟩ =
      (.ok ⟨surroundings, none, trace⟩, ⟨surroundings, none, trace⟩) := rfl
  have consulted : (Pass.consult processor.directory.defaultDomain :
      Pass directoryWorld transportWorld _).run ⟨surroundings, none, trace⟩ =
        (.ok (processor.directory.defaultDomain surroundings.directory).1,
          ⟨{ surroundings with
            directory := (processor.directory.defaultDomain surroundings.directory).2 },
            none, trace⟩) := rfl
  rw [defaultDomain, Pass.run_bind_of_ok read]
  dsimp only
  rw [Pass.run_bind_of_ok consulted]
  cases (processor.directory.defaultDomain surroundings.directory).1 with
  | ok domain => rfl
  | error failure => rfl

theorem defaultDomain_inquires :
    processor.defaultDomain.Inquires true fun supplied added domain =>
      supplied = some domain ∧ added.filterMap Effect.forwardRules? = [] := by
  intro start
  cases remembered : start.defaultDomain with
  | some domain =>
      rw [processor.run_defaultDomain_of_some remembered]
      refine ⟨[], by simp, by simp [remembered], ?_, rfl, by simp, rfl⟩
      simp [AsksOnDemand]
  | none =>
      rw [processor.run_defaultDomain_of_none remembered]
      cases processor.directory.defaultDomain start.directory with
      | mk reply world =>
          refine ⟨[.askedDefaultDomain reply], rfl, ?_, ?_, ?_⟩
          · cases reply <;> rfl
          · simp [AsksOnDemand, Effect.asksDefaultDomain]
          · cases reply with
            | ok domain => exact ⟨rfl, rfl, rfl⟩
            | error failure => exact ⟨failure, rfl, rfl⟩

/-- A lookup with a time limit is written down once, with its reply. -/
theorem timedLookup_recalls
    {answer : Type} (settings : ProcessorSettings)
    (question : directoryWorld → Timed answer × directoryWorld)
    {written : Except LookupError answer → Effect}
    (unsupplied : ∀ reply, (written reply).suppliedDomain? = none) :
    (do let timed ← Pass.consult question
        Pass.note (written (withinLimit settings timed))
        Pass.require (withinLimit settings timed) :
      Pass directoryWorld transportWorld answer).Recalls fun _ result added =>
        ∃ reply : Except LookupError answer, result = reply.mapError .lookup ∧
          added = [written reply] := by
  intro start
  have consulted : (Pass.consult question : Pass directoryWorld transportWorld _).run start =
      (.ok (question start.directory).1,
        { start with directory := (question start.directory).2 }) := rfl
  rw [Pass.run_bind_of_ok consulted]
  generalize withinLimit settings (question start.directory).1 = reply
  have single : ∀ effect ∈ [written reply], effect.suppliedDomain? = none := by
    simp [unsupplied]
  refine ⟨[written reply], ?_, ?_, reply, ?_, rfl⟩
  · cases reply <;> rfl
  · rw [recallDomain_of_unsupplied start.defaultDomain single]
    cases reply <;> rfl
  · cases reply <;> rfl

theorem resolve_recalls (source : Source) :
    (processor.resolve source).Recalls fun _ result added =>
      ∃ reply : Except LookupError Resolution, result = reply.mapError .lookup ∧
        added = [.resolved source reply] :=
  timedLookup_recalls processor.settings _ fun _ => rfl

theorem findForwards_recalls (source : Source) :
    (processor.findForwards source).Recalls fun _ result added =>
      ∃ reply : Except LookupError RuleList, result = reply.mapError .lookup ∧
        added = [.foundForwards source reply] :=
  timedLookup_recalls processor.settings _ fun _ => rfl

theorem isLocal_inquires (domain : Domain) :
    (processor.isLocal domain).Inquires false fun _ _ _ => True := by
  intro start
  let reply := (processor.directory.isLocal domain start.directory).1
  have single : ∀ effect ∈ [Effect.askedLocality domain reply],
      effect.suppliedDomain? = none := by
    simp [Effect.suppliedDomain?]
  refine ⟨[.askedLocality domain reply], rfl, ?_, ?_, rfl, trivial⟩
  · rw [recallDomain_of_unsupplied start.defaultDomain single]
    rfl
  · simp [AsksOnDemand, Effect.asksDefaultDomain, Effect.leavesOutDomain, Effect.foundRules]

/-! ## Targets -/

theorem complete_inquires {rule : Rule} (needs : rule.needsDomain = true) :
    (processor.complete rule).Inquires true fun supplied added completed =>
      supplied ≠ none ∧ completed = supplied.elim rule rule.completeWith ∧
        added.filterMap Effect.forwardRules? = [] := by
  rw [complete, if_pos needs]
  refine Pass.inquires_bind (Bool.or_false true) processor.defaultDomain_inquires ?_
  intro earlier before domain asked
  obtain ⟨rfl, unfound⟩ := asked
  refine Pass.inquires_pure ?_
  intro supplied kept
  rw [kept domain rfl, List.append_nil]
  exact ⟨by simp, rfl, unfound⟩

theorem addTargets_inquires (found : List Address) (rules : RuleList) :
    (processor.addTargets found rules).Inquires (rules.any Rule.needsDomain)
      fun supplied added addresses =>
        rules.Completable supplied ∧ added.filterMap Effect.forwardRules? = [] ∧
          addresses = UniqueList.addAll found
            ((rules.map fun rule => supplied.elim rule rule.completeWith).filterMap
              Rule.address?) := by
  induction rules generalizing found with
  | nil =>
      refine Pass.inquires_pure ?_
      intro supplied
      exact ⟨by simp [RuleList.Completable], rfl, rfl⟩
  | cons rule rest inductionHypothesis =>
      rw [addTargets]
      by_cases needs : rule.needsDomain = true
      · have demand : (rule :: rest).any Rule.needsDomain = true := by simp [needs]
        rw [demand]
        refine Pass.inquires_bind (Bool.true_or (rest.any Rule.needsDomain))
          (processor.complete_inquires needs) ?_
        intro earlier before completed first
        obtain ⟨remembered, rfl, unfound⟩ := first
        refine (inductionHypothesis _).mono ?_
        intro supplied added addresses later kept
        obtain ⟨completable, unfoundLater, rfl⟩ := later
        obtain ⟨domain, rfl⟩ := Option.ne_none_iff_exists'.1 remembered
        obtain rfl := kept domain rfl
        refine ⟨?_, by simp [unfound, unfoundLater], ?_⟩
        · intro other member _
          simp
        · cases named : (rule.completeWith domain).address? with
          | none => simp [named]
          | some address => simp [named]
      · have whole : rule.needsDomain = false := by simpa using needs
        have demand : (rule :: rest).any Rule.needsDomain = rest.any Rule.needsDomain := by
          simp [whole]
        rw [demand, complete, if_neg needs, pure_bind]
        refine (inductionHypothesis _).mono ?_
        intro supplied added addresses later
        obtain ⟨completable, unfound, rfl⟩ := later
        refine ⟨?_, unfound, ?_⟩
        · intro other member lacks
          rcases List.mem_cons.1 member with rfl | inRest
          · exact absurd lacks needs
          · exact completable other inRest lacks
        · rw [List.map_cons, RuleList.elim_completeWith_of_whole whole]
          cases named : rule.address? with
          | none => simp [named]
          | some address => simp [named]

/-- What rules lead to is what they name, with the remembered domain in place of
each that they leave out. -/
theorem targets_inquires (rules : RuleList) :
    (processor.targets rules).Inquires (rules.any Rule.needsDomain)
      fun supplied added addresses =>
        rules.Completable supplied ∧ added.filterMap Effect.forwardRules? = [] ∧
          addresses = rules.addressesWith supplied :=
  processor.addTargets_inquires [] rules

/-! ## Decisions -/

theorem askAll_inquires (groups : List Partition.Group) :
    (Partition.askAll processor.isLocal groups).Inquires false fun _ _ answered =>
      answered.map Prod.fst = groups := by
  induction groups with
  | nil => exact Pass.inquires_pure fun _ => rfl
  | cons group rest inductionHypothesis =>
      refine Pass.inquires_bind rfl (processor.isLocal_inquires group.domain) ?_
      intro earlier before answer _
      refine Pass.inquires_bind rfl inductionHypothesis ?_
      rintro _ _ others rfl
      exact Pass.inquires_pure fun _ _ _ => rfl

/-- The two sides of a partition hold what was to be split, in some order. -/
theorem ofAddresses_inquires (addresses : List Address) :
    (Partition.ofAddresses processor.isLocal addresses).Inquires false fun _ _ split =>
      (split.onSite ++ split.remote).Perm addresses := by
  refine Pass.inquires_bind rfl (processor.askAll_inquires _) ?_
  intro earlier before answered groups
  refine Pass.inquires_pure ?_
  intro supplied _
  have sides := Partition.ofAnswers_perm answered
  rw [groups] at sides
  exact sides.trans (Partition.groupByDomain_perm addresses)

theorem decide_inquires (recipient : Address) :
    (processor.decide recipient).Inquires false fun supplied added decision =>
      decision.FollowsFrom supplied added recipient := by
  unfold decide
  cases named : Source.ofAddress? recipient with
  | none => exact Pass.inquires_pure fun _ => .unnamed named
  | some source =>
      refine Pass.inquires_lookup (processor.resolve_recalls source) (fun _ => rfl)
        (fun _ => rfl) (fun _ => rfl) ?_
      intro resolution
      cases resolution with
      | rejected reason =>
          exact Pass.inquires_pure fun _ => .rejected named List.mem_cons_self
      | success rules =>
          cases rules with
          | nil => exact Pass.inquires_pure fun _ => .unmapped named List.mem_cons_self
          | cons rule rest =>
              refine Pass.inquires_bind (Bool.or_false _)
                (processor.targets_inquires (rule :: rest)) ?_
              intro earlier before addresses led
              obtain ⟨completable, _, rfl⟩ := led
              refine Pass.inquires_bind rfl (processor.ofAddresses_inquires _) ?_
              intro middle between split sides
              refine Pass.inquires_pure ?_
              intro supplied keptLater kept
              refine .replaced named List.mem_cons_self (List.cons_ne_nil rule rest)
                (completable.mono kept) ?_
              rw [completable.addressesWith_eq kept]
              exact sides

theorem decideAll_inquires (recipients : List Address) :
    (processor.decideAll recipients).Inquires false fun supplied added decisions =>
      List.Forall₂ (fun recipient decision => decision.FollowsFrom supplied added recipient)
        recipients decisions := by
  induction recipients with
  | nil => exact Pass.inquires_pure fun _ => .nil
  | cons recipient rest inductionHypothesis =>
      refine Pass.inquires_bind rfl (processor.decide_inquires recipient) ?_
      intro earlier before decision follows
      refine Pass.inquires_bind rfl inductionHypothesis ?_
      intro middle between others othersFollow
      refine Pass.inquires_pure ?_
      intro supplied keptLater kept
      rw [List.append_nil]
      refine .cons (follows.mono kept (List.subset_append_left before between)) ?_
      refine othersFollow.imp ?_
      intro other otherDecision otherFollows
      exact otherFollows.mono keptLater (List.subset_append_right before between)

/-! ## Forwarding -/

theorem forwardActions_inquires (ledger : Ledger) (recipient : Address) :
    (processor.forwardActions ledger recipient).Inquires false fun supplied added actions =>
      ∃ found, ForwardAction.Settle supplied ledger [recipient] added actions found := by
  unfold forwardActions
  by_cases quoted : recipient.isQuoted = true
  · have unnamed : Source.ofAddress? recipient = none := by
      rw [Source.ofAddress?, if_pos quoted]
    rw [unnamed]
    refine Pass.inquires_pure ?_
    intro supplied
    exact ⟨[], by simp [quoted], rfl, by simp, rfl⟩
  · have named : Source.ofAddress? recipient =
        some (.user recipient.localPart recipient.domain) := by
      rw [Source.ofAddress?, if_neg quoted]
    have unquoted : recipient.isQuoted = false := by simpa using quoted
    rw [named]
    refine Pass.inquires_lookup (processor.findForwards_recalls _) (fun _ => rfl)
      (fun _ => rfl) (fun _ => rfl) ?_
    intro rules
    cases rules with
    | nil =>
        refine Pass.inquires_pure ?_
        intro supplied
        refine ⟨[(recipient, [])], by simp [unquoted], rfl, ?_, rfl⟩
        simp [RuleList.Completable]
    | cons rule rest =>
        refine Pass.inquires_bind (Bool.or_false _) (processor.targets_inquires (rule :: rest)) ?_
        intro earlier before addresses led
        obtain ⟨completable, unfound, rfl⟩ := led
        refine Pass.inquires_pure ?_
        intro supplied kept
        refine ⟨[(recipient, rule :: rest)], by simp [unquoted], ?_, ?_, ?_⟩
        · simp [Effect.forwardRules?, unfound]
        · simpa using completable.mono kept
        · rw [← completable.addressesWith_eq kept]
          simp [ForwardAction.decideBy]

theorem allForwardActions_inquires (ledger : Ledger) (recipients : List Address) :
    (processor.allForwardActions ledger recipients).Inquires false fun supplied added actions =>
      ∃ found, ForwardAction.Settle supplied ledger recipients added actions found := by
  induction recipients with
  | nil =>
      refine Pass.inquires_pure ?_
      intro supplied
      exact ⟨[], rfl, rfl, by simp, rfl⟩
  | cons recipient rest inductionHypothesis =>
      refine Pass.inquires_bind rfl (processor.forwardActions_inquires ledger recipient) ?_
      intro earlier before actions settled
      obtain ⟨found, first⟩ := settled
      refine Pass.inquires_bind rfl inductionHypothesis ?_
      intro middle between others settledLater
      obtain ⟨later, second⟩ := settledLater
      refine Pass.inquires_pure ?_
      intro supplied keptLater kept
      rw [List.append_nil]
      exact ⟨found ++ later, (first.mono kept).append (second.mono keptLater)⟩

end Processor

end RecipientRewriting
