import RecipientRewriting.Proofs.Processing.Phases
import RecipientRewriting.Transport

/-!
# Recipients that forwarding takes off

Forwarding takes a recipient off a mail because it sends a copy on its behalf,
or because it reports that the recipient forwards in a circle.  There is a third
way, in which nothing is sent at all: the recipient has forwarding rules, but
none of them names an address.
-/

namespace RecipientRewriting

/-! ## Actions -/

namespace ForwardAction

variable {recipient : Address} {targets : List Address} {ledger : Ledger}

theorem remove_mem_decide_iff {removed : Address} :
    .remove removed ∈ decide recipient targets ledger ↔
      removed = recipient ∧ recipient ∉ ledger.addresses ∧ recipient ∉ targets := by
  unfold decide
  by_cases recorded : recipient ∈ ledger.addresses
  · simp [recorded]
  · simp [recorded, and_comm]

theorem exists_sendCopy_mem_decide
    {target : Address}
    (unrecorded : recipient ∉ ledger.addresses)
    (member : target ∈ targets)
    (fresh : target ∉ ledger.addresses)
    (different : target ≠ recipient) :
    ∃ others, others ≠ [] ∧ .sendCopy recipient others ∈ decide recipient targets ledger := by
  let others := (ledger.nonRecorded targets).filter fun target => target ≠ recipient
  have among : target ∈ others := by
    refine List.mem_filter.2 ⟨Ledger.mem_nonRecorded.2 ⟨member, fresh⟩, ?_⟩
    simpa using different
  have nonempty : others ≠ [] := List.ne_nil_of_mem among
  have sends : (if others.isEmpty then [] else [sendCopy recipient others]) =
      [sendCopy recipient others] := by
    simpa using nonempty
  have answer : ¬ ledger.contains recipient = true := by simpa using unrecorded
  refine ⟨others, nonempty, ?_⟩
  unfold decide
  rw [if_neg answer]
  apply List.mem_append_left
  apply List.mem_append_left
  rw [sends]
  exact List.mem_cons_self

theorem recordLoop_mem_decide
    (unrecorded : recipient ∉ ledger.addresses)
    (nonempty : targets ≠ [])
    (visited : ∀ target ∈ targets, target ∈ ledger.addresses) :
    .recordLoop recipient ∈ decide recipient targets ledger := by
  have nothing : ledger.nonRecorded targets = [] := by
    refine List.eq_nil_iff_forall_not_mem.2 fun target member => ?_
    obtain ⟨inTargets, fresh⟩ := Ledger.mem_nonRecorded.1 member
    exact fresh (visited target inTargets)
  have answer : ¬ ledger.contains recipient = true := by simpa using unrecorded
  unfold decide
  rw [if_neg answer, nothing]
  simp [nonempty]

/-- Where there are targets, whoever is taken off sends a copy or is reported. -/
theorem sendCopy_or_recordLoop_of_remove
    {removed : Address}
    (nonempty : targets ≠ [])
    (removes : .remove removed ∈ decide recipient targets ledger) :
    (∃ others, others ≠ [] ∧ .sendCopy recipient others ∈ decide recipient targets ledger) ∨
      .recordLoop recipient ∈ decide recipient targets ledger := by
  obtain ⟨_, unrecorded, absent⟩ := remove_mem_decide_iff.1 removes
  by_cases visited : ∀ target ∈ targets, target ∈ ledger.addresses
  · exact Or.inr (recordLoop_mem_decide unrecorded nonempty visited)
  · simp only [not_forall] at visited
    obtain ⟨target, member, fresh⟩ := visited
    have different : target ≠ recipient := by
      rintro rfl
      exact absent member
    exact Or.inl (exists_sendCopy_mem_decide unrecorded member fresh different)

end ForwardAction

/-- At some time a directory has forwarding rules for an address, but none of
them names an address once it is completed. -/
def Directory.ForwardsNowhere {world : Type} (directory : Directory world)
    (recipient : Address) : Prop :=
  ∃ source now rules completed, Source.ofAddress? recipient = some source ∧
    (directory.forwardRules source now).1.answer = .ok rules ∧ rules ≠ [] ∧
    List.Forall₂ directory.Completes rules completed ∧
    ∀ rule ∈ completed, rule.address? = none

theorem RuleList.address?_eq_none_of_addresses
    {rules : RuleList} (empty : RuleList.addresses rules = []) :
    ∀ rule ∈ rules, rule.address? = none := by
  intro rule member
  cases names : rule.address? with
  | none => rfl
  | some target =>
      have named := RuleList.mem_addresses.2 ⟨rule, member, names⟩
      rw [empty] at named
      simp at named

/-- Whoever is taken off by some of the actions is in others of them as well, or
forwards nowhere. -/
def ForwardAction.AccountForRemovals {world : Type} (directory : Directory world)
    (actions : List ForwardAction) : Prop :=
  ∀ recipient, .remove recipient ∈ actions →
    (∃ others, others ≠ [] ∧ .sendCopy recipient others ∈ actions) ∨
      .recordLoop recipient ∈ actions ∨ directory.ForwardsNowhere recipient

theorem mem_removed_of_not_mem
    {mail : Mail} {actions : List ForwardAction} {recipient : Address}
    (before : recipient ∈ mail.recipients)
    (after : recipient ∉ (Processor.withoutRemoved mail actions).recipients) :
    .remove recipient ∈ actions := by
  have removed : recipient ∈ actions.filterMap ForwardAction.removed? := by
    by_cases absent : recipient ∈ actions.filterMap ForwardAction.removed?
    · exact absent
    · refine absurd (List.mem_filter.2 ⟨before, ?_⟩) after
      simpa using absent
  obtain ⟨action, member, removes⟩ := List.mem_filterMap.1 removed
  cases action with
  | remove other =>
      obtain rfl : other = recipient := by simpa [ForwardAction.removed?] using removes
      exact member
  | sendCopy sender targets => simp [ForwardAction.removed?] at removes
  | recordLoop other => simp [ForwardAction.removed?] at removes

namespace Processor

variable {directoryWorld transportWorld : Type}
  {processor : Processor directoryWorld transportWorld} {ledger : Ledger}
  {recipient : Address} {actions : List ForwardAction}

theorem Acts.accountForRemovals
    (acts : processor.Acts ledger recipient actions) :
    ForwardAction.AccountForRemovals processor.directory actions := by
  intro removed removes
  cases acts with
  | nothing => simp at removes
  | @decided source now rules completed named answered nonempty completes =>
      obtain ⟨rfl, _⟩ := ForwardAction.remove_mem_decide_iff.1 removes
      by_cases nowhere : RuleList.addresses completed = []
      · have noAddress := RuleList.address?_eq_none_of_addresses nowhere
        exact Or.inr (Or.inr ⟨source, now, rules, completed, named, answered, nonempty,
          completes, noAddress⟩)
      · rcases ForwardAction.sendCopy_or_recordLoop_of_remove nowhere removes with
          sends | reports
        · exact Or.inl sends
        · exact Or.inr (Or.inl reports)

theorem ActsOnEach.accountForRemovals
    (acts : processor.ActsOnEach ledger actions) :
    ForwardAction.AccountForRemovals processor.directory actions := by
  intro removed removes
  obtain ⟨_, part, actsOn, inPart, subset⟩ := acts _ removes
  rcases actsOn.accountForRemovals removed inPart with ⟨others, nonempty, sends⟩ | reports | nowhere
  · exact Or.inl ⟨others, nonempty, subset sends⟩
  · exact Or.inr (Or.inl (subset reports))
  · exact Or.inr (Or.inr nowhere)

end Processor

/-! ## Accounting -/

/-- A copy that has been taken accounts for a recipient: it was sent on its
behalf to somebody, or it was sent to the error state for it. -/
inductive Accounted (settings : ProcessorSettings) (recipient : Address)
    (effects : List Effect) : Prop
  | forwarded {copy : Mail} :
      .injected .forward ⟨copy, none⟩ (.ok ()) ∈ effects →
      copy.sender = some recipient →
      copy.recipients ≠ [] →
      Accounted settings recipient effects
  | reported {copy : Mail} :
      .injected .loop ⟨copy, some settings.errorState⟩ (.ok ()) ∈ effects →
      recipient ∈ copy.recipients →
      Accounted settings recipient effects

def AllTaken (effects : List Effect) : Prop :=
  ∀ reason injection failure, .injected reason injection (.error failure) ∉ effects

theorem AllTaken.answer_eq
    {effects : List Effect} {reason : CopyReason} {injection : Injection}
    {answer : Except TransportError Unit}
    (allTaken : AllTaken effects)
    (member : .injected reason injection answer ∈ effects) :
    answer = .ok () := by
  cases answer with
  | ok taken => rfl
  | error failure => exact absurd member (allTaken reason injection failure)

theorem Processor.handle_accounts
    {directoryWorld transportWorld : Type} {processor : Processor directoryWorld transportWorld}
    {mail : Mail} {start : PassState directoryWorld transportWorld} {recipient : Address}
    (supplied : start.Supplied processor.directory)
    (succeeds : (handle processor.applyForwards mail start).result = .ok ())
    (allTaken : AllTaken (handle processor.applyForwards mail start).state.trace)
    (before : recipient ∈ mail.recipients)
    (after : recipient ∉ (handle processor.applyForwards mail start).mail.recipients) :
    Accounted processor.settings recipient
        (handle processor.applyForwards mail start).state.trace ∨
      processor.directory.ForwardsNowhere recipient := by
  have phase := (processor.applyForwards_amounts mail).run_eq_ok succeeds
  generalize (handle processor.applyForwards mail start).mail = remaining at phase after
  generalize (handle processor.applyForwards mail start).state = last at phase allTaken ⊢
  rcases forwardingOf_eq_ok supplied phase with
    rfl | ⟨_, actions, asked, acts, performed, rfl⟩
  · exact absurd before after
  · have accounts := acts.accountForRemovals
    obtain ⟨added, trace, _, _, _, handed⟩ :=
      processor.carryOutAll_succeeds mail (Ledger.ofMail mail) actions asked
    rw [performed] at trace
    have inTrace : added ⊆ last.trace := by
      rw [trace]
      exact List.subset_append_right asked.trace added
    have removes := mem_removed_of_not_mem before after
    rcases accounts recipient removes with ⟨others, nonempty, sends⟩ | reports | nowhere
    · rcases handed _ sends with ⟨_, impossible⟩ | ⟨reason, injection, answer, member, performs⟩
      · cases impossible
      · obtain rfl := allTaken.answer_eq (inTrace member)
        cases performs with
        | sends name => exact Or.inl (.forwarded (inTrace member) rfl nonempty)
    · rcases handed _ reports with ⟨_, impossible⟩ | ⟨reason, injection, answer, member, performs⟩
      · cases impossible
      · obtain rfl := allTaken.answer_eq (inTrace member)
        cases performs with
        | reports name => exact Or.inl (.reported (inTrace member) List.mem_cons_self)
    · exact Or.inr nowhere

/-- If forwarding comes to its end, on its own or behind the rewriting of
recipients, and every copy is taken, then whoever it takes off the mail is
accounted for by a copy, or has forwarding rules none of which names an
address. -/
theorem Processor.removals_accounted
    {directoryWorld transportWorld : Type}
    (processor : Processor directoryWorld transportWorld) (mail : Mail)
    (surroundings : Surroundings directoryWorld transportWorld) :
    let forwarded := processor.processForwards mail surroundings
    let rewritten := processor.rewriting mail surroundings
    let processed := processor.processMail mail surroundings
    (forwarded.result = .ok () → AllTaken forwarded.state.trace →
      ∀ recipient ∈ mail.recipients, recipient ∉ forwarded.mail.recipients →
        Accounted processor.settings recipient forwarded.state.trace ∨
          processor.directory.ForwardsNowhere recipient) ∧
    (processed.result = .ok () → AllTaken processed.state.trace →
      ∀ recipient ∈ rewritten.mail.recipients, recipient ∉ processed.mail.recipients →
        Accounted processor.settings recipient processed.state.trace ∨
          processor.directory.ForwardsNowhere recipient) := by
  intro forwarded rewritten processed
  constructor
  · intro succeeds allTaken recipient before after
    have supplied := PassState.start_supplied surroundings processor.directory
    exact handle_accounts supplied succeeds allTaken before after
  · intro succeeds allTaken recipient before after
    obtain ⟨rewrote, phases⟩ := rewriting_of_processMail succeeds
    obtain ⟨_, rewrites⟩ := exists_rewrites rewrote
    replace phases : processed = _ := phases
    rw [phases] at succeeds allTaken after ⊢
    exact handle_accounts rewrites.supplied succeeds allTaken before after

/-! ## A target that is an address, and one that is none -/

/-- A processor over a table in which one user forwards to `target`. -/
def forwarder (target : String) : Processor Unit Recorder where
  settings := ⟨true, true, .error, none⟩
  audit := .default
  directory := .ofTable
    (RuleTable.empty.addRule (.user "a" (.ofString "x.org")) ⟨.forward, target⟩)
    ⟨[.ofString "x.org"], some (.ofString "x.org")⟩
  transport := Recorder.transport

def forwardingUser : Address :=
  ⟨"a", .ofString "x.org"⟩

def forwardedMail : Mail :=
  .fresh ⟨0⟩ ⟨none, [forwardingUser]⟩ []

/-- A copy that was handed to the transport, and what that said. -/
def Effect.handedOver? : Effect → Option (Injection × Except TransportError Unit)
  | injected _ injection answer => some (injection, answer)
  | _ => none

theorem allTaken_of_handedOver
    {effects : List Effect}
    (taken : ∀ handed ∈ effects.filterMap Effect.handedOver?, handed.2 = .ok ()) :
    AllTaken effects := by
  intro reason injection failure member
  have answer := taken (injection, .error failure)
    (List.mem_filterMap.2 ⟨_, member, rfl⟩)
  cases answer

theorem removals_accounted_of_address :
    ((forwarder "b@y.org").processForwards forwardedMail ⟨(), .empty, ⟨1⟩⟩).result = .ok () ∧
      AllTaken
        ((forwarder "b@y.org").processForwards forwardedMail ⟨(), .empty, ⟨1⟩⟩).state.trace ∧
      forwardingUser ∈ forwardedMail.recipients ∧
      forwardingUser ∉ ((forwarder "b@y.org").processForwards forwardedMail
        ⟨(), .empty, ⟨1⟩⟩).mail.recipients ∧
      (Accounted (forwarder "b@y.org").settings forwardingUser
          ((forwarder "b@y.org").processForwards forwardedMail ⟨(), .empty, ⟨1⟩⟩).state.trace ∨
        (forwarder "b@y.org").directory.ForwardsNowhere forwardingUser) := by
  have succeeds :
      ((forwarder "b@y.org").processForwards forwardedMail ⟨(), .empty, ⟨1⟩⟩).result = .ok () := by
    decide +kernel
  have allTaken : AllTaken
      ((forwarder "b@y.org").processForwards forwardedMail ⟨(), .empty, ⟨1⟩⟩).state.trace := by
    apply allTaken_of_handedOver
    decide +kernel
  have before : forwardingUser ∈ forwardedMail.recipients := List.mem_cons_self
  have after : forwardingUser ∉ ((forwarder "b@y.org").processForwards forwardedMail
      ⟨(), .empty, ⟨1⟩⟩).mail.recipients := by
    decide +kernel
  have accounted :=
    ((forwarder "b@y.org").removals_accounted forwardedMail ⟨(), .empty, ⟨1⟩⟩).1 succeeds
      allTaken forwardingUser before after
  exact ⟨succeeds, allTaken, before, after, accounted⟩

/-- A target that is no address is passed over, and the user is taken off the
mail without any copy. -/
theorem removal_unaccounted :
    ((forwarder "carol smith@y.org").processForwards forwardedMail
        ⟨(), .empty, ⟨1⟩⟩).result = .ok () ∧
      AllTaken ((forwarder "carol smith@y.org").processForwards forwardedMail
        ⟨(), .empty, ⟨1⟩⟩).state.trace ∧
      forwardingUser ∈ forwardedMail.recipients ∧
      forwardingUser ∉ ((forwarder "carol smith@y.org").processForwards forwardedMail
        ⟨(), .empty, ⟨1⟩⟩).mail.recipients ∧
      ¬ Accounted (forwarder "carol smith@y.org").settings forwardingUser
        ((forwarder "carol smith@y.org").processForwards forwardedMail
          ⟨(), .empty, ⟨1⟩⟩).state.trace := by
  have nothing : ((forwarder "carol smith@y.org").processForwards forwardedMail
      ⟨(), .empty, ⟨1⟩⟩).state.trace.filterMap Effect.handedOver? = [] := by
    decide +kernel
  have allTaken : AllTaken ((forwarder "carol smith@y.org").processForwards forwardedMail
      ⟨(), .empty, ⟨1⟩⟩).state.trace := by
    apply allTaken_of_handedOver
    rw [nothing]
    simp
  refine ⟨by decide +kernel, allTaken, List.mem_cons_self, by decide +kernel, ?_⟩
  intro accounted
  have unhanded := List.filterMap_eq_nil_iff.1 nothing
  cases accounted with
  | forwarded member => simpa [Effect.handedOver?] using unhanded _ member
  | reported member => simpa [Effect.handedOver?] using unhanded _ member

end RecipientRewriting
