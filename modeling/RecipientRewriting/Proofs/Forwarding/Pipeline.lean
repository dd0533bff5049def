import Mathlib.Data.Finset.Card
import Mathlib.Logic.Hydra
import Mathlib.Tactic.Abel
import RecipientRewriting.Proofs.Forwarding.Returns
import RecipientRewriting.Proofs.Processing.Phases
import RecipientRewriting.Transport

/-!
# Feeding copies back

Mails wait to be processed, and what comes back from a pass over one of them
waits in its place.  Each mail that comes back can still be forwarded by fewer
users than the one it is made from.  So however the waiting mails are taken up,
there is an end to them, and none has been forwarded more often than there are
users who forward.
-/

namespace RecipientRewriting

/-! ## Who may still forward -/

def Source.address? : Source → Option Address
  | .user localPart domain => some ⟨localPart, domain⟩
  | .anyone _ => none

def RuleTable.forwarders (table : RuleTable) : Finset Address :=
  (table.forwardingUsers.filterMap Source.address?).toFinset

theorem RuleTable.card_forwarders_le (table : RuleTable) :
    table.forwarders.card ≤ table.forwardingUsers.length :=
  calc
    table.forwarders.card ≤ (table.forwardingUsers.filterMap Source.address?).length :=
      List.toFinset_card_le _
    _ ≤ table.forwardingUsers.length := List.length_filterMap_le _ _

theorem RuleTable.Forwards.mem_forwarders
    {table : RuleTable} {address : Address}
    (forwards : table.Forwards address) :
    address ∈ table.forwarders := by
  rw [RuleTable.forwarders, List.mem_toFinset, List.mem_filterMap]
  exact ⟨address.source, forwards.source_mem, rfl⟩

/-- A mail does not rule out that an address forwards it.  A mail to recipients
that cannot be read rules out nobody. -/
def Mail.LeavesTo (mail : Mail) (address : Address) : Prop :=
  (∀ recipient ∈ mail.recipients, recipient.IsParsed) →
    address.IsParsed ∧ address ∉ (Ledger.ofMail mail).addresses

open Classical in
/-- The users of a table who may still forward a mail. -/
noncomputable def RuleTable.forwardersLeft (table : RuleTable) (mail : Mail) : Finset Address :=
  table.forwarders.filter mail.LeavesTo

theorem RuleTable.mem_forwardersLeft
    {table : RuleTable} {mail : Mail} {address : Address} :
    address ∈ table.forwardersLeft mail ↔
      address ∈ table.forwarders ∧ mail.LeavesTo address := by
  classical
  unfold forwardersLeft
  exact Finset.mem_filter

theorem RuleTable.forwardersLeft_subset (table : RuleTable) (mail : Mail) :
    table.forwardersLeft mail ⊆ table.forwarders := by
  intro address member
  exact (RuleTable.mem_forwardersLeft.1 member).1

namespace Processor

variable {directoryWorld transportWorld : Type}
  {processor : Processor directoryWorld transportWorld} {table : RuleTable}
  {isLocal : Domain → Bool}

theorem SendsOn.ofMail_eq
    {mail copy : Mail} {sender : Address}
    (sendsOn : processor.SendsOn mail copy sender)
    (parsed : sender.IsParsed) :
    Ledger.ofMail copy = (Ledger.ofMail mail).add sender := by
  obtain ⟨unrecorded, rfl⟩ := sendsOn.recorded
  exact Ledger.ofMail_recordOn ((Ledger.ofMail_wellFormed mail).add parsed) unrecorded

/-- A forwarded copy is left to those who were left before, except its sender. -/
theorem SendsOn.forwardersLeft_ssubset
    {mail copy : Mail} {sender : Address}
    (sendsOn : processor.SendsOn mail copy sender)
    (serves : processor.directory.Serves table) :
    table.forwardersLeft copy ⊂ table.forwardersLeft mail := by
  have narrows : table.forwardersLeft copy ⊆ table.forwardersLeft mail := by
    intro address member
    obtain ⟨forwarder, left⟩ := RuleTable.mem_forwardersLeft.1 member
    obtain ⟨parsed, absent⟩ := left sendsOn.readable
    refine RuleTable.mem_forwardersLeft.2 ⟨forwarder, ?_⟩
    intro readable
    rw [sendsOn.ofMail_eq (sendsOn.parsed readable), Ledger.mem_add] at absent
    exact ⟨parsed, fun earlier => absent (Or.inl earlier)⟩
  have before : sender ∈ table.forwardersLeft mail := by
    have forwarder := (serves.forwards sendsOn.forwards).mem_forwarders
    exact RuleTable.mem_forwardersLeft.2
      ⟨forwarder, fun readable => ⟨sendsOn.parsed readable, sendsOn.absent⟩⟩
  -- A sender that cannot be read leaves a ledger behind that cannot be read either, but
  -- then the copy rules it out all the same, since its own recipients can be read.
  have after : sender ∉ table.forwardersLeft copy := by
    intro member
    obtain ⟨_, left⟩ := RuleTable.mem_forwardersLeft.1 member
    obtain ⟨parsed, absent⟩ := left sendsOn.readable
    rw [sendsOn.ofMail_eq parsed, Ledger.mem_add] at absent
    exact absent (Or.inr rfl)
  exact (Finset.ssubset_iff_of_subset narrows).2 ⟨sender, before, after⟩

end Processor

/-! ## Waiting mails -/

/-- A mail that waits to be processed, and how often it has been forwarded. -/
structure Waiting where
  mail : Mail
  hops : Nat

noncomputable def RuleTable.usersLeft (table : RuleTable) (waiting : Waiting) : Nat :=
  (table.forwardersLeft waiting.mail).card

/-- What comes back from a pass over a waiting mail: the copies that the
transport has taken without a state of their own.  Only a forwarded copy is
further away from the first mail. -/
def Waiting.returned (waiting : Waiting) (effects : List Effect) : List Waiting :=
  ((effects.filterMap Effect.taken?).filter fun copy => copy.2.state = none).map fun copy =>
    ⟨copy.2.mail, if copy.1 = .forward then waiting.hops + 1 else waiting.hops⟩

theorem Waiting.mem_returned
    {waiting copy : Waiting} {effects : List Effect}
    (member : copy ∈ waiting.returned effects) :
    ∃ reason, .injected reason ⟨copy.mail, none⟩ (.ok ()) ∈ effects ∧
      copy.hops = if reason = .forward then waiting.hops + 1 else waiting.hops := by
  obtain ⟨⟨reason, mail, state⟩, chosen, rfl⟩ := List.mem_map.1 member
  obtain ⟨inTaken, stateless⟩ := List.mem_filter.1 chosen
  obtain ⟨effect, inEffects, taken⟩ := List.mem_filterMap.1 inTaken
  obtain rfl := Effect.taken?_eq_some_iff.1 taken
  obtain rfl : state = none := by simpa using stateless
  exact ⟨reason, inEffects, rfl⟩

namespace Processor

variable {directoryWorld transportWorld : Type}
  {processor : Processor directoryWorld transportWorld} {table : RuleTable}
  {isLocal : Domain → Bool}

/-- One of the waiting mails is taken up, whichever it is and whatever the
surroundings are like, and what comes back waits in its place. -/
def Round (processor : Processor directoryWorld transportWorld)
    (before after : Multiset Waiting) : Prop :=
  ∃ waiting rest surroundings, before = waiting ::ₘ rest ∧
    after = rest + waiting.returned (processor.processMail waiting.mail surroundings).state.trace

/-- The queues that follow one another when a mail is fed to the processor, and
what comes back after it, until nothing waits any more. -/
structure Schedule (processor : Processor directoryWorld transportWorld) (first : Mail)
    (queues : Nat → Multiset Waiting) : Prop where
  start : queues 0 = {⟨first, 0⟩}
  next : ∀ step, processor.Round (queues step) (queues (step + 1)) ∨
    (queues step = 0 ∧ queues (step + 1) = 0)

/-- Whatever comes back has been forwarded once more, and is left to fewer users. -/
theorem returned_advances
    {waiting copy : Waiting} {surroundings : Surroundings directoryWorld transportWorld}
    (separately : processor.settings.forwardSeparately = true)
    (represents : processor.directory.Represents table isLocal)
    (locally : processor.directory.RewritesLocally table isLocal)
    (member : copy ∈
      waiting.returned (processor.processMail waiting.mail surroundings).state.trace) :
    copy.hops = waiting.hops + 1 ∧
      table.usersLeft copy < table.usersLeft waiting := by
  obtain ⟨reason, injected, hops⟩ := Waiting.mem_returned member
  obtain ⟨rfl, sender, sendsOn⟩ := exists_sendsOn separately represents locally injected
  exact ⟨hops, Finset.card_lt_card (sendsOn.forwardersLeft_ssubset represents.serves)⟩

/-- The mails that wait after some steps if they are taken up in the order in
which they have come back, always in the same surroundings. -/
def queueAfter (processor : Processor directoryWorld transportWorld)
    (surroundings : Surroundings directoryWorld transportWorld) (first : Mail) :
    Nat → List Waiting
  | 0 => [⟨first, 0⟩]
  | step + 1 =>
      match processor.queueAfter surroundings first step with
      | [] => []
      | waiting :: rest =>
          rest ++ waiting.returned (processor.processMail waiting.mail surroundings).state.trace

theorem queueAfter_schedule (processor : Processor directoryWorld transportWorld)
    (surroundings : Surroundings directoryWorld transportWorld) (first : Mail) :
    processor.Schedule first fun step => processor.queueAfter surroundings first step := by
  constructor
  · rfl
  · intro step
    rw [queueAfter]
    cases queue : processor.queueAfter surroundings first step with
    | nil => exact Or.inr ⟨rfl, rfl⟩
    | cons waiting rest => exact Or.inl ⟨waiting, rest, surroundings, rfl, rfl⟩

/-- A round trades a waiting mail for mails that fewer users may still forward. -/
theorem Round.cutExpand
    {before after : Multiset Waiting}
    (round : processor.Round before after)
    (separately : processor.settings.forwardSeparately = true)
    (represents : processor.directory.Represents table isLocal)
    (locally : processor.directory.RewritesLocally table isLocal) :
    Relation.CutExpand (InvImage (· < ·) table.usersLeft) after before := by
  obtain ⟨waiting, rest, surroundings, rfl, rfl⟩ := round
  refine ⟨waiting.returned (processor.processMail waiting.mail surroundings).state.trace,
    waiting, ?_, ?_⟩
  · intro copy member
    exact (returned_advances separately represents locally (Multiset.mem_coe.1 member)).2
  · rw [← Multiset.singleton_add]
    abel

theorem Round.keeps_bound
    {before after : Multiset Waiting} {bound : Nat}
    (round : processor.Round before after)
    (separately : processor.settings.forwardSeparately = true)
    (represents : processor.directory.Represents table isLocal)
    (locally : processor.directory.RewritesLocally table isLocal)
    (bounded : ∀ waiting ∈ before, waiting.hops + table.usersLeft waiting ≤ bound) :
    ∀ waiting ∈ after, waiting.hops + table.usersLeft waiting ≤ bound := by
  obtain ⟨waiting, rest, surroundings, rfl, rfl⟩ := round
  have parent := bounded waiting (Multiset.mem_cons_self waiting rest)
  intro other member
  rcases Multiset.mem_add.1 member with stays | back
  · exact bounded other (Multiset.mem_cons_of_mem stays)
  · obtain ⟨hops, fewer⟩ :=
      returned_advances separately represents locally (Multiset.mem_coe.1 back)
    omega

namespace Schedule

variable {first : Mail} {queues : Nat → Multiset Waiting}

theorem exists_empty
    (schedule : processor.Schedule first queues)
    (separately : processor.settings.forwardSeparately = true)
    (represents : processor.directory.Represents table isLocal)
    (locally : processor.directory.RewritesLocally table isLocal) :
    ∃ step, queues step = 0 := by
  have wellFounded : WellFounded (InvImage (· < ·) table.usersLeft) :=
    InvImage.wf table.usersLeft Nat.lt_wfRel.wf
  -- The induction is on the queue, so the step at which it waits has to be arbitrary.
  have ends : ∀ queue step, queues step = queue → ∃ later, queues later = 0 := by
    intro queue
    induction queue using wellFounded.cutExpand.induction with
    | _ queue inductionHypothesis =>
        intro step same
        rcases schedule.next step with round | ⟨empty, _⟩
        · have smaller := round.cutExpand separately represents locally
          rw [same] at smaller
          exact inductionHypothesis (queues (step + 1)) smaller (step + 1) rfl
        · exact ⟨step, empty⟩
  exact ends (queues 0) 0 rfl

theorem hops_le
    (schedule : processor.Schedule first queues)
    (separately : processor.settings.forwardSeparately = true)
    (represents : processor.directory.Represents table isLocal)
    (locally : processor.directory.RewritesLocally table isLocal)
    (step : Nat) :
    ∀ waiting ∈ queues step, waiting.hops + table.usersLeft waiting ≤ table.forwarders.card := by
  induction step with
  | zero =>
      intro waiting member
      rw [schedule.start] at member
      obtain rfl := Multiset.mem_singleton.1 member
      rw [Nat.zero_add]
      exact Finset.card_le_card (table.forwardersLeft_subset first)
  | succ step inductionHypothesis =>
      rcases schedule.next step with round | ⟨_, empty⟩
      · exact round.keeps_bound separately represents locally inductionHypothesis
      · simp [empty]

end Schedule

end Processor

/-- However the mails that wait for a processor are taken up, one after the
other, and whatever becomes of the passes over them: at some point nothing waits
any more, and no mail that has been waiting is further from the first one than
there are users with a forwarding rule. -/
theorem pipeline_terminates
    {directoryWorld transportWorld : Type}
    (table : RuleTable) (isLocal : Domain → Bool)
    (processor : Processor directoryWorld transportWorld)
    (first : Mail) (queues : Nat → Multiset Waiting)
    (separately : processor.settings.forwardSeparately = true)
    (represents : processor.directory.Represents table isLocal)
    (locally : processor.directory.RewritesLocally table isLocal)
    (schedule : processor.Schedule first queues) :
    (∃ step, queues step = 0) ∧
    ∀ step, ∀ waiting ∈ queues step, waiting.hops ≤ table.forwardingUsers.length := by
  refine ⟨schedule.exists_empty separately represents locally, ?_⟩
  intro step waiting member
  have bounded := schedule.hops_le separately represents locally step waiting member
  calc
    waiting.hops ≤ waiting.hops + table.usersLeft waiting := Nat.le_add_right _ _
    _ ≤ table.forwarders.card := bounded
    _ ≤ table.forwardingUsers.length := table.card_forwarders_le

/-! ## Two users who forward to each other -/

def exchangeDomain : Domain :=
  .ofString "x.org"

/-- Two users who forward to each other, one of them to somebody else as well. -/
def exchangeTable : RuleTable :=
  ((RuleTable.empty.addRule (.user "a" exchangeDomain) ⟨.forward, "b@x.org"⟩).addRule
    (.user "b" exchangeDomain) ⟨.forward, "a@x.org"⟩).addRule
    (.user "b" exchangeDomain) ⟨.forward, "c@y.org"⟩

/-- A processor over the table that delivers nowhere. -/
def exchange : Processor Unit Recorder where
  settings := ⟨true, true, .error, none⟩
  audit := .default
  directory := .ofTable exchangeTable ⟨[], none⟩
  transport := Recorder.transport

def exchangeMail : Mail :=
  .fresh ⟨0⟩ ⟨none, [⟨"a", exchangeDomain⟩]⟩ []

def exchangeQueues (step : Nat) : List Waiting :=
  exchange.queueAfter ⟨(), .empty, ⟨1⟩⟩ exchangeMail step

/-- The mail goes to the second user and from there to the third one only. -/
theorem exchange_terminates :
    exchange.settings.forwardSeparately = true ∧
      exchange.directory.Represents exchangeTable (DomainList.isLocal ⟨[], none⟩) ∧
      exchange.directory.RewritesLocally exchangeTable (DomainList.isLocal ⟨[], none⟩) ∧
      exchange.Schedule exchangeMail (fun step => exchangeQueues step) ∧
      (∃ step, (exchangeQueues step : Multiset Waiting) = 0) ∧
      (∀ step, ∀ waiting ∈ exchangeQueues step,
        waiting.hops ≤ exchangeTable.forwardingUsers.length) ∧
      (exchangeQueues 2).map Waiting.hops = [exchangeTable.forwardingUsers.length] := by
  have represents : exchange.directory.Represents exchangeTable (DomainList.isLocal ⟨[], none⟩) :=
    Directory.ofTable_represents exchangeTable ⟨[], none⟩
  have locally :
      exchange.directory.RewritesLocally exchangeTable (DomainList.isLocal ⟨[], none⟩) := by
    refine exchange.directory.rewritesLocally_of_forward _ ?_
    decide +kernel
  have schedule : exchange.Schedule exchangeMail (fun step => exchangeQueues step) :=
    exchange.queueAfter_schedule ⟨(), .empty, ⟨1⟩⟩ exchangeMail
  obtain ⟨ends, bounded⟩ := pipeline_terminates exchangeTable (DomainList.isLocal ⟨[], none⟩)
    exchange exchangeMail (fun step => exchangeQueues step) rfl represents locally schedule
  exact ⟨rfl, represents, locally, schedule, ends, bounded, by decide +kernel⟩

end RecipientRewriting
