import Mathlib.Data.List.Nodup
import Mathlib.Data.List.Perm.Subperm
import RecipientRewriting.Proofs.Forwarding.Hop

/-!
# How often a mail is forwarded

A lineage follows a mail through its copies, each made in a pass over the one
before it.  Whoever has forwarded one of them is in the ledger of all that come
behind it and does not forward them again.  So there is an end to forwarding,
whatever else happens to the copies on the way.
-/

namespace RecipientRewriting

/-! ## Who may forward -/

/-- A forwarding rule is stored for an address. -/
def RuleTable.Forwards (table : RuleTable) (address : Address) : Prop :=
  ∃ source, Source.ofAddress? address = some source ∧
    ∃ rule ∈ table.stored source, rule.kind = .forward

/-- The users of a table that have a forwarding rule, each once. -/
def RuleTable.forwardingUsers (table : RuleTable) : List Source :=
  UniqueList.ofList <| table.rules.keys.filter fun source =>
    source.localPart?.isSome && (table.stored source).any fun rule => rule.kind = .forward

/-- The forwarding rules that a directory answers with are those of a table.
Nothing is said of its other answers, nor of lookups that fail. -/
def Directory.Serves {world : Type} (directory : Directory world) (table : RuleTable) : Prop :=
  ∀ source now rules, (directory.forwardRules source now).1.answer = .ok rules →
    rules = table.forwardRules source

theorem Directory.ofTable_serves (table : RuleTable) (domains : DomainList) :
    (ofTable table domains).Serves table := by
  intro source now rules answered
  simpa [ofTable] using answered.symm

theorem Directory.Serves.forwards
    {world : Type} {directory : Directory world} {table : RuleTable} {address : Address}
    (serves : directory.Serves table)
    (forwards : directory.Forwards address) :
    table.Forwards address := by
  obtain ⟨source, now, rules, sourceOf, answered, nonempty⟩ := forwards
  obtain rfl := serves source now rules answered
  obtain ⟨rule, member⟩ := List.exists_mem_of_ne_nil _ nonempty
  obtain ⟨stored, kind⟩ := List.mem_filter.1 member
  exact ⟨source, sourceOf, rule, stored, by simpa [KindSet.only] using kind⟩

/-- The source that would name an address if its local part were not quoted. -/
def Address.source (address : Address) : Source :=
  .user address.localPart address.domain

theorem Address.source_injective : Function.Injective Address.source := by
  rintro ⟨leftLocal, leftDomain⟩ ⟨rightLocal, rightDomain⟩ same
  simpa [Address.source] using same

theorem OrderedMap.mem_of_lookup
    {key : Type} {value : Type} [DecidableEq key] {wanted : key} {item : value}
    {entries : List (key × value)}
    (found : lookup wanted entries = some item) :
    (wanted, item) ∈ entries := by
  induction entries with
  | nil => simp [lookup] at found
  | cons entry rest inductionHypothesis =>
      obtain ⟨name, stored⟩ := entry
      rw [lookup] at found
      split at found
      · rename_i same
        obtain rfl : stored = item := by simpa using found
        rw [same]
        exact List.mem_cons_self
      · exact List.mem_cons_of_mem (name, stored) (inductionHypothesis found)

/-- Stored rules are stored in an entry of their source. -/
theorem RuleTable.exists_mem_allRules
    {table : RuleTable} {source : Source} {rule : Rule}
    (stored : rule ∈ table.stored source) :
    ∃ rules, (source, rules) ∈ table.allRules ∧ rule ∈ rules := by
  unfold RuleTable.stored at stored
  cases found : table.rules.find? source with
  | none => simp [found] at stored
  | some rules =>
      rw [found] at stored
      exact ⟨rules, OrderedMap.mem_of_lookup found, stored⟩

theorem RuleTable.Forwards.source_mem
    {table : RuleTable} {address : Address}
    (forwards : table.Forwards address) :
    address.source ∈ table.forwardingUsers := by
  obtain ⟨source, sourceOf, rule, stored, kind⟩ := forwards
  have same : address.source = source := by
    unfold Source.ofAddress? at sourceOf
    split at sourceOf
    · simp at sourceOf
    · simpa [Address.source] using sourceOf
  subst same
  refine UniqueList.mem_ofList.2 (List.mem_filter.2 ⟨?_, ?_⟩)
  · obtain ⟨rules, entry, _⟩ := RuleTable.exists_mem_allRules stored
    exact List.mem_map_of_mem entry
  · rw [Bool.and_eq_true, List.any_eq_true]
    exact ⟨rfl, rule, stored, by simpa using kind⟩

/-! ## Lineages -/

section Lineages

variable {directoryWorld transportWorld : Type}

/-- Some pass over the parent hands the copy to the transport, which may refuse
it, and the pass may fail. -/
def Processor.Makes (processor : Processor directoryWorld transportWorld) (hop : Hop) : Prop :=
  ∃ surroundings state answer,
    .injected hop.reason ⟨hop.copy, state⟩ answer ∈
        (processor.processMail hop.parent surroundings).state.trace ∨
      .injected hop.reason ⟨hop.copy, state⟩ answer ∈
        (processor.processForwards hop.parent surroundings).state.trace

/-- Hops that follow one another: each one starts at the copy of the one before
it, and the first one at `first`. -/
inductive Processor.Lineage (processor : Processor directoryWorld transportWorld) :
    Mail → List Hop → Prop
  | nil (first : Mail) : Processor.Lineage processor first []
  | cons {hop : Hop} {rest : List Hop} :
      processor.Makes hop →
      Processor.Lineage processor hop.copy rest →
      Processor.Lineage processor hop.parent (hop :: rest)

def Hop.forwarder? (hop : Hop) : Option Address :=
  if hop.reason = .forward then hop.copy.sender else none

variable {processor : Processor directoryWorld transportWorld}

theorem Processor.Makes.isSound
    {hop : Hop}
    (makes : processor.Makes hop)
    (parsed : ∀ recipient ∈ hop.parent.recipients, recipient.IsParsed) :
    hop.IsSound processor.directory := by
  obtain ⟨surroundings, state, answer, member | member⟩ := makes
  · exact Hop.isSound_of_processMail parsed member
  · exact Hop.isSound_of_processForwards parsed member

namespace Processor.Lineage

/-- Every hop of a lineage is sound if its first mail can be read. -/
theorem isSound
    {first : Mail} {hops : List Hop}
    (lineage : processor.Lineage first hops)
    (parsed : ∀ recipient ∈ first.recipients, recipient.IsParsed) :
    ∀ hop ∈ hops, hop.IsSound processor.directory := by
  induction lineage with
  | nil first => simp
  | @cons hop rest makes _ inductionHypothesis =>
      have sound := makes.isSound parsed
      intro other member
      rcases List.mem_cons.1 member with rfl | later
      · exact sound
      · exact inductionHypothesis sound.parsed other later

/-- Nobody forwards twice, and nobody forwards who is in the ledger of the first
mail. -/
theorem nodup_forwarders
    {first : Mail} {hops : List Hop}
    (lineage : processor.Lineage first hops)
    (sound : ∀ hop ∈ hops, hop.IsSound processor.directory) :
    ((Ledger.ofMail first).addresses ++ hops.filterMap Hop.forwarder?).Nodup := by
  induction lineage with
  | nil first => simpa using (Ledger.ofMail_wellFormed first).nodup
  | @cons hop rest _ _ inductionHypothesis =>
      have later := inductionHypothesis fun other member =>
        sound other (List.mem_cons_of_mem hop member)
      have hopSound := sound hop List.mem_cons_self
      -- A forwarded copy moves its sender from the front of the forwarders to the end
      -- of the ledger, which leaves the list as a whole alone.
      by_cases forwarded : hop.reason = .forward
      · obtain ⟨forwarder, _, sending⟩ := hopSound.forwards forwarded
        have named : hop.forwarder? = some forwarder := by
          rw [Hop.forwarder?, if_pos forwarded, sending.sender]
        rw [List.filterMap_cons_some named]
        rw [sending.recorded, List.append_assoc] at later
        exact later
      · have unnamed : hop.forwarder? = none := by
          rw [Hop.forwarder?, if_neg forwarded]
        rw [List.filterMap_cons_none unnamed, ← hopSound.keeps forwarded]
        exact later

end Processor.Lineage

/-- However a mail is handed on, whatever the transport says and whether or not
the passes over it succeed: a copy that is forwarded adds its sender, who has a
forwarding rule and was not there before, to the ledger, and goes to nobody in
it; every other copy keeps the ledger.  So nobody forwards twice in a lineage,
and there are no more forwarded copies in it than users with a forwarding
rule. -/
theorem forwarding_bounded
    (table : RuleTable) (processor : Processor directoryWorld transportWorld)
    (first : Mail) (hops : List Hop)
    (serves : processor.directory.Serves table)
    (parsed : ∀ recipient ∈ first.recipients, recipient.IsParsed)
    (lineage : processor.Lineage first hops) :
    (∀ hop ∈ hops, hop.reason ≠ .forward →
      Ledger.ofMail hop.copy = Ledger.ofMail hop.parent) ∧
    (∀ hop ∈ hops, hop.reason = .forward →
      ∃ forwarder, table.Forwards forwarder ∧ hop.ForwardedBy forwarder) ∧
    (hops.filterMap Hop.forwarder?).Nodup ∧
    hops.countP (fun hop => hop.reason = .forward) ≤ table.forwardingUsers.length := by
  have sound := lineage.isSound parsed
  have forwarded : ∀ hop ∈ hops, hop.reason = .forward →
      ∃ forwarder, table.Forwards forwarder ∧ hop.ForwardedBy forwarder := by
    intro hop member reason
    obtain ⟨forwarder, forwards, sending⟩ := (sound hop member).forwards reason
    exact ⟨forwarder, serves.forwards forwards, sending⟩
  have nodup : (hops.filterMap Hop.forwarder?).Nodup :=
    (List.nodup_append.1 (lineage.nodup_forwarders sound)).2.1
  refine ⟨fun hop member => (sound hop member).keeps, forwarded, nodup, ?_⟩
  have counted : hops.countP (fun hop => hop.reason = .forward) =
      ((hops.filterMap Hop.forwarder?).map Address.source).length := by
    rw [List.length_map, List.length_filterMap_eq_countP]
    refine List.countP_congr ?_
    intro hop member
    constructor
    · intro reason
      have forward : hop.reason = .forward := by simpa using reason
      obtain ⟨forwarder, _, sending⟩ := forwarded hop member forward
      rw [Hop.forwarder?, if_pos forward, sending.sender]
      rfl
    · intro named
      unfold Hop.forwarder? at named
      split at named
      · rename_i forward
        simpa using forward
      · simp at named
  have users : ∀ source ∈ (hops.filterMap Hop.forwarder?).map Address.source,
      source ∈ table.forwardingUsers := by
    intro source member
    obtain ⟨forwarder, inForwarders, rfl⟩ := List.mem_map.1 member
    obtain ⟨hop, inHops, named⟩ := List.mem_filterMap.1 inForwarders
    unfold Hop.forwarder? at named
    split at named
    · rename_i reason
      obtain ⟨other, forwards, sending⟩ := forwarded hop inHops reason
      obtain rfl : other = forwarder := by
        rw [sending.sender] at named
        simpa using named
      exact forwards.source_mem
    · simp at named
  rw [counted]
  exact (List.subperm_of_subset (List.Nodup.map Address.source_injective nodup) users).length_le

end Lineages

/-! ## A user who forwards to another one -/

def relayUser : Address :=
  ⟨"a", .ofString "x.org"⟩

def relayTarget : Address :=
  ⟨"b", .ofString "x.org"⟩

def relayTable : RuleTable :=
  RuleTable.empty.addRule (.user "a" (.ofString "x.org")) (.forAddress .forward relayTarget)

/-- A processor over the table whose transport refuses every copy. -/
def relayProcessor : Processor Unit Unit where
  settings := ⟨true, true, .error, none⟩
  audit := .default
  directory := .ofTable relayTable ⟨[], none⟩
  transport := ⟨fun _ world => (.error .closed, world)⟩

def relayMail : Mail :=
  .fresh ⟨0⟩ ⟨none, [relayUser]⟩ []

def relayHop : Hop where
  parent := relayMail
  reason := .forward
  copy := (Ledger.empty.add relayUser).recordOn
    (((relayMail.duplicate ⟨1⟩).withSender (some relayUser)).withRecipients [relayTarget])

theorem relay_makes : relayProcessor.Makes relayHop := by
  refine ⟨⟨(), (), ⟨1⟩⟩, none, .error .closed, Or.inr ?_⟩
  exact List.mem_cons_of_mem _ List.mem_cons_self

/-- The user forwards the mail, as the only one in this table who can. -/
theorem relay_bounded :
    relayProcessor.directory.Serves relayTable ∧
      (∀ recipient ∈ relayMail.recipients, recipient.IsParsed) ∧
      relayProcessor.Lineage relayMail [relayHop] ∧
      (∃ forwarder, relayTable.Forwards forwarder ∧ relayHop.ForwardedBy forwarder) ∧
      [relayHop].countP (fun hop => hop.reason = .forward) = relayTable.forwardingUsers.length := by
  have serves : relayProcessor.directory.Serves relayTable :=
    Directory.ofTable_serves relayTable ⟨[], none⟩
  have parsed : ∀ recipient ∈ relayMail.recipients, recipient.IsParsed := by
    intro recipient member
    obtain rfl := List.mem_singleton.1 member
    exact ⟨"a@x.org", rfl⟩
  have lineage : relayProcessor.Lineage relayMail [relayHop] :=
    .cons relay_makes (.nil relayHop.copy)
  obtain ⟨_, forwarded, _, _⟩ :=
    forwarding_bounded relayTable relayProcessor relayMail [relayHop] serves parsed lineage
  exact ⟨serves, parsed, lineage, forwarded relayHop List.mem_cons_self rfl, rfl⟩

end RecipientRewriting
