import RecipientRewriting.Proofs.Address.RoundTrip
import RecipientRewriting.Proofs.Resolution.Walk

/-!
# What an answer holds

When the rules of a recursive table accept an address, the answer names the
addresses at which walks from it end, the addresses on the way that a rule maps
to themselves, and nothing else but rules that lack a domain.  `Offers` says
what a single address adds to the answer; an answer is what is offered by the
addresses that are reached.
-/

namespace RecipientRewriting.RuleTable

variable {table : RuleTable} {kinds : KindSet}

/-! ## Addresses of rules -/

theorem applyPattern_isParsed
    {rule : Rule} {address target : Address}
    (sends : table.applyPattern rule address = .ok (some target)) :
    target.IsParsed := by
  unfold applyPattern at sends
  split at sends
  · simp at sends
  · split at sends
    · simp at sends
    · split at sends
      · simp at sends
      · dsimp only at sends
        split at sends
        · split at sends
          · exact Address.isParsed_of_parse? (by simpa using sends)
          · exact Address.isParsed_of_parse? (by simpa using sends)
        · exact Address.isParsed_of_parse? (by simpa using sends)

theorem address?_isParsed
    {rule : Rule} {target : Address}
    (names : rule.address? = some target) :
    target.IsParsed := by
  unfold Rule.address? at names
  split at names
  · simp at names
  · exact Address.isParsed_of_parse? names

/-- Rules send mail only to addresses that can be read. -/
theorem targetOf_isParsed
    {rule : Rule} {address target : Address}
    (sends : table.targetOf rule address = .ok (some target)) :
    target.IsParsed := by
  unfold targetOf at sends
  cases kind : rule.kind with
  | regex =>
      simp only [kind] at sends
      exact applyPattern_isParsed sends
  | userAlias | group | forward =>
      simp only [kind] at sends
      split at sends
      · exact address?_isParsed (by simpa using sends)
      · exact address?_isParsed (by simpa using sends)
  | domain | domainAlias =>
      simp only [kind, Except.ok.injEq] at sends
      exact Address.isParsed_of_parse? sends
  | error => simp [kind] at sends

/-- A rule without a domain that the table cannot supply sends mail nowhere. -/
theorem targetOf_ne_of_lacksDomain
    {rule : Rule}
    (lacking : table.lacksDomain rule = true)
    (address target : Address) :
    table.targetOf rule address ≠ .ok (some target) := by
  intro sends
  simp only [lacksDomain, Rule.needsDomain, Bool.and_eq_true, Option.isNone_iff_eq_none] at lacking
  obtain ⟨⟨names, bare⟩, noDefault⟩ := lacking
  have direct : rule.address? = some target := by
    cases kind : rule.kind <;>
      simp_all [targetOf, RuleKind.keepsIdentity]
  have separator : '@' ∈ rule.target.toList := by
    unfold Rule.address? at direct
    split at direct
    · simp at direct
    · exact Address.separator_mem_of_parse? direct
  simp [separator] at bare

/-- A target without a domain cannot be the text of an address. -/
theorem forAddress_complete (kind : RuleKind) (address : Address) :
    (Rule.forAddress kind address).needsDomain = false := by
  simp [Rule.forAddress, Rule.needsDomain, Address.text]

/-! ## What an address offers -/

/-- No rule has anything to say about an address: none leads on, none keeps it,
and none lacks a domain that the table cannot supply. -/
structure Terminal (table : RuleTable) (kinds : KindSet) (address : Address) : Prop where
  staysPut : ∀ target, ¬ table.Step kinds address target
  notKept : ∀ rule ∈ table.applicable kinds address, rule.kind.keepsIdentity = true →
    table.targetOf rule address ≠ .ok (some address)
  complete : ∀ rule ∈ table.applicable kinds address, table.lacksDomain rule = false

def OffersIncomplete (table : RuleTable) (kinds : KindSet) (address : Address) (item : Rule) :
    Prop :=
  item ∈ table.applicable kinds address ∧ table.lacksDomain item = true

/-- A rule that names its target keeps `address` under the kind `kind`. -/
def Keeps (table : RuleTable) (kinds : KindSet) (address : Address) (kind : RuleKind) : Prop :=
  ∃ rule ∈ table.applicable kinds address, rule.kind = kind ∧ kind.keepsIdentity = true ∧
    table.targetOf rule address = .ok (some address)

/-- A rule of `address`, answered under the kind `kind`, leads to a terminal
address. -/
def EndsAt (table : RuleTable) (kinds : KindSet) (address : Address) (kind : RuleKind)
    (target : Address) : Prop :=
  (∃ rule ∈ table.applicable kinds address,
    table.Leads rule address target ∧ answerKind rule.kind = kind) ∧
      table.Terminal kinds target

/-- The kinds behind an answer: a rule that names its target is answered under its own
kind, and one that computes it as an alias. -/
theorem endsAt_iff {middle target : Address} {kind : RuleKind} :
    table.EndsAt kinds middle kind target ↔
      (∃ rule ∈ table.applicable kinds middle, table.Leads rule middle target ∧
        (rule.kind = kind ∧ kind ∈ [.userAlias, .group, .forward] ∨
          rule.kind ∈ [.domain, .domainAlias, .regex] ∧ kind = .userAlias)) ∧
        table.Terminal kinds target := by
  refine and_congr_left fun _ => exists_congr fun rule => and_congr_right fun _ =>
    and_congr_right fun leads => ?_
  have notError : rule.kind ≠ .error := by
    intro isError
    have sends := leads.sends
    simp [targetOf, isError] at sends
  cases sort : rule.kind with
  | error => exact absurd sort notError
  | userAlias | group | forward =>
      constructor
      · rintro rfl
        exact Or.inl ⟨rfl, by decide⟩
      · rintro (⟨rfl, _⟩ | ⟨computes, _⟩)
        · rfl
        · exact absurd computes (by decide)
  | domain | domainAlias | regex =>
      constructor
      · rintro rfl
        exact Or.inr ⟨by decide, rfl⟩
      · rintro (⟨rfl, names⟩ | ⟨_, rfl⟩)
        · exact absurd names (by decide)
        · rfl

def Offers (table : RuleTable) (kinds : KindSet) (address : Address) (item : Rule) : Prop :=
  table.OffersIncomplete kinds address item ∨
    (∃ kind, table.Keeps kinds address kind ∧ item = .forAddress kind address) ∨
      ∃ kind target, table.EndsAt kinds address kind target ∧ item = .forAddress kind target

/-! ## One level of an answer -/

section Level

variable {limit : Nat} {address : Address} {rules : RuleList}

/-- What an accepted address was looked up with: its own rules contribute, and
the addresses they lead to are accepted. -/
theorem resolveAddress_level
    (recursive : table.recursive = true)
    (success : table.resolveAddress kinds limit address = .ok (.success rules)) :
    ∃ remaining, limit = remaining + 1 ∧
      (∀ target, table.Step kinds address target →
        ∃ children, table.resolveAddress kinds remaining target = .ok (.success children)) ∧
      ∀ item, item ∈ rules ↔ ∃ rule ∈ table.applicable kinds address, ∃ part,
        table.followRule (table.resolveAddress kinds remaining) address rule =
          .ok (.success part) ∧ item ∈ part := by
  cases limit with
  | zero => simp [resolveAddress] at success
  | succ remaining =>
      simp only [resolveAddress] at success
      split at success
      · simp at success
      · obtain ⟨contributes, members⟩ := gather_success success
        refine ⟨remaining, rfl, ?_, ?_⟩
        · rintro target ⟨rule, member, leads⟩
          obtain ⟨part, answer⟩ := contributes rule member
          exact followRule_success_leads recursive answer leads
        · intro item
          rw [members]
          simp [applicable]

theorem resolveAddress_nodup
    (success : table.resolveAddress kinds limit address = .ok (.success rules)) :
    rules.Nodup := by
  cases limit with
  | zero => simp [resolveAddress] at success
  | succ remaining =>
      simp only [resolveAddress] at success
      split at success
      · simp at success
      · exact gather_nodup List.nodup_nil success

def Silent (table : RuleTable) (kinds : KindSet) (remaining : Nat) (address : Address) : Prop :=
  ∀ rule ∈ table.applicable kinds address, ∀ part,
    table.followRule (table.resolveAddress kinds remaining) address rule = .ok (.success part) →
      part = []

theorem terminal_of_silent
    {remaining : Nat}
    (recursive : table.recursive = true)
    (below : ∀ target, table.Step kinds address target →
      ∃ children, table.resolveAddress kinds remaining target = .ok (.success children))
    (silent : table.Silent kinds remaining address) :
    table.Terminal kinds address := by
  have complete : ∀ rule ∈ table.applicable kinds address, table.lacksDomain rule = false := by
    intro rule member
    cases lacking : table.lacksDomain rule with
    | false => rfl
    | true =>
        have empty := silent rule member [rule] <|
          (followRule_success_iff recursive).2 <| Or.inl ⟨lacking, rfl⟩
        simp at empty
  refine ⟨?_, ?_, complete⟩
  · intro target step
    obtain ⟨rule, member, leads⟩ := step
    obtain ⟨children, accepted⟩ := below target ⟨rule, member, leads⟩
    have empty := silent rule member _ <| (followRule_success_iff recursive).2 <|
      Or.inr <| Or.inr <| Or.inr ⟨target, children, leads, accepted, rfl⟩
    split at empty
    · simp at empty
    · contradiction
  · intro rule member keeps stays
    have empty := silent rule member _ <| (followRule_success_iff recursive).2 <|
      Or.inr <| Or.inr <| Or.inl ⟨complete rule member, stays, rfl⟩
    simp [keeps] at empty

theorem silent_of_terminal
    {remaining : Nat}
    (recursive : table.recursive = true)
    (terminal : table.Terminal kinds address) :
    table.Silent kinds remaining address := by
  intro rule member part contributes
  rcases (followRule_success_iff recursive).1 contributes with
    ⟨lacking, _⟩ | ⟨_, _, rfl⟩ | ⟨_, stays, rfl⟩ | ⟨target, _, leads, _⟩
  · simp [terminal.complete rule member] at lacking
  · rfl
  · have notKept : rule.kind.keepsIdentity ≠ true :=
      fun keeps => terminal.notKept rule member keeps stays
    simp [notKept]
  · exact absurd ⟨rule, member, leads⟩ (terminal.staysPut target)

/-- An accepted address has an empty answer exactly if it is terminal. -/
theorem resolveAddress_eq_nil_iff
    (recursive : table.recursive = true)
    (success : table.resolveAddress kinds limit address = .ok (.success rules)) :
    rules = [] ↔ table.Terminal kinds address := by
  obtain ⟨remaining, rfl, below, members⟩ := resolveAddress_level recursive success
  constructor
  · intro empty
    subst empty
    refine terminal_of_silent recursive below ?_
    intro rule member part contributes
    refine List.eq_nil_iff_forall_not_mem.2 fun item inPart => ?_
    exact List.not_mem_nil ((members item).2 ⟨rule, member, part, contributes, inPart⟩)
  · intro terminal
    refine List.eq_nil_iff_forall_not_mem.2 fun item inRules => ?_
    obtain ⟨rule, member, part, contributes, inPart⟩ := (members item).1 inRules
    rw [silent_of_terminal recursive terminal rule member part contributes] at inPart
    exact List.not_mem_nil inPart

/-- The answer for an address is what it offers itself and the answers for the
addresses one step away. -/
theorem mem_resolveAddress_iff
    (recursive : table.recursive = true)
    (success : table.resolveAddress kinds (limit + 1) address = .ok (.success rules))
    (item : Rule) :
    item ∈ rules ↔ table.Offers kinds address item ∨
      ∃ target, table.Step kinds address target ∧ ∃ children,
        table.resolveAddress kinds limit target = .ok (.success children) ∧
          item ∈ children := by
  obtain ⟨remaining, sameLimit, below, members⟩ := resolveAddress_level recursive success
  obtain rfl : limit = remaining := by omega
  rw [members]
  constructor
  · rintro ⟨rule, member, part, contributes, inPart⟩
    rcases (followRule_success_iff recursive).1 contributes with
      ⟨lacking, rfl⟩ | ⟨_, _, rfl⟩ | ⟨_, stays, rfl⟩ | ⟨target, children, leads, accepted, rfl⟩
    · obtain rfl : item = rule := by simpa using inPart
      exact Or.inl <| Or.inl ⟨member, lacking⟩
    · simp at inPart
    · split at inPart
      · rename_i keeps
        obtain rfl : item = .forAddress rule.kind address := by simpa using inPart
        exact Or.inl <| Or.inr <| Or.inl ⟨rule.kind, ⟨rule, member, rfl, keeps, stays⟩, rfl⟩
      · simp at inPart
    · split at inPart
      · rename_i empty
        have terminal := (resolveAddress_eq_nil_iff recursive accepted).1 empty
        refine Or.inl <| Or.inr <| Or.inr ⟨answerKind rule.kind, target, ?_, by simpa using inPart⟩
        exact ⟨⟨rule, member, leads, rfl⟩, terminal⟩
      · exact Or.inr ⟨target, ⟨rule, member, leads⟩, children, accepted, inPart⟩
  · rintro ((⟨member, lacking⟩ | ⟨kind, ⟨rule, member, rfl, keeps, stays⟩, rfl⟩ |
      ⟨kind, target, ⟨⟨rule, member, leads, rfl⟩, terminal⟩, rfl⟩) |
        ⟨target, ⟨rule, member, leads⟩, children, accepted, inChildren⟩)
    · exact ⟨item, member, [item],
        (followRule_success_iff recursive).2 <| Or.inl ⟨lacking, rfl⟩, by simp⟩
    · have complete : table.lacksDomain rule = false := by
        cases lacking : table.lacksDomain rule with
        | false => rfl
        | true => exact absurd stays (targetOf_ne_of_lacksDomain lacking address address)
      exact ⟨rule, member, _, (followRule_success_iff recursive).2 <|
        Or.inr <| Or.inr <| Or.inl ⟨complete, stays, rfl⟩, by simp [keeps]⟩
    · obtain ⟨children, accepted⟩ := below target ⟨rule, member, leads⟩
      have empty := (resolveAddress_eq_nil_iff recursive accepted).2 terminal
      exact ⟨rule, member, _, (followRule_success_iff recursive).2 <|
        Or.inr <| Or.inr <| Or.inr ⟨target, children, leads, accepted, rfl⟩, by simp [empty]⟩
    · have nonempty : children ≠ [] := List.ne_nil_of_mem inChildren
      exact ⟨rule, member, _, (followRule_success_iff recursive).2 <|
        Or.inr <| Or.inr <| Or.inr ⟨target, children, leads, accepted, rfl⟩, by
          simp [nonempty, inChildren]⟩

/-- An answer holds what is offered by the addresses that are reached. -/
theorem mem_resolveAddress_iff_offers
    (recursive : table.recursive = true)
    (success : table.resolveAddress kinds limit address = .ok (.success rules))
    (item : Rule) :
    item ∈ rules ↔ ∃ middle, table.Reaches kinds address middle ∧
      table.Offers kinds middle item := by
  induction limit generalizing address rules with
  | zero => simp [resolveAddress] at success
  | succ limit inductionHypothesis =>
      -- Both sides split at the first step: the answer into what the address offers
      -- and the answers below it, and a way to an address into none and a longer one.
      rw [mem_resolveAddress_iff recursive success]
      constructor
      · rintro (own | ⟨target, step, children, accepted, inChildren⟩)
        · exact ⟨address, .refl address, own⟩
        · obtain ⟨middle, reaches, offers⟩ :=
            (inductionHypothesis accepted).1 inChildren
          exact ⟨middle, .head step reaches, offers⟩
      · rintro ⟨middle, reaches, offers⟩
        rcases reaches_iff.1 reaches with rfl | ⟨target, step, later⟩
        · exact Or.inl offers
        · obtain ⟨remaining, sameLimit, below, _⟩ := resolveAddress_level recursive success
          obtain rfl : limit = remaining := by omega
          obtain ⟨children, accepted⟩ := below target step
          exact Or.inr ⟨target, step, children, accepted,
            (inductionHypothesis accepted).2 ⟨middle, later, offers⟩⟩

end Level

/-! ## Offers of a given form -/

theorem offers_forAddress_iff
    {middle target : Address} {kind : RuleKind}
    (parsed : target.IsParsed) :
    table.Offers kinds middle (.forAddress kind target) ↔
      (table.Keeps kinds middle kind ∧ middle = target) ∨
        table.EndsAt kinds middle kind target := by
  constructor
  · rintro (⟨_, lacking⟩ | ⟨other, keeps, same⟩ | ⟨other, ending, ends, same⟩)
    · simp [lacksDomain, forAddress_complete] at lacking
    · obtain ⟨rule, member, sameKind, names, stays⟩ := keeps
      simp only [Rule.forAddress, Rule.mk.injEq] at same
      obtain ⟨rfl, sameText⟩ := same
      have sameAddress := parsed.text_inj (targetOf_isParsed stays) sameText
      exact Or.inl ⟨⟨rule, member, sameKind, names, stays⟩, sameAddress.symm⟩
    · simp only [Rule.forAddress, Rule.mk.injEq] at same
      obtain ⟨rfl, sameText⟩ := same
      have endingParsed : ending.IsParsed := by
        obtain ⟨⟨rule, _, leads, _⟩, _⟩ := ends
        exact targetOf_isParsed leads.sends
      rw [parsed.text_inj endingParsed sameText]
      exact Or.inr ends
  · rintro (⟨keeps, rfl⟩ | ends)
    · exact Or.inr (Or.inl ⟨kind, keeps, rfl⟩)
    · exact Or.inr (Or.inr ⟨kind, target, ends, rfl⟩)

theorem offers_other_iff
    {middle : Address} {item : Rule}
    (other : ∀ kind target, target.IsParsed → item ≠ .forAddress kind target) :
    table.Offers kinds middle item ↔
      table.defaultDomain = none ∧ item.needsDomain = true ∧
        item ∈ table.applicable kinds middle := by
  constructor
  · rintro (⟨member, lacking⟩ | ⟨kind, ⟨rule, _, _, _, stays⟩, same⟩ |
      ⟨kind, target, ⟨⟨rule, _, leads, _⟩, _⟩, same⟩)
    · simp only [lacksDomain, Bool.and_eq_true, Option.isNone_iff_eq_none] at lacking
      exact ⟨lacking.2, lacking.1, member⟩
    · exact absurd same (other kind middle (targetOf_isParsed stays))
    · exact absurd same (other kind target (targetOf_isParsed leads.sends))
  · rintro ⟨noDefault, needs, member⟩
    exact Or.inl ⟨member, by simp [lacksDomain, noDefault, needs]⟩

/-! ## The answer -/

/-- The answer for an address that is accepted by a recursive table.  It names
`target` under `kind` if and only if a walk ends there with a rule answered
under `kind`, or passes there and a rule of that kind keeps it.  Its only other
members are, in a table without a default domain, the rules without a domain of
the addresses that are reached, as they are stored.  It holds nothing twice, and
it is empty exactly if the address is terminal. -/
theorem resolveAddress_answer
    (table : RuleTable) (kinds : KindSet) (limit : Nat) (address : Address) (rules : RuleList)
    (recursive : table.recursive = true)
    (success : table.resolveAddress kinds limit address = .ok (.success rules)) :
    (∀ kind target, target.IsParsed →
      (Rule.forAddress kind target ∈ rules ↔
        (∃ middle, table.Reaches kinds address middle ∧
          table.EndsAt kinds middle kind target) ∨
        (table.Reaches kinds address target ∧ table.Keeps kinds target kind))) ∧
    (∀ item, (∀ kind target, target.IsParsed → item ≠ .forAddress kind target) →
      (item ∈ rules ↔ table.defaultDomain = none ∧ item.needsDomain = true ∧
        ∃ middle, table.Reaches kinds address middle ∧
          item ∈ table.applicable kinds middle)) ∧
    rules.Nodup ∧
    (rules = [] ↔ table.Terminal kinds address) := by
  refine ⟨?_, ?_, resolveAddress_nodup success, resolveAddress_eq_nil_iff recursive success⟩
  · intro kind target parsed
    rw [mem_resolveAddress_iff_offers recursive success]
    simp only [offers_forAddress_iff parsed]
    constructor
    · rintro ⟨middle, reaches, ⟨keeps, rfl⟩ | ends⟩
      · exact Or.inr ⟨reaches, keeps⟩
      · exact Or.inl ⟨middle, reaches, ends⟩
    · rintro (⟨middle, reaches, ends⟩ | ⟨reaches, keeps⟩)
      · exact ⟨middle, reaches, Or.inr ends⟩
      · exact ⟨target, reaches, Or.inl ⟨keeps, rfl⟩⟩
  · intro item other
    rw [mem_resolveAddress_iff_offers recursive success]
    simp only [offers_other_iff other]
    constructor
    · rintro ⟨middle, reaches, noDefault, needs, member⟩
      exact ⟨noDefault, needs, middle, reaches, member⟩
    · rintro ⟨noDefault, needs, middle, reaches, member⟩
      exact ⟨middle, reaches, noDefault, needs, member⟩

/-! ## A user who keeps a copy -/

/-- A user with an alias, a copy of their own, and a second domain. -/
def copyKeeper : Address :=
  ⟨"a", .ofString "x.org"⟩

def copyGroup : Address :=
  ⟨"b", .ofString "x.org"⟩

def copyMember : Address :=
  ⟨"c", .ofString "y.org"⟩

def copyElsewhere : Address :=
  ⟨"a", .ofString "z.org"⟩

/-- A table in which the user is an alias of the group, forwards to themselves and is
in two domains, and the group has one member. -/
def copies : RuleTable where
  rules := .ofList [
    (.user "a" (.ofString "x.org"),
      [.forAddress .userAlias copyGroup, .forAddress .forward copyKeeper, ⟨.domain, "z.org"⟩]),
    (.user "b" (.ofString "x.org"), [.forAddress .group copyMember])]
  recursive := true
  mappingLimit := 3
  defaultDomain := none

/-- The answer names the member, at which a walk ends, the user, whom a rule keeps, and
as an alias the user elsewhere, whom a rule of another kind leads to. -/
theorem copies_answer :
    copies.recursive = true ∧
      copies.resolveAddress .all copies.mappingLimit copyKeeper =
        .ok (.success [.forAddress .group copyMember, .forAddress .forward copyKeeper,
          .forAddress .userAlias copyElsewhere]) ∧
      ((∃ middle, copies.Reaches .all copyKeeper middle ∧
          copies.EndsAt .all middle .group copyMember) ∨
        (copies.Reaches .all copyKeeper copyMember ∧ copies.Keeps .all copyMember .group)) ∧
      (∃ middle, copies.Reaches .all copyKeeper middle ∧
        (∃ rule ∈ copies.applicable .all middle, copies.Leads rule middle copyElsewhere ∧
          (rule.kind = .userAlias ∧ .userAlias ∈ [RuleKind.userAlias, .group, .forward] ∨
            rule.kind ∈ [.domain, .domainAlias, .regex] ∧ RuleKind.userAlias = .userAlias)) ∧
          copies.Terminal .all copyElsewhere) ∧
      ¬ copies.Terminal .all copyKeeper := by
  have answer : copies.resolveAddress .all copies.mappingLimit copyKeeper =
      .ok (.success [.forAddress .group copyMember, .forAddress .forward copyKeeper,
        .forAddress .userAlias copyElsewhere]) := rfl
  obtain ⟨named, _, _, terminal⟩ :=
    resolveAddress_answer copies .all copies.mappingLimit copyKeeper _ rfl answer
  have memberParsed : copyMember.IsParsed := ⟨"c@y.org", rfl⟩
  have memberNamed := (named .group copyMember memberParsed).1 (by simp)
  have elsewhereParsed : copyElsewhere.IsParsed := ⟨"a@z.org", rfl⟩
  have notKept : ¬ copies.Keeps .all copyElsewhere .userAlias := by
    rintro ⟨rule, applies, _⟩
    exact absurd applies (List.not_mem_nil)
  have elsewhereNamed := (named .userAlias copyElsewhere elsewhereParsed).1 (by simp)
  have answered := mt terminal.2 (by simp)
  refine ⟨rfl, answer, memberNamed, ?_, answered⟩
  rcases elsewhereNamed with ⟨middle, reaches, ends⟩ | ⟨_, keeps⟩
  · exact ⟨middle, reaches, endsAt_iff.1 ends⟩
  · exact absurd keeps notKept

end RecipientRewriting.RuleTable
