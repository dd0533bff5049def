import RecipientRewriting.Proofs.Partition
import RecipientRewriting.Proofs.UniqueList

/-!
# Partitions in order

The groups of a partition are the domains in order of first appearance, each
with its addresses in their order.  So an oracle is asked once about each domain,
in that order, and whatever it answers, each side is put together from whole
groups, which another partition finds again.
-/

namespace RecipientRewriting.Partition

/-! ## Groups in order -/

/-- The domains of addresses, each once, in order of first appearance. -/
def domainsOf (addresses : List Address) : List Domain :=
  (addresses.map Address.domain).eraseDups

def inDomain (addresses : List Address) (domain : Domain) : List Address :=
  addresses.filter fun address => address.domain = domain

/-- The domains in order of first appearance, with their addresses. -/
def groupsOf (addresses : List Address) : List Group :=
  (domainsOf addresses).map fun domain => ⟨domain, inDomain addresses domain⟩

theorem domainsOf_eq_ofList (addresses : List Address) :
    domainsOf addresses = UniqueList.ofList (addresses.map Address.domain) :=
  (UniqueList.ofList_eq_eraseDups _).symm

theorem nodup_domainsOf (addresses : List Address) : (domainsOf addresses).Nodup := by
  rw [domainsOf_eq_ofList]
  exact UniqueList.nodup_ofList _

theorem mem_domainsOf {addresses : List Address} {domain : Domain} :
    domain ∈ domainsOf addresses ↔ ∃ address ∈ addresses, address.domain = domain := by
  rw [domainsOf_eq_ofList, UniqueList.mem_ofList, List.mem_map]

theorem domainsOf_append (front behind : List Address) :
    domainsOf (front ++ behind) = UniqueList.addAll (domainsOf front) (domainsOf behind) := by
  rw [domainsOf_eq_ofList, domainsOf_eq_ofList, domainsOf_eq_ofList, List.map_append,
    UniqueList.ofList_append]

theorem inDomain_append (front behind : List Address) (domain : Domain) :
    inDomain (front ++ behind) domain = inDomain front domain ++ inDomain behind domain :=
  List.filter_append front behind

theorem inDomain_singleton_self (address : Address) :
    inDomain [address] address.domain = [address] := by
  simp [inDomain]

theorem inDomain_singleton_of_ne
    {address : Address} {domain : Domain} (different : address.domain ≠ domain) :
    inDomain [address] domain = [] := by
  simp [inDomain, different]

theorem inDomain_eq_nil
    {addresses : List Address} {domain : Domain} (absent : domain ∉ domainsOf addresses) :
    inDomain addresses domain = [] := by
  refine List.filter_eq_nil_iff.2 fun address member => ?_
  simpa using fun same => absent (mem_domainsOf.2 ⟨address, member, same⟩)

theorem place_of_mem
    {address : Address} {domains : List Domain}
    (members : Domain → List Address)
    (nodup : domains.Nodup)
    (present : address.domain ∈ domains) :
    place address (domains.map fun domain => ⟨domain, members domain⟩) =
      domains.map fun domain => ⟨domain, members domain ++ inDomain [address] domain⟩ := by
  induction domains with
  | nil => simp at present
  | cons first rest inductionHypothesis =>
      obtain ⟨firstAbsent, restNodup⟩ := List.nodup_cons.1 nodup
      rw [List.map_cons, List.map_cons, place]
      by_cases same : first = address.domain
      · subst same
        have others : ∀ domain ∈ rest, members domain =
            members domain ++ inDomain [address] domain := by
          intro domain member
          have different : address.domain ≠ domain := fun same => firstAbsent (same ▸ member)
          rw [inDomain_singleton_of_ne different, List.append_nil]
        rw [if_pos rfl, inDomain_singleton_self]
        congr 1
        refine List.map_congr_left fun domain member => ?_
        rw [← others domain member]
      · have later : address.domain ∈ rest := by
          rcases List.mem_cons.1 present with equal | later
          · exact absurd equal.symm same
          · exact later
        rw [if_neg same, inductionHypothesis restNodup later,
          inDomain_singleton_of_ne (Ne.symm same), List.append_nil]

theorem place_of_not_mem
    {address : Address} {domains : List Domain}
    (members : Domain → List Address)
    (absent : address.domain ∉ domains) :
    place address (domains.map fun domain => ⟨domain, members domain⟩) =
      (domains.map fun domain => ⟨domain, members domain⟩) ++
        [⟨address.domain, [address]⟩] := by
  induction domains with
  | nil => rfl
  | cons first rest inductionHypothesis =>
      obtain ⟨different, later⟩ := not_or.1 (mt List.mem_cons.2 absent)
      rw [List.map_cons, place, if_neg (Ne.symm different), inductionHypothesis later]
      rfl

/-- Placing one more address keeps the groups those of the addresses so far. -/
theorem place_groupsOf (address : Address) (addresses : List Address) :
    place address (groupsOf addresses) = groupsOf (addresses ++ [address]) := by
  have extended : domainsOf (addresses ++ [address]) =
      UniqueList.add (domainsOf addresses) address.domain :=
    domainsOf_append addresses [address]
  unfold groupsOf
  rw [extended]
  -- The group of a known domain grows in place, that of a new one comes last.
  by_cases present : address.domain ∈ domainsOf addresses
  · have unchanged : UniqueList.add (domainsOf addresses) address.domain =
        domainsOf addresses := by
      simp [UniqueList.add, present]
    rw [place_of_mem (inDomain addresses) (nodup_domainsOf addresses) present, unchanged]
    simp only [inDomain_append]
  · have others : ∀ domain ∈ domainsOf addresses,
        inDomain (addresses ++ [address]) domain = inDomain addresses domain := by
      intro domain member
      have different : address.domain ≠ domain := fun same => present (same ▸ member)
      rw [inDomain_append, inDomain_singleton_of_ne different, List.append_nil]
    rw [place_of_not_mem (inDomain addresses) present, UniqueList.add_of_not_mem present,
      List.map_append, List.map_singleton, inDomain_append, inDomain_eq_nil present,
      inDomain_singleton_self, List.nil_append]
    congr 1
    refine List.map_congr_left fun domain member => ?_
    rw [others domain member]

theorem foldl_place_groupsOf (front rest : List Address) :
    rest.foldl (fun groups address => place address groups) (groupsOf front) =
      groupsOf (front ++ rest) := by
  induction rest generalizing front with
  | nil => rw [List.foldl_nil, List.append_nil]
  | cons address rest inductionHypothesis =>
      rw [List.foldl_cons, place_groupsOf, inductionHypothesis, List.append_assoc,
        List.singleton_append]

theorem groupByDomain_eq (addresses : List Address) :
    groupByDomain addresses = groupsOf addresses :=
  foldl_place_groupsOf [] addresses

/-! ## Asking in order -/

section Oracle

/-- An oracle that answers by what it has been asked before, in whatever way, so
that any answers in turn are those of one of them.  Every question is recorded. -/
def recorded (answer : List Domain → Domain → Bool) (domain : Domain) :
    StateM (List Domain) Bool := do
  let asked ← get
  set (asked ++ [domain])
  pure (answer asked domain)

/-- The partition by such an oracle, and what the oracle has been asked. -/
def consult (answer : List Domain → Domain → Bool) (addresses : List Address) :
    Partition × List Domain :=
  Id.run ((ofAddresses (recorded answer) addresses).run [])

/-- The answer about one of the domains that are asked about in turn. -/
def verdict (answer : List Domain → Domain → Bool) (asked : List Domain) (domain : Domain) :
    Bool :=
  answer (asked.takeWhile (· ≠ domain)) domain

variable {answer : List Domain → Domain → Bool}

theorem verdict_append
    {asked : List Domain} {domain : Domain} (new : domain ∉ asked) (rest : List Domain) :
    verdict answer (asked ++ domain :: rest) domain = answer asked domain := by
  have before : ∀ earlier ∈ asked, decide (earlier ≠ domain) = true := by
    intro earlier member
    exact decide_eq_true fun same => new (same ▸ member)
  unfold verdict
  rw [List.takeWhile_append_of_pos before]
  simp

theorem askAll_recorded_cons (group : Group) (rest : List Group) (asked : List Domain) :
    (askAll (recorded answer) (group :: rest)).run asked =
      let later := (askAll (recorded answer) rest).run (asked ++ [group.domain])
      ((group, answer asked group.domain) :: later.1, later.2) :=
  rfl

theorem askAll_recorded
    {asked domains : List Domain}
    (nodup : (asked ++ domains).Nodup)
    (members : Domain → List Address) :
    (askAll (recorded answer) (domains.map fun domain => ⟨domain, members domain⟩)).run asked =
      (domains.map fun domain =>
        (⟨domain, members domain⟩, verdict answer (asked ++ domains) domain),
        asked ++ domains) := by
  -- By induction on what is still to be asked: an answer depends on all that was.
  induction domains generalizing asked with
  | nil =>
      rw [List.append_nil]
      rfl
  | cons first rest inductionHypothesis =>
      have new : first ∉ asked := by
        intro member
        exact (List.nodup_append.1 nodup).2.2 first member first List.mem_cons_self rfl
      have regrouped : asked ++ first :: rest = (asked ++ [first]) ++ rest := by simp
      have later := inductionHypothesis (regrouped ▸ nodup)
      rw [List.map_cons, List.map_cons, askAll_recorded_cons, later, verdict_append new,
        ← regrouped]

/-- The sides that belong to verdicts about the domains. -/
def byVerdict (addresses : List Address) (isLocal : Domain → Bool) : Partition where
  onSite := ((domainsOf addresses).filter isLocal).flatMap (inDomain addresses)
  remote := ((domainsOf addresses).filter (!isLocal ·)).flatMap (inDomain addresses)

theorem ofAnswers_groups
    (domains : List Domain) (members : Domain → List Address) (isLocal : Domain → Bool) :
    ofAnswers (domains.map fun domain => (⟨domain, members domain⟩, isLocal domain)) =
      ⟨(domains.filter isLocal).flatMap members,
        (domains.filter (!isLocal ·)).flatMap members⟩ := by
  simp [ofAnswers, List.filter_map, Function.comp_def, List.flatMap]

theorem consult_eq (answer : List Domain → Domain → Bool) (addresses : List Address) :
    consult answer addresses =
      (byVerdict addresses (verdict answer (domainsOf addresses)), domainsOf addresses) := by
  have asked := @askAll_recorded answer [] (domainsOf addresses)
    (nodup_domainsOf addresses) (inDomain addresses)
  have groups : (askAll (recorded answer) (groupByDomain addresses)).run [] =
      (askAll (recorded answer) ((domainsOf addresses).map fun domain =>
        ⟨domain, inDomain addresses domain⟩)).run [] := by
    rw [groupByDomain_eq]
    rfl
  calc
    consult answer addresses =
        (ofAnswers ((askAll (recorded answer) (groupByDomain addresses)).run []).1,
          ((askAll (recorded answer) (groupByDomain addresses)).run []).2) := rfl
    _ = _ := by
      rw [groups, asked, ofAnswers_groups]
      rfl

end Oracle

/-! ## Whole domains -/

theorem inDomain_inDomain (addresses : List Address) (domain other : Domain) :
    inDomain (inDomain addresses domain) other =
      if domain = other then inDomain addresses other else [] := by
  unfold inDomain
  rw [List.filter_filter]
  by_cases same : domain = other
  · subst same
    simp
  · rw [if_neg same]
    refine List.filter_eq_nil_iff.2 fun address _ => ?_
    simp only [Bool.and_eq_true, decide_eq_true_eq, not_and]
    intro isOther isDomain
    exact same (isDomain.symm.trans isOther)

theorem inDomain_flatMap
    {domains : List Domain} (nodup : domains.Nodup) (addresses : List Address)
    (domain : Domain) :
    inDomain (domains.flatMap (inDomain addresses)) domain =
      if domain ∈ domains then inDomain addresses domain else [] := by
  induction domains with
  | nil => rfl
  | cons first rest inductionHypothesis =>
      obtain ⟨absent, restNodup⟩ := List.nodup_cons.1 nodup
      rw [List.flatMap_cons, inDomain_append, inDomain_inDomain, inductionHypothesis restNodup]
      by_cases same : first = domain
      · subst same
        simp [absent]
      · simp [same, Ne.symm same]

theorem domainsOf_inDomain
    {addresses : List Address} {domain : Domain} (present : domain ∈ domainsOf addresses) :
    domainsOf (inDomain addresses domain) = [domain] := by
  obtain ⟨address, member, rfl⟩ := mem_domainsOf.1 present
  refine List.perm_singleton.1 ((List.perm_ext_iff_of_nodup (nodup_domainsOf _)
    (by simp)).2 fun other => ?_)
  rw [mem_domainsOf, List.mem_singleton]
  constructor
  · rintro ⟨found, inGroup, rfl⟩
    simpa using (List.mem_filter.1 inGroup).2
  · rintro rfl
    exact ⟨address, List.mem_filter.2 ⟨member, by simp⟩, rfl⟩

theorem domainsOf_flatMap
    {addresses : List Address} {domains : List Domain}
    (nodup : domains.Nodup)
    (present : ∀ domain ∈ domains, domain ∈ domainsOf addresses) :
    domainsOf (domains.flatMap (inDomain addresses)) = domains := by
  induction domains with
  | nil => rfl
  | cons first rest inductionHypothesis =>
      have later := inductionHypothesis (List.nodup_cons.1 nodup).2
        fun domain member => present domain (List.mem_cons_of_mem first member)
      rw [List.flatMap_cons, domainsOf_append, later,
        domainsOf_inDomain (present first List.mem_cons_self)]
      exact UniqueList.addAll_eq_append nodup

/-- Groups that have been put together are found again. -/
theorem byVerdict_flatMap
    {addresses : List Address} {domains : List Domain}
    (nodup : domains.Nodup)
    (present : ∀ domain ∈ domains, domain ∈ domainsOf addresses)
    (isLocal : Domain → Bool) :
    byVerdict (domains.flatMap (inDomain addresses)) isLocal =
      ⟨(domains.filter isLocal).flatMap (inDomain addresses),
        (domains.filter (!isLocal ·)).flatMap (inDomain addresses)⟩ := by
  have sameMembers : ∀ domain ∈ domains,
      inDomain (domains.flatMap (inDomain addresses)) domain = inDomain addresses domain := by
    intro domain member
    rw [inDomain_flatMap nodup, if_pos member]
  have sameSide : ∀ side : Domain → Bool,
      (domains.filter side).flatMap (inDomain (domains.flatMap (inDomain addresses))) =
        (domains.filter side).flatMap (inDomain addresses) := by
    intro side
    refine congrArg List.flatten (List.map_congr_left fun domain member => ?_)
    exact sameMembers domain (List.mem_filter.1 member).1
  unfold byVerdict
  rw [domainsOf_flatMap nodup present, sameSide, sameSide]

/-- A side that is partitioned again stays together if its domains are answered
alike. -/
theorem consult_flatMap
    {addresses : List Address} {domains : List Domain}
    (nodup : domains.Nodup)
    (present : ∀ domain ∈ domains, domain ∈ domainsOf addresses)
    {isLocal : Domain → Bool} :
    ((∀ domain ∈ domains, isLocal domain = true) →
      (consult (fun _ => isLocal) (domains.flatMap (inDomain addresses))).1 =
        ⟨domains.flatMap (inDomain addresses), []⟩) ∧
    ((∀ domain ∈ domains, isLocal domain = false) →
      (consult (fun _ => isLocal) (domains.flatMap (inDomain addresses))).1 =
        ⟨[], domains.flatMap (inDomain addresses)⟩) := by
  have again : (consult (fun _ => isLocal) (domains.flatMap (inDomain addresses))).1 =
      byVerdict (domains.flatMap (inDomain addresses)) isLocal := by
    rw [consult_eq]
    rfl
  rw [again, byVerdict_flatMap nodup present]
  constructor
  · intro allLocal
    have kept : domains.filter isLocal = domains := List.filter_eq_self.2 allLocal
    have dropped : domains.filter (!isLocal ·) = [] :=
      List.filter_eq_nil_iff.2 fun domain member => by simp [allLocal domain member]
    rw [kept, dropped]
    rfl
  · intro noneLocal
    have dropped : domains.filter isLocal = [] :=
      List.filter_eq_nil_iff.2 fun domain member => by simp [noneLocal domain member]
    have kept : domains.filter (!isLocal ·) = domains :=
      List.filter_eq_self.2 fun domain member => by simp [noneLocal domain member]
    rw [kept, dropped]
    rfl

/-- Both sides together are the addresses, only reordered. -/
theorem byVerdict_perm (addresses : List Address) (isLocal : Domain → Bool) :
    ((byVerdict addresses isLocal).onSite ++ (byVerdict addresses isLocal).remote).Perm
      addresses := by
  have sides := ofAnswers_perm ((domainsOf addresses).map fun domain =>
    (⟨domain, inDomain addresses domain⟩, isLocal domain))
  have groups : ((domainsOf addresses).map fun domain =>
      ((⟨domain, inDomain addresses domain⟩ : Group), isLocal domain)).map Prod.fst =
        groupByDomain addresses := by
    rw [groupByDomain_eq, List.map_map]
    rfl
  rw [groups, ofAnswers_groups] at sides
  exact sides.trans (groupByDomain_perm addresses)

/-- A domain is on one side with all its addresses. -/
theorem inDomain_byVerdict (addresses : List Address) (isLocal : Domain → Bool)
    (domain : Domain) :
    inDomain (byVerdict addresses isLocal).onSite domain =
        (if isLocal domain then inDomain addresses domain else []) ∧
      inDomain (byVerdict addresses isLocal).remote domain =
        if isLocal domain then [] else inDomain addresses domain := by
  have nodup := nodup_domainsOf addresses
  unfold byVerdict
  rw [inDomain_flatMap (nodup.filter _), inDomain_flatMap (nodup.filter _)]
  simp only [List.mem_filter]
  by_cases present : domain ∈ domainsOf addresses
  · cases isLocal domain <;> simp [present]
  · have nobody := inDomain_eq_nil present
    simp [present, nobody]

/-- An oracle is asked about each domain once, in order of first appearance,
whatever it answers on the way.  Each side holds the domains answered for it, in
that order, each with all of its addresses in theirs.  Nothing is lost, no domain
is divided, and partitioning a side again by an oracle of the same opinion leaves
it as it is. -/
theorem splits_in_order (answer : List Domain → Domain → Bool) (addresses : List Address) :
    let split := (consult answer addresses).1
    let asked := (consult answer addresses).2
    (asked = domainsOf addresses ∧ asked.Nodup) ∧
    (split.onSite = (asked.filter (verdict answer asked)).flatMap (inDomain addresses) ∧
      split.remote = (asked.filter (!verdict answer asked ·)).flatMap (inDomain addresses)) ∧
    (split.onSite ++ split.remote).Perm addresses ∧
    (∀ domain,
      inDomain split.onSite domain = inDomain addresses domain ∧
          inDomain split.remote domain = [] ∨
        inDomain split.onSite domain = [] ∧
          inDomain split.remote domain = inDomain addresses domain) ∧
    ∀ isLocal : Domain → Bool,
      (∀ domain ∈ asked, isLocal domain = verdict answer asked domain) →
      (consult (fun _ => isLocal) split.onSite).1 = ⟨split.onSite, []⟩ ∧
        (consult (fun _ => isLocal) split.remote).1 = ⟨[], split.remote⟩ := by
  intro split asked
  have nodup := nodup_domainsOf addresses
  have sameAsked : asked = domainsOf addresses := congrArg Prod.snd (consult_eq answer addresses)
  have sameSplit : split = byVerdict addresses (verdict answer asked) := by
    rw [sameAsked]
    exact congrArg Prod.fst (consult_eq answer addresses)
  rw [sameSplit, sameAsked]
  refine ⟨⟨rfl, nodup⟩, ⟨rfl, rfl⟩, byVerdict_perm addresses _, fun domain => ?_,
    fun isLocal agrees => ⟨?_, ?_⟩⟩
  · obtain ⟨onSite, remote⟩ :=
      inDomain_byVerdict addresses (verdict answer (domainsOf addresses)) domain
    rw [onSite, remote]
    cases verdict answer (domainsOf addresses) domain <;> simp
  · refine (consult_flatMap (nodup.filter _) ?_).1 fun domain member => ?_
    · exact fun domain member => (List.mem_filter.1 member).1
    · obtain ⟨present, isOnSite⟩ := List.mem_filter.1 member
      rw [agrees domain present, isOnSite]
  · refine (consult_flatMap (nodup.filter _) ?_).2 fun domain member => ?_
    · exact fun domain member => (List.mem_filter.1 member).1
    · obtain ⟨present, isRemote⟩ := List.mem_filter.1 member
      rw [agrees domain present]
      simpa using isRemote

/-! ### An oracle that changes its mind -/

def userOf (localPart domain : String) : Address :=
  ⟨localPart, .ofString domain⟩

/-- Users of three domains, one of them twice. -/
def mixed : List Address :=
  [userOf "anne" "x.org", userOf "bert" "y.org", userOf "carl" "x.org", userOf "dora" "z.org",
   userOf "anne" "x.org", userOf "emil" "y.org"]

/-- Every second question is answered in the affirmative, whatever is asked. -/
def wavering (asked : List Domain) (_ : Domain) : Bool :=
  asked.length % 2 = 0

/-- What that comes to for these users. -/
def settled (domain : Domain) : Bool :=
  domain ≠ .ofString "y.org"

/-- An oracle of the same opinion leaves the remote side as it is; the one that
wavers does not. -/
theorem wavering_splits :
    (consult wavering mixed).2 =
        [.ofString "x.org", .ofString "y.org", .ofString "z.org"] ∧
      (consult wavering mixed).1 =
        ⟨[userOf "anne" "x.org", userOf "carl" "x.org", userOf "anne" "x.org",
            userOf "dora" "z.org"],
          [userOf "bert" "y.org", userOf "emil" "y.org"]⟩ ∧
      (∀ domain ∈ (consult wavering mixed).2,
        settled domain = verdict wavering (consult wavering mixed).2 domain) ∧
      (consult (fun _ => settled) (consult wavering mixed).1.remote).1 =
        ⟨[], (consult wavering mixed).1.remote⟩ ∧
      (consult wavering (consult wavering mixed).1.remote).1 =
        ⟨(consult wavering mixed).1.remote, []⟩ := by
  have agrees : ∀ domain ∈ (consult wavering mixed).2,
      settled domain = verdict wavering (consult wavering mixed).2 domain := by
    decide
  obtain ⟨_, _, _, _, again⟩ := splits_in_order wavering mixed
  exact ⟨by decide, by decide, agrees, (again settled agrees).2, by decide⟩

end RecipientRewriting.Partition
