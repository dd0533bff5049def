import RecipientRewriting.Locality

/-!
# Nothing is lost in a partition

Grouping addresses by domain only reorders them, and every group holds addresses
of one domain.  So if every domain has one answer, each side of a partition is a
reordering of the addresses whose domain has the answer of that side.
-/

namespace RecipientRewriting.Partition

def Group.IsUniform (group : Group) : Prop :=
  ∀ member ∈ group.members, member.domain = group.domain

def membersOf (groups : List Group) : List Address :=
  (groups.map Group.members).flatten

@[simp]
theorem membersOf_cons (group : Group) (rest : List Group) :
    membersOf (group :: rest) = group.members ++ membersOf rest :=
  rfl

/-! ## Grouping by domain -/

theorem place_isUniform
    {groups : List Group} (address : Address)
    (uniform : ∀ group ∈ groups, group.IsUniform) :
    ∀ group ∈ place address groups, group.IsUniform := by
  induction groups with
  | nil =>
      intro group member
      obtain rfl : group = ⟨address.domain, [address]⟩ := by simpa [place] using member
      simp [Group.IsUniform]
  | cons first rest inductionHypothesis =>
      have firstUniform := uniform first List.mem_cons_self
      have restUniform := fun group member => uniform group (List.mem_cons_of_mem first member)
      intro group member
      rw [place] at member
      by_cases same : first.domain = address.domain
      · rw [if_pos same] at member
        rcases List.mem_cons.1 member with rfl | later
        · intro other inGroup
          rcases List.mem_append.1 inGroup with earlier | added
          · exact firstUniform other earlier
          · obtain rfl := List.mem_singleton.1 added
            exact same.symm
        · exact restUniform group later
      · rw [if_neg same] at member
        rcases List.mem_cons.1 member with rfl | later
        · exact firstUniform
        · exact inductionHypothesis restUniform group later

theorem membersOf_place_perm (address : Address) (groups : List Group) :
    (membersOf (place address groups)).Perm (address :: membersOf groups) := by
  induction groups with
  | nil => exact List.Perm.refl [address]
  | cons first rest inductionHypothesis =>
      rw [place]
      by_cases same : first.domain = address.domain
      · rw [if_pos same]
        have moved : (first.members ++ [address]).Perm (address :: first.members) :=
          List.perm_append_singleton address first.members
        exact moved.append_right (membersOf rest)
      · rw [if_neg same]
        have placed := inductionHypothesis.append_left first.members
        exact placed.trans List.perm_middle

theorem foldl_place
    {groups : List Group} (addresses : List Address)
    (uniform : ∀ group ∈ groups, group.IsUniform) :
    (∀ group ∈ addresses.foldl (fun groups address => place address groups) groups,
      group.IsUniform) ∧
    (membersOf (addresses.foldl (fun groups address => place address groups) groups)).Perm
      (addresses ++ membersOf groups) := by
  induction addresses generalizing groups with
  | nil => exact ⟨uniform, List.Perm.refl _⟩
  | cons address rest inductionHypothesis =>
      obtain ⟨uniformLater, reordered⟩ := inductionHypothesis (place_isUniform address uniform)
      refine ⟨uniformLater, reordered.trans ?_⟩
      have placed := (membersOf_place_perm address groups).append_left rest
      exact placed.trans List.perm_middle

theorem groupByDomain_isUniform (addresses : List Address) :
    ∀ group ∈ groupByDomain addresses, group.IsUniform :=
  (foldl_place addresses (by simp)).1

/-- Grouping only reorders. -/
theorem groupByDomain_perm (addresses : List Address) :
    (membersOf (groupByDomain addresses)).Perm addresses := by
  have reordered := (@foldl_place [] addresses (by simp)).2
  simpa [membersOf, groupByDomain] using reordered

/-- Grouping by domain brings in no other addresses. -/
theorem mem_of_mem_groupByDomain
    {address : Address} {addresses : List Address} {group : Group}
    (inGroups : group ∈ groupByDomain addresses)
    (inGroup : address ∈ group.members) :
    address ∈ addresses := by
  have inMembers : address ∈ membersOf (groupByDomain addresses) :=
    List.mem_flatten_of_mem (List.mem_map_of_mem inGroups) inGroup
  exact (groupByDomain_perm addresses).mem_iff.1 inMembers

/-! ## The two sides -/

theorem exists_group_of_mem_ofAnswers
    {address : Address} {answered : List (Group × Bool)}
    (member : address ∈ (ofAnswers answered).onSite ∨ address ∈ (ofAnswers answered).remote) :
    ∃ group ∈ answered.map Prod.fst, address ∈ group.members := by
  simp only [ofAnswers, List.mem_flatten, List.mem_map, List.mem_filter] at member ⊢
  rcases member with
    ⟨_, ⟨pair, ⟨inAnswers, _⟩, rfl⟩, inGroup⟩ | ⟨_, ⟨pair, ⟨inAnswers, _⟩, rfl⟩, inGroup⟩
  · exact ⟨pair.1, ⟨pair, inAnswers, rfl⟩, inGroup⟩
  · exact ⟨pair.1, ⟨pair, inAnswers, rfl⟩, inGroup⟩

theorem ofAnswers_cons (group : Group) (answer : Bool) (rest : List (Group × Bool)) :
    (ofAnswers ((group, answer) :: rest)).onSite =
        (if answer then group.members else []) ++ (ofAnswers rest).onSite ∧
      (ofAnswers ((group, answer) :: rest)).remote =
        (if !answer then group.members else []) ++ (ofAnswers rest).remote := by
  cases answer <;> exact ⟨rfl, rfl⟩

/-- However the domains are answered, the two sides together are the groups. -/
theorem ofAnswers_perm (answered : List (Group × Bool)) :
    ((ofAnswers answered).onSite ++ (ofAnswers answered).remote).Perm
      (membersOf (answered.map Prod.fst)) := by
  induction answered with
  | nil => exact List.Perm.refl []
  | cons entry rest inductionHypothesis =>
      obtain ⟨group, answer⟩ := entry
      obtain ⟨onSite, remote⟩ := ofAnswers_cons group answer rest
      rw [onSite, remote, List.map_cons, membersOf_cons]
      cases answer with
      | true =>
          simpa using inductionHypothesis.append_left group.members
      | false =>
          have moved : ((ofAnswers rest).onSite ++ (group.members ++ (ofAnswers rest).remote)).Perm
              (group.members ++ ((ofAnswers rest).onSite ++ (ofAnswers rest).remote)) :=
            List.perm_append_comm_assoc _ _ _
          simpa using moved.trans (inductionHypothesis.append_left group.members)

/-- Whatever is asked about the domains, a group of one domain is kept as a whole
or not at all. -/
theorem Group.IsUniform.filter_eq
    {group : Group} (uniform : group.IsUniform) (holds : Domain → Bool) :
    group.members.filter (fun address => holds address.domain) =
      if holds group.domain then group.members else [] := by
  have sameAnswer : group.members.filter (fun address => holds address.domain) =
      group.members.filter fun _ => holds group.domain := by
    refine List.filter_congr ?_
    intro member inGroup
    rw [uniform member inGroup]
  rw [sameAnswer]
  cases holds group.domain <;> simp

/-- Where every domain has one answer, the sides are told apart address by
address. -/
theorem ofAnswers_eq_filter
    {isLocal : Domain → Bool} {answered : List (Group × Bool)}
    (uniform : ∀ entry ∈ answered, entry.1.IsUniform)
    (located : ∀ entry ∈ answered, entry.2 = isLocal entry.1.domain) :
    (ofAnswers answered).onSite =
        (membersOf (answered.map Prod.fst)).filter (fun address => isLocal address.domain) ∧
      (ofAnswers answered).remote =
        (membersOf (answered.map Prod.fst)).filter (fun address => !isLocal address.domain) := by
  induction answered with
  | nil => exact ⟨rfl, rfl⟩
  | cons entry rest inductionHypothesis =>
      obtain ⟨group, answer⟩ := entry
      have groupUniform : group.IsUniform := uniform (group, answer) List.mem_cons_self
      obtain rfl : answer = isLocal group.domain := located (group, answer) List.mem_cons_self
      obtain ⟨onSite, remote⟩ := inductionHypothesis
        (fun other member => uniform other (List.mem_cons_of_mem _ member))
        (fun other member => located other (List.mem_cons_of_mem _ member))
      obtain ⟨onSiteOf, remoteOf⟩ := ofAnswers_cons group (isLocal group.domain) rest
      rw [List.map_cons, membersOf_cons, List.filter_append, List.filter_append]
      constructor
      · rw [onSiteOf, onSite, groupUniform.filter_eq isLocal]
      · rw [remoteOf, remote, groupUniform.filter_eq fun domain => !isLocal domain]

/-- Each side is a reordering of the addresses with the answer of that side. -/
theorem ofAnswers_perm_filter
    {isLocal : Domain → Bool} {answered : List (Group × Bool)} {addresses : List Address}
    (groups : answered.map Prod.fst = groupByDomain addresses)
    (located : ∀ entry ∈ answered, entry.2 = isLocal entry.1.domain) :
    (ofAnswers answered).onSite.Perm (addresses.filter fun address => isLocal address.domain) ∧
      (ofAnswers answered).remote.Perm
        (addresses.filter fun address => !isLocal address.domain) := by
  have uniform : ∀ entry ∈ answered, entry.1.IsUniform := by
    intro entry member
    have inGroups : entry.1 ∈ groupByDomain addresses := by
      rw [← groups]
      exact List.mem_map_of_mem member
    exact groupByDomain_isUniform addresses entry.1 inGroups
  obtain ⟨onSite, remote⟩ := ofAnswers_eq_filter uniform located
  rw [onSite, remote, groups]
  have reordered := groupByDomain_perm addresses
  exact ⟨reordered.filter _, reordered.filter _⟩

end RecipientRewriting.Partition
