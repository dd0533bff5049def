import RecipientRewriting.Proofs.Address.Joining
import RecipientRewriting.Proofs.Resolution.Targets

/-!
# Rules that replace the domain

A rule for a domain sends mail on to the same local part at the domain that its target
spells, or nowhere if it spells none.  The target is joined to the local part and read
together with it, but it cannot reach into the local part.  So wherever such rules lead
one after another, mail stays with one local part.
-/

namespace RecipientRewriting

open Text

/-- Whether rules of a kind put another domain behind the local part. -/
def RuleKind.replacesDomain : RuleKind → Bool
  | domain | domainAlias => true
  | regex | error | forward | group | userAlias => false

/-- What replaces the domain computes an address and names none. -/
theorem RuleKind.keepsIdentity_of_replacesDomain
    {kind : RuleKind} (replaces : kind.replacesDomain = true) :
    kind.keepsIdentity = false := by
  cases kind with
  | domain | domainAlias => rfl
  | regex | error | forward | group | userAlias => cases replaces

namespace RuleTable

variable {table : RuleTable} {kinds : KindSet} {address middle moved : Address} {rule : Rule}

theorem targetOf_of_replacesDomain (replaces : rule.kind.replacesDomain = true) :
    table.targetOf rule address =
      .ok (Address.ofParts address.localPart (.ofString rule.target)).toOption := by
  unfold targetOf
  cases kind : rule.kind with
  | domain | domainAlias => rfl
  | regex | error | forward | group | userAlias =>
      rw [kind] at replaces
      cases replaces

theorem lacksDomain_of_replacesDomain (replaces : rule.kind.replacesDomain = true) :
    table.lacksDomain rule = false := by
  simp [lacksDomain, Rule.needsDomain, RuleKind.keepsIdentity_of_replacesDomain replaces]

theorem answerKind_of_replacesDomain (replaces : rule.kind.replacesDomain = true) :
    answerKind rule.kind = .userAlias := by
  simp [answerKind, RuleKind.keepsIdentity_of_replacesDomain replaces]

/-- An address that was read is sent on, with its local part, exactly if the target of
the rule spells a domain. -/
theorem targetOf_eq_some_iff
    (parsed : address.IsParsed) (replaces : rule.kind.replacesDomain = true) :
    table.targetOf rule address = .ok (some moved) ↔
      Domain.IsSpelling rule.target ∧
        moved = address.withDomain (.ofString (trimEnd rule.target)) := by
  rw [targetOf_of_replacesDomain replaces, ← parsed.ofParts_iff]
  cases Address.ofParts address.localPart (.ofString rule.target) with
  | error fault => simp [Except.toOption]
  | ok found => simp [Except.toOption]

/-! ## Chains of rules -/

/-- Where mail for `address` may be while only the domain has been replaced. -/
structure MovesTo (table : RuleTable) (kinds : KindSet) (address middle : Address) : Prop where
  isParsed : middle.IsParsed
  sameLocal : middle.localPart = address.localPart
  reaches : table.Reaches kinds address middle

namespace MovesTo

theorem start (parsed : address.IsParsed) : table.MovesTo kinds address address where
  isParsed := parsed
  sameLocal := rfl
  reaches := .refl address

theorem target_eq
    (moves : table.MovesTo kinds address middle)
    (replaces : rule.kind.replacesDomain = true)
    (sends : table.targetOf rule middle = .ok (some moved)) :
    moved = address.withDomain (.ofString (trimEnd rule.target)) := by
  obtain ⟨_, rfl⟩ := (targetOf_eq_some_iff moves.isParsed replaces).1 sends
  rw [Address.withDomain, Address.withDomain, moves.sameLocal]

theorem next
    (moves : table.MovesTo kinds address middle)
    (applies : rule ∈ table.applicable kinds middle)
    (replaces : rule.kind.replacesDomain = true)
    (sends : table.targetOf rule middle = .ok (some moved)) :
    table.MovesTo kinds address moved where
  isParsed := targetOf_isParsed sends
  sameLocal := by
    rw [moves.target_eq replaces sends, Address.localPart_withDomain]
  reaches := by
    -- A rule whose target spells the domain it applies to is no step.
    by_cases stays : moved = middle
    · rw [stays]
      exact moves.reaches
    · obtain ⟨length, walk⟩ := moves.reaches
      have leads : table.Leads rule middle moved :=
        ⟨lacksDomain_of_replacesDomain replaces, sends, stays⟩
      exact ⟨length + 1, walk.append (.cons ⟨rule, applies, leads⟩ (.refl moved))⟩

end MovesTo

/-- While no other rules are met, an answer holds aliases of the address at other
domains only, each spelled by the target of a rule on the way. -/
theorem resolveAddress_moves
    {limit : Nat} {rules : RuleList}
    (parsed : address.IsParsed)
    (only : ∀ middle, table.Reaches kinds address middle →
      ∀ rule ∈ table.applicable kinds middle, rule.kind.replacesDomain = true)
    (success : table.resolveAddress kinds limit address = .ok (.success rules)) :
    ∀ item ∈ rules, ∃ middle, table.Reaches kinds address middle ∧
      ∃ rule ∈ table.applicable kinds middle,
        item = .forAddress .userAlias (address.withDomain (.ofString (trimEnd rule.target))) := by
  have kept : ∀ middle target, table.MovesTo kinds address middle →
      ∀ rule ∈ table.applicable kinds middle, table.targetOf rule middle = .ok (some target) →
        table.MovesTo kinds address target := by
    intro middle target moves rule applies sends
    exact moves.next applies (only middle moves.reaches rule applies) sends
  intro item member
  obtain ⟨middle, moves, ⟨applies, lacking⟩ | ⟨rule, applies, target, sends, rfl⟩⟩ :=
    resolveAddress_origin_of _ kept (.start parsed) success item member
  · have complete : table.lacksDomain item = false :=
      lacksDomain_of_replacesDomain (only middle moves.reaches item applies)
    rw [complete] at lacking
    cases lacking
  · have replaces := only middle moves.reaches rule applies
    refine ⟨middle, moves.reaches, rule, applies, ?_⟩
    rw [moves.target_eq replaces sends, answerKind_of_replacesDomain replaces]

/-- The local part of an address that was read, quoted or not, and any text whatever
are read as an address exactly if the text spells a domain, and then as this local part
at this domain.  So a rule that replaces the domain sends mail for the address to the
same local part at the domain that its target spells, or nowhere, and where only such
rules are met, an answer names the same local part at the domains of their targets. -/
theorem domainRules_keep_localPart
    {text : String} {address : Address} (read : Address.parse text = .ok address) :
    (∀ target : String,
      ((∃ moved, Address.ofParts address.localPart (.ofString target) = .ok moved) ↔
        Domain.IsSpelling target) ∧
      ∀ moved, Address.ofParts address.localPart (.ofString target) = .ok moved →
        moved.localPart = address.localPart ∧ moved.domain = .ofString (trimEnd target)) ∧
    (∀ (table : RuleTable) (rule : Rule), rule.kind.replacesDomain = true →
      (∃ answer, table.targetOf rule address = .ok answer) ∧
        ∀ moved, table.targetOf rule address = .ok (some moved) ↔
          Domain.IsSpelling rule.target ∧
            moved = address.withDomain (.ofString (trimEnd rule.target))) ∧
    ∀ (table : RuleTable) (kinds : KindSet) (limit : Nat) (rules : RuleList),
      (∀ middle, table.Reaches kinds address middle →
        ∀ rule ∈ table.applicable kinds middle, rule.kind.replacesDomain = true) →
      table.resolveAddress kinds limit address = .ok (.success rules) →
      ∀ item ∈ rules, ∃ middle, table.Reaches kinds address middle ∧
        ∃ rule ∈ table.applicable kinds middle,
          item =
            .forAddress .userAlias (address.withDomain (.ofString (trimEnd rule.target))) := by
  have parsed : address.IsParsed := ⟨text, read⟩
  refine ⟨fun target => ⟨⟨?_, ?_⟩, ?_⟩, ?_, ?_⟩
  · rintro ⟨moved, joined⟩
    exact ((parsed.ofParts_iff target).1 joined).1
  · intro spelling
    exact ⟨_, (parsed.ofParts_iff target).2 ⟨spelling, rfl⟩⟩
  · intro moved joined
    obtain ⟨_, rfl⟩ := (parsed.ofParts_iff target).1 joined
    exact ⟨Address.localPart_withDomain _ _, Address.domain_withDomain _ _⟩
  · intro table rule replaces
    exact ⟨⟨_, targetOf_of_replacesDomain replaces⟩,
      fun moved => targetOf_eq_some_iff parsed replaces⟩
  · intro table kinds limit rules only success
    exact resolveAddress_moves parsed only success

/-! ### A domain that moves twice -/

/-- A quoted user with a separator, a bracket and a quote in the local part. -/
def quotedUser : Address :=
  ⟨"\"a@[\\\"b\"", .ofString "x.org"⟩

def movedUser : Address :=
  ⟨"a.b", .ofString "x.org"⟩

/-- A domain that is another name of a second one, where one user is sent to a literal
that holds a separator. -/
def movingTable : RuleTable where
  rules := .ofList [
    (.anyone (.ofString "x.org"), [⟨.domainAlias, "Y.Org \t"⟩]),
    (.user "a.b" (.ofString "y.org"), [⟨.domain, "[Net:c@z.org]\u3000"⟩])]
  recursive := true
  mappingLimit := 3
  defaultDomain := none

def domainKinds : KindSet :=
  ⟨RuleKind.replacesDomain⟩

theorem movingTable_keeps :
    Address.parse "<\"a@[\\\"b\"@X.org>" = .ok quotedUser ∧
      (∃ moved,
        Address.ofParts quotedUser.localPart (.ofString "[IPv6:2001:DB8::1]\u2003 ") =
            .ok moved ∧
          moved.localPart = quotedUser.localPart ∧
          moved.domain = .ofString (trimEnd "[IPv6:2001:DB8::1]\u2003 ")) ∧
      movingTable.targetOf ⟨.domain, "[IPv6:2001:DB8::1]\u2003 "⟩ quotedUser =
        .ok (some (quotedUser.withDomain (.ofString (trimEnd "[IPv6:2001:DB8::1]\u2003 ")))) ∧
      Domain.ofString (trimEnd "[IPv6:2001:DB8::1]\u2003 ") = .ofString "[ipv6:2001:db8::1]" ∧
      Address.parse "a.b@x.org" = .ok movedUser ∧
      movingTable.resolveAddress domainKinds 3 movedUser =
        .ok (.success [⟨.userAlias, "a.b@[net:c@z.org]"⟩]) ∧
      ∃ middle, movingTable.Reaches domainKinds movedUser middle ∧
        ∃ rule ∈ movingTable.applicable domainKinds middle,
          (⟨.userAlias, "a.b@[net:c@z.org]"⟩ : Rule) =
            .forAddress .userAlias (movedUser.withDomain (.ofString (trimEnd rule.target))) := by
  have quoted : Address.parse "<\"a@[\\\"b\"@X.org>" = .ok quotedUser := by
    decide +kernel
  have plain : Address.parse "a.b@x.org" = .ok movedUser := by
    decide +kernel
  have spelling : Domain.IsSpelling "[IPv6:2001:DB8::1]\u2003 " :=
    ⟨by decide +kernel, by decide +kernel⟩
  have success : movingTable.resolveAddress domainKinds 3 movedUser =
      .ok (.success [⟨.userAlias, "a.b@[net:c@z.org]"⟩]) := by
    decide +kernel
  obtain ⟨joins, sends, _⟩ := domainRules_keep_localPart quoted
  obtain ⟨_, _, answers⟩ := domainRules_keep_localPart plain
  obtain ⟨accepted, keeps⟩ := joins "[IPv6:2001:DB8::1]\u2003 "
  obtain ⟨moved, joined⟩ := accepted.2 spelling
  have sent := ((sends movingTable ⟨.domain, "[IPv6:2001:DB8::1]\u2003 "⟩ rfl).2 _).2
    ⟨spelling, rfl⟩
  refine ⟨quoted, ⟨moved, joined, keeps moved joined⟩, sent, by decide +kernel, plain,
    success, ?_⟩
  refine answers movingTable domainKinds 3 _ ?_ success _ List.mem_cons_self
  intro middle _ rule applies
  exact (List.mem_filter.1 applies).2

end RuleTable

end RecipientRewriting
