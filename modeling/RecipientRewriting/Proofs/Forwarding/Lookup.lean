import RecipientRewriting.RuleTable.Basic

/-!
# Where forwarding rules are looked up

Rules of a domain stand in for those of a user who has none when recipients are
rewritten, but forwarding on its own reads exactly what is stored for the user.  So
both find the same forwarding rules for everyone with rules of their own, and for
everyone in a domain without forwarding rules; a forwarding rule of a whole domain
is found by rewriting only.
-/

namespace RecipientRewriting

@[simp]
theorem RuleList.ofKind_nil (kind : RuleKind) : RuleList.ofKind [] kind = [] :=
  rfl

namespace RuleTable

variable {table : RuleTable} {address : Address} {source : Source}

/-- For an address that can have rules, forwarding on its own finds the forwarding
rules that rewriting takes into account, its own or else those of its domain, if and
only if it has rules of its own or its domain has no forwarding rules.  For an
address without rules of its own, forwarding finds nothing, and rewriting the
forwarding rules of the domain. -/
theorem forwardRules_eq_iff
    (table : RuleTable) (address : Address) (unquoted : address.isQuoted = false) :
    ∃ source, Source.ofAddress? address = some source ∧
      (table.forwardRules source = RuleList.ofKind (table.effectiveRules address) .forward ↔
        table.stored source ≠ [] ∨
          RuleList.ofKind (table.stored (.anyone address.domain)) .forward = []) ∧
      (table.stored source = [] → table.forwardRules source = [] ∧
        RuleList.ofKind (table.effectiveRules address) .forward =
          RuleList.ofKind (table.stored (.anyone address.domain)) .forward) := by
  have named : Source.ofAddress? address = some (.user address.localPart address.domain) := by
    simp [Source.ofAddress?, unquoted]
  refine ⟨_, named, ?_⟩
  by_cases own : table.stored (.user address.localPart address.domain) = []
  · have found : table.forwardRules (.user address.localPart address.domain) = [] := by
      rw [forwardRules, own, RuleList.ofKind_nil]
    rw [effectiveRules_of_none named own, found]
    refine ⟨⟨fun same => Or.inr same.symm, ?_⟩, fun _ => ⟨rfl, rfl⟩⟩
    rintro (different | nothing)
    · exact absurd own different
    · exact nothing.symm
  · rw [effectiveRules_of_own named own]
    exact ⟨⟨fun _ => Or.inl own, fun _ => rfl⟩, fun none => absurd none own⟩

/-! ## A domain that forwards -/

def tenant : Address :=
  ⟨"a", .ofString "x.org"⟩

/-- A table that forwards mail for everyone in a domain, and stores some rules for the
user. -/
def estate (own : RuleList) : RuleTable :=
  (RuleTable.empty.addRule (.anyone tenant.domain) ⟨.forward, "b@y.org"⟩).addRules
    (.user tenant.localPart tenant.domain) own

/-- A user with an alias is not forwarded either way. -/
theorem estate_alias_agrees :
    tenant.isQuoted = false ∧
      (estate [⟨.userAlias, "c@x.org"⟩]).forwardRules
          (.user tenant.localPart tenant.domain) =
        RuleList.ofKind ((estate [⟨.userAlias, "c@x.org"⟩]).effectiveRules tenant) .forward := by
  have unquoted : tenant.isQuoted = false := by
    decide
  obtain ⟨source, named, agree, _⟩ :=
    forwardRules_eq_iff (estate [⟨.userAlias, "c@x.org"⟩]) tenant unquoted
  obtain rfl : source = .user tenant.localPart tenant.domain := by
    simpa [Source.ofAddress?, unquoted] using named.symm
  have own : (estate [⟨.userAlias, "c@x.org"⟩]).stored
      (.user tenant.localPart tenant.domain) ≠ [] := by
    decide
  exact ⟨unquoted, agree.2 (Or.inl own)⟩

/-- The rule of the domain is taken into account for a user without rules when
recipients are rewritten, and not found by forwarding. -/
theorem estate_forward_unfound :
    Source.ofAddress? tenant = some (.user tenant.localPart tenant.domain) ∧
      RuleList.ofKind ((estate []).effectiveRules tenant) .forward = [⟨.forward, "b@y.org"⟩] ∧
      (estate []).forwardRules (.user tenant.localPart tenant.domain) ≠
        RuleList.ofKind ((estate []).effectiveRules tenant) .forward := by
  decide

end RuleTable

end RecipientRewriting
