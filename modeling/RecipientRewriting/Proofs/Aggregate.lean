import RecipientRewriting.Decision
import RecipientRewriting.Proofs.UniqueList

/-!
# Outcomes add up

Decisions may be collected one by one or in parts that are merged afterwards.
Either way the lists of the aggregate hold each address where it was seen first,
so that collecting turns the concatenation of decisions into the merging of
aggregates.  Merging is a monoid on aggregates without repetitions, idempotent,
and commutative up to the order of the lists.
-/

namespace RecipientRewriting

def Outcome.rejectedRecipients : Outcome → List Address
  | .success _ => []
  | .rejected recipient => [recipient]

def Decision.rejectedRecipients (decision : Decision) : List Address :=
  decision.outcome.rejectedRecipients

theorem Decision.mem_rejectedRecipients {decision : Decision} {address : Address} :
    address ∈ decision.rejectedRecipients ↔ decision.outcome = .rejected address := by
  unfold rejectedRecipients
  cases decision.outcome with
  | success recipients => simp [Outcome.rejectedRecipients]
  | rejected recipient => simp [Outcome.rejectedRecipients, eq_comm]

namespace Aggregate

/-- No address is repeated in either list. -/
structure IsDistinct (aggregate : Aggregate) : Prop where
  newRecipients : aggregate.newRecipients.Nodup
  rejectedRecipients : aggregate.rejectedRecipients.Nodup

/-- The same addresses in both lists, in whatever order. -/
structure SameMembers (left right : Aggregate) : Prop where
  newRecipients : left.newRecipients.Perm right.newRecipients
  rejectedRecipients : left.rejectedRecipients.Perm right.rejectedRecipients

/-! ## Collecting -/

/-- Adding an outcome is adding both kinds of addresses it has. -/
theorem add_eq (aggregate : Aggregate) (outcome : Outcome) :
    aggregate.add outcome =
      ⟨UniqueList.addAll aggregate.newRecipients outcome.newRecipients,
        UniqueList.addAll aggregate.rejectedRecipients outcome.rejectedRecipients⟩ := by
  cases outcome <;> rfl

theorem foldl_add_eq (aggregate : Aggregate) (decisions : List Decision) :
    decisions.foldl (fun aggregate decision => aggregate.add decision.outcome) aggregate =
      ⟨UniqueList.addAll aggregate.newRecipients (decisions.flatMap Decision.newRecipients),
        UniqueList.addAll aggregate.rejectedRecipients
          (decisions.flatMap Decision.rejectedRecipients)⟩ := by
  induction decisions generalizing aggregate with
  | nil => rfl
  | cons decision rest inductionHypothesis =>
      rw [List.foldl_cons, inductionHypothesis, add_eq, List.flatMap_cons, List.flatMap_cons,
        UniqueList.addAll_append, UniqueList.addAll_append]
      rfl

theorem ofDecisions_eq (decisions : List Decision) :
    ofDecisions decisions =
      ⟨UniqueList.ofList (decisions.flatMap Decision.newRecipients),
        UniqueList.ofList (decisions.flatMap Decision.rejectedRecipients)⟩ :=
  foldl_add_eq empty decisions

theorem ofDecisions_append (earlier later : List Decision) :
    ofDecisions (earlier ++ later) = (ofDecisions earlier).merge (ofDecisions later) := by
  rw [ofDecisions_eq, ofDecisions_eq, ofDecisions_eq, List.flatMap_append, List.flatMap_append,
    UniqueList.ofList_append, UniqueList.ofList_append]
  rfl

theorem nodup_ofDecisions (decisions : List Decision) :
    (ofDecisions decisions).IsDistinct := by
  rw [ofDecisions_eq]
  exact ⟨UniqueList.nodup_ofList _, UniqueList.nodup_ofList _⟩

theorem mem_newRecipients_ofDecisions {decisions : List Decision} {address : Address} :
    address ∈ (ofDecisions decisions).newRecipients ↔
      ∃ decision ∈ decisions, address ∈ decision.newRecipients := by
  rw [ofDecisions_eq, UniqueList.mem_ofList, List.mem_flatMap]

theorem mem_rejectedRecipients_ofDecisions {decisions : List Decision} {address : Address} :
    address ∈ (ofDecisions decisions).rejectedRecipients ↔
      ∃ decision ∈ decisions, decision.outcome = .rejected address := by
  simp only [ofDecisions_eq, UniqueList.mem_ofList, List.mem_flatMap,
    Decision.mem_rejectedRecipients]

/-! ## Merging -/

theorem merge_assoc (first second third : Aggregate) :
    (first.merge second).merge third = first.merge (second.merge third) := by
  simp only [merge, UniqueList.addAll_assoc]

theorem merge_empty (aggregate : Aggregate) : aggregate.merge empty = aggregate :=
  rfl

theorem merge_self (aggregate : Aggregate) : aggregate.merge aggregate = aggregate := by
  simp only [merge, UniqueList.addAll_eq_self fun _ member => member]

theorem IsDistinct.empty_merge
    {aggregate : Aggregate} (distinct : aggregate.IsDistinct) :
    empty.merge aggregate = aggregate := by
  have newRecipients := UniqueList.ofList_eq_self distinct.newRecipients
  have rejectedRecipients := UniqueList.ofList_eq_self distinct.rejectedRecipients
  calc
    empty.merge aggregate = ⟨UniqueList.ofList aggregate.newRecipients,
        UniqueList.ofList aggregate.rejectedRecipients⟩ := rfl
    _ = aggregate := by rw [newRecipients, rejectedRecipients]

theorem IsDistinct.merge
    {aggregate : Aggregate} (distinct : aggregate.IsDistinct) (other : Aggregate) :
    (aggregate.merge other).IsDistinct where
  newRecipients := UniqueList.nodup_addAll distinct.newRecipients other.newRecipients
  rejectedRecipients :=
    UniqueList.nodup_addAll distinct.rejectedRecipients other.rejectedRecipients

theorem IsDistinct.merge_comm
    {aggregate other : Aggregate}
    (distinct : aggregate.IsDistinct)
    (otherDistinct : other.IsDistinct) :
    (aggregate.merge other).SameMembers (other.merge aggregate) where
  newRecipients := UniqueList.addAll_perm distinct.newRecipients otherDistinct.newRecipients
  rejectedRecipients :=
    UniqueList.addAll_perm distinct.rejectedRecipients otherDistinct.rejectedRecipients

/-- Collecting decisions in two parts and merging gives what collecting all of
them gives: each address once, in order of first appearance.  Merging is
associative, and on aggregates without repetitions it has the empty one as
identity on both sides, is idempotent, and is commutative up to order. -/
theorem collecting_merges :
    (∀ earlier later : List Decision,
      ofDecisions (earlier ++ later) = (ofDecisions earlier).merge (ofDecisions later)) ∧
    (∀ decisions : List Decision,
      (ofDecisions decisions).newRecipients =
          (decisions.flatMap Decision.newRecipients).eraseDups ∧
        (ofDecisions decisions).rejectedRecipients =
          (decisions.flatMap Decision.rejectedRecipients).eraseDups ∧
        (ofDecisions decisions).IsDistinct) ∧
    (∀ first second third : Aggregate,
      (first.merge second).merge third = first.merge (second.merge third)) ∧
    (∀ aggregate other : Aggregate, aggregate.IsDistinct → other.IsDistinct →
      (aggregate.merge other).IsDistinct ∧
        empty.merge aggregate = aggregate ∧
        aggregate.merge empty = aggregate ∧
        aggregate.merge aggregate = aggregate ∧
        (aggregate.merge other).SameMembers (other.merge aggregate)) := by
  refine ⟨ofDecisions_append, ?_, merge_assoc, ?_⟩
  · intro decisions
    refine ⟨?_, ?_, nodup_ofDecisions decisions⟩
    · rw [ofDecisions_eq]
      exact UniqueList.ofList_eq_eraseDups _
    · rw [ofDecisions_eq]
      exact UniqueList.ofList_eq_eraseDups _
  · intro aggregate other distinct otherDistinct
    exact ⟨distinct.merge other, distinct.empty_merge, merge_empty aggregate,
      merge_self aggregate, distinct.merge_comm otherDistinct⟩

/-! ### Two parts that overlap -/

def user (localPart : String) : Address :=
  ⟨localPart, .ofString "x.org"⟩

/-- One part of what is decided: an alias for two and two rejections of one user. -/
def firstPart : List Decision :=
  [⟨user "staff", .success [user "anne", user "bert", user "anne"], []⟩,
   .reject (user "carl"), .reject (user "carl")]

/-- The rest, in which one of the two appears again and the other is rejected. -/
def secondPart : List Decision :=
  [.reject (user "anne"), ⟨user "board", .success [user "dora", user "bert"], []⟩]

/-- Merging in another order puts the same addresses in another order. -/
theorem parts_merge :
    (ofDecisions firstPart).IsDistinct ∧
      (ofDecisions secondPart).IsDistinct ∧
      ofDecisions (firstPart ++ secondPart) =
        ⟨[user "anne", user "bert", user "dora"], [user "carl", user "anne"]⟩ ∧
      ((ofDecisions firstPart).merge (ofDecisions secondPart)).IsDistinct ∧
      empty.merge (ofDecisions firstPart) = ofDecisions firstPart ∧
      ((ofDecisions firstPart).merge (ofDecisions secondPart)).SameMembers
        ((ofDecisions secondPart).merge (ofDecisions firstPart)) ∧
      (ofDecisions firstPart).merge (ofDecisions secondPart) ≠
        (ofDecisions secondPart).merge (ofDecisions firstPart) := by
  obtain ⟨append, collected, _, laws⟩ := collecting_merges
  have firstDistinct := (collected firstPart).2.2
  have secondDistinct := (collected secondPart).2.2
  obtain ⟨distinct, identity, _, _, commutes⟩ :=
    laws (ofDecisions firstPart) (ofDecisions secondPart) firstDistinct secondDistinct
  exact ⟨firstDistinct, secondDistinct, (append firstPart secondPart).trans (by decide), distinct,
    identity, commutes, by decide⟩

end Aggregate

end RecipientRewriting
