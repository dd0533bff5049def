import Mathlib.Data.List.Sort
import RecipientRewriting.OrderedMap

/-!
# Maps in order

A map holds every key once, has exactly the entries that are found under its keys,
and is determined by them.  Of pairs that are stored in turn, the last one of a key
is found under it.
-/

namespace RecipientRewriting.OrderedMap

universe u v

variable {key : Type u} {value : Type v} [Ord key]

theorem nodup_keys [Std.ReflOrd key] (map : OrderedMap key value) : map.keys.Nodup := by
  refine List.pairwise_map.2 (map.increasing.imp fun {earlier later} less same => ?_)
  simp [same, Std.ReflCmp.compare_self] at less

theorem ext_entries {left right : OrderedMap key value} (same : left.entries = right.entries) :
    left = right := by
  cases left
  cases right
  simpa using same

/-- Maps are equal if they have the same entries. -/
theorem ext_mem
    [Std.TransOrd key] {left right : OrderedMap key value}
    (same : ∀ entry, entry ∈ left.entries ↔ entry ∈ right.entries) :
    left = right := by
  have antisymmetric : Std.Antisymm fun earlier later : key × value =>
      compare earlier.1 later.1 = .lt := by
    refine ⟨fun earlier later before after => ?_⟩
    have around := Std.TransCmp.lt_trans before after
    simp [Std.ReflCmp.compare_self] at around
  have irreflexive : Std.Irrefl fun earlier later : key × value =>
      compare earlier.1 later.1 = .lt := by
    refine ⟨fun entry less => ?_⟩
    simp [Std.ReflCmp.compare_self] at less
  exact ext_entries (List.Pairwise.eq_of_mem_iff left.increasing right.increasing same)

variable [DecidableEq key] [Std.LawfulEqOrd key]

/-! ## Entries and lookups -/

theorem mem_iff_lookup
    {entries : List (key × value)}
    (increasing : entries.Pairwise fun earlier later => compare earlier.1 later.1 = .lt)
    {name : key} {item : value} :
    (name, item) ∈ entries ↔ lookup name entries = some item := by
  induction entries with
  | nil => simp [lookup]
  | cons first rest inductionHypothesis =>
      obtain ⟨other, stored⟩ := first
      obtain ⟨below, restIncreasing⟩ := List.pairwise_cons.1 increasing
      rw [lookup, List.mem_cons, inductionHypothesis restIncreasing]
      by_cases same : name = other
      · subst same
        have absent : lookup name rest ≠ some item := by
          intro found
          have less := below _ ((inductionHypothesis restIncreasing).2 found)
          simp [Std.ReflCmp.compare_self] at less
        simp [absent, eq_comm]
      · simp [same]

/-- Each key has one entry, the one that is found. -/
theorem mem_entries_iff {map : OrderedMap key value} {name : key} {item : value} :
    (name, item) ∈ map.entries ↔ map.find? name = some item :=
  mem_iff_lookup map.increasing

variable [Std.TransOrd key]

/-- Maps are equal if the same is found under every key. -/
theorem ext_find
    {left right : OrderedMap key value}
    (same : ∀ name, left.find? name = right.find? name) :
    left = right := by
  refine ext_mem ?_
  rintro ⟨name, item⟩
  rw [mem_entries_iff, mem_entries_iff, same]

/-! ## Entries that are stored in turn -/

theorem mem_foldl_insert
    {map : OrderedMap key value} {pairs : List (key × value)} {entry : key × value}
    (member : entry ∈ (pairs.foldl (fun map pair => map.insert pair.1 pair.2) map).entries) :
    entry ∈ pairs ∨ entry ∈ map.entries := by
  induction pairs generalizing map with
  | nil => exact Or.inr member
  | cons pair rest inductionHypothesis =>
      rcases inductionHypothesis member with later | placed
      · exact Or.inl (List.mem_cons_of_mem pair later)
      · rcases mem_place placed with rfl | old
        · exact Or.inl List.mem_cons_self
        · exact Or.inr old

theorem mem_of_mem_ofList
    {pairs : List (key × value)} {entry : key × value}
    (member : entry ∈ (ofList pairs).entries) :
    entry ∈ pairs :=
  (mem_foldl_insert member).resolve_right List.not_mem_nil

theorem find?_foldl_insert_of_ne
    {map : OrderedMap key value} {pairs : List (key × value)} {wanted : key}
    (absent : ∀ pair ∈ pairs, pair.1 ≠ wanted) :
    (pairs.foldl (fun map pair => map.insert pair.1 pair.2) map).find? wanted =
      map.find? wanted := by
  induction pairs generalizing map with
  | nil => rfl
  | cons pair rest inductionHypothesis =>
      obtain ⟨different, later⟩ := List.forall_mem_cons.1 absent
      rw [List.foldl_cons, inductionHypothesis later, find?_insert, if_neg different.symm]

theorem find?_ofList_eq_none
    {pairs : List (key × value)} {wanted : key}
    (absent : ∀ pair ∈ pairs, pair.1 ≠ wanted) :
    (ofList pairs).find? wanted = none :=
  find?_foldl_insert_of_ne absent

/-- What is stored last under a key is found. -/
theorem find?_ofList_append
    {before behind : List (key × value)} {name : key} {item : value}
    (last : ∀ pair ∈ behind, pair.1 ≠ name) :
    (ofList (before ++ (name, item) :: behind)).find? name = some item := by
  rw [ofList, List.foldl_append, List.foldl_cons, find?_foldl_insert_of_ne last, find?_insert,
    if_pos rfl]

end RecipientRewriting.OrderedMap
