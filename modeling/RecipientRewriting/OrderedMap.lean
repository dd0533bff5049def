/-!
# Ordered maps

A finite map kept as a list of entries in strictly increasing order of their keys.
DSN entries, stored rules and mail attributes are such maps, so listing one always
gives the same order however it was filled.  The order of the entries is part of a
map, and each operation shows that it keeps it.
-/

namespace RecipientRewriting

universe u v

/-! ## Orders of keys -/

section Comparisons

variable {key : Type u} {part : Type v}

theorem transCmp_compareOn [Ord part] [Std.TransOrd part] (get : key → part) :
    Std.TransCmp (compareOn get) where
  eq_swap := Std.OrientedOrd.eq_swap
  isLE_trans := Std.TransOrd.isLE_trans

/-- Comparing by one thing, and by another one where the first makes no difference. -/
theorem transCmp_compareLex
    (first second : key → key → Ordering) [Std.TransCmp first] [Std.TransCmp second] :
    Std.TransCmp (compareLex first second) where
  eq_swap {left right} := by
    rw [compareLex, compareLex, Ordering.swap_then, ← Std.OrientedCmp.eq_swap,
      ← Std.OrientedCmp.eq_swap]
  isLE_trans {left middle right} before behind := by
    rw [compareLex, Ordering.isLE_then_iff_or] at before behind ⊢
    rcases before with less | ⟨same, atMost⟩
    · rcases behind with lessAgain | ⟨sameAgain, _⟩
      · exact Or.inl (Std.TransCmp.lt_trans less lessAgain)
      · exact Or.inl (Std.TransCmp.lt_of_lt_of_eq less sameAgain)
    · rcases behind with lessAgain | ⟨sameAgain, atMostAgain⟩
      · exact Or.inl (Std.TransCmp.lt_of_eq_of_lt same lessAgain)
      · exact Or.inr ⟨Std.TransCmp.eq_trans same sameAgain,
          Std.TransCmp.isLE_trans atMost atMostAgain⟩

end Comparisons

/-! ## Lists of entries -/

namespace OrderedMap

variable {key : Type u} {value : Type v} [DecidableEq key]

/-- The value of the first entry for `wanted`. -/
def lookup (wanted : key) : List (key × value) → Option value
  | [] => none
  | (name, item) :: rest => if wanted = name then some item else lookup wanted rest

theorem lookup_eq_none
    {wanted : key} {entries : List (key × value)}
    (absent : wanted ∉ entries.map Prod.fst) :
    lookup wanted entries = none := by
  induction entries with
  | nil => rfl
  | cons first rest inductionHypothesis =>
      have different : wanted ≠ first.1 := fun same => absent (by simp [same])
      have later : wanted ∉ rest.map Prod.fst := fun member => absent (by simp [member])
      rw [lookup, if_neg different, inductionHypothesis later]

theorem lookup_filter (unwanted wanted : key) (entries : List (key × value)) :
    lookup wanted (entries.filter fun entry => entry.1 ≠ unwanted) =
      if wanted = unwanted then none else lookup wanted entries := by
  induction entries with
  | nil => simp [lookup]
  | cons entry rest inductionHypothesis =>
      obtain ⟨other, stored⟩ := entry
      by_cases dropped : other = unwanted
      · subst dropped
        by_cases hit : wanted = other <;> simp_all [lookup]
      · by_cases hit : wanted = other
        · subst hit
          simp [lookup, dropped]
        · simp_all [lookup]

variable [Ord key]

/-- Replaces the entry for `name`, or places a new one in front of the first
greater key. -/
def place (name : key) (item : value) : List (key × value) → List (key × value)
  | [] => [(name, item)]
  | (other, stored) :: rest =>
      if name = other then
        (name, item) :: rest
      else if (compare name other).isLT then
        (name, item) :: (other, stored) :: rest
      else
        (other, stored) :: place name item rest

theorem mem_place
    {name : key} {item : value} {entries : List (key × value)} {entry : key × value}
    (member : entry ∈ place name item entries) :
    entry = (name, item) ∨ entry ∈ entries := by
  induction entries with
  | nil => simpa [place] using member
  | cons first rest inductionHypothesis =>
      obtain ⟨other, stored⟩ := first
      rw [place] at member
      split at member
      · rcases List.mem_cons.1 member with new | later
        · exact Or.inl new
        · exact Or.inr (List.mem_cons_of_mem _ later)
      · split at member
        · exact List.mem_cons.1 member
        · rcases List.mem_cons.1 member with old | later
          · exact Or.inr (List.mem_cons.2 (Or.inl old))
          · exact (inductionHypothesis later).imp_right (List.mem_cons_of_mem _)

theorem lookup_place (name wanted : key) (item : value) (entries : List (key × value)) :
    lookup wanted (place name item entries) =
      if wanted = name then some item else lookup wanted entries := by
  induction entries with
  | nil => simp [place, lookup]
  | cons entry rest inductionHypothesis =>
      obtain ⟨other, stored⟩ := entry
      by_cases same : name = other
      · subst same
        by_cases hit : wanted = name <;> simp [place, lookup, hit]
      · by_cases before : (compare name other).isLT
        · simp [place, lookup, same, before]
        · by_cases hit : wanted = other
          · subst hit
            have different : ¬ wanted = name := fun equality => same equality.symm
            simp [place, lookup, same, before, different]
          · simp [place, lookup, same, before, hit, inductionHypothesis]

theorem filter_place (name : key) (item : value) (entries : List (key × value)) :
    (place name item entries).filter (fun entry => entry.1 ≠ name) =
      entries.filter fun entry => entry.1 ≠ name := by
  induction entries with
  | nil => simp [place]
  | cons entry rest inductionHypothesis =>
      obtain ⟨other, stored⟩ := entry
      by_cases same : name = other
      · subst same
        simp [place]
      · by_cases before : (compare name other).isLT
        · simp [place, same, before]
        · have kept : other ≠ name := fun equality => same equality.symm
          simpa [place, same, before, kept] using inductionHypothesis

theorem increasing_place
    [Std.TransOrd key] [Std.LawfulEqOrd key]
    (name : key) (item : value) {entries : List (key × value)}
    (increasing : entries.Pairwise fun earlier later => compare earlier.1 later.1 = .lt) :
    (place name item entries).Pairwise fun earlier later =>
      compare earlier.1 later.1 = .lt := by
  induction entries with
  | nil => exact List.pairwise_singleton _ _
  | cons first rest inductionHypothesis =>
      obtain ⟨other, stored⟩ := first
      obtain ⟨below, restIncreasing⟩ := List.pairwise_cons.1 increasing
      rw [place]
      split
      · rename_i same
        subst same
        exact List.pairwise_cons.2 ⟨below, restIncreasing⟩
      · rename_i different
        split
        · rename_i before
          have less : compare name other = .lt := Ordering.isLT_iff_eq_lt.1 before
          refine List.pairwise_cons.2 ⟨?_, increasing⟩
          intro entry member
          rcases List.mem_cons.1 member with rfl | later
          · exact less
          · exact Std.TransCmp.lt_trans less (below entry later)
        · rename_i notBefore
          -- Keys are equal, in order, or in reverse order.
          have greater : compare other name = .lt := by
            rw [← Std.OrientedCmp.gt_iff_lt]
            cases comparison : compare name other with
            | lt => simp [comparison] at notBefore
            | eq => exact absurd (Std.LawfulEqCmp.compare_eq_iff_eq.1 comparison) different
            | gt => rfl
          refine List.pairwise_cons.2 ⟨?_, inductionHypothesis restIncreasing⟩
          intro entry member
          rcases mem_place member with rfl | old
          · exact greater
          · exact below entry old

end OrderedMap

/-! ## Maps -/

/-- A map from keys to values, listed by key. -/
structure OrderedMap (key : Type u) [Ord key] (value : Type v) where
  entries : List (key × value)
  increasing : entries.Pairwise fun earlier later => compare earlier.1 later.1 = .lt
  deriving DecidableEq, Repr

namespace OrderedMap

section Operations

variable {key : Type u} {value : Type v} [Ord key]

def empty : OrderedMap key value :=
  ⟨[], .nil⟩

instance : Inhabited (OrderedMap key value) :=
  ⟨empty⟩

def size (map : OrderedMap key value) : Nat :=
  map.entries.length

def keys (map : OrderedMap key value) : List key :=
  map.entries.map Prod.fst

def filter (map : OrderedMap key value) (keep : key × value → Bool) : OrderedMap key value :=
  ⟨map.entries.filter keep, map.increasing.filter keep⟩

variable [DecidableEq key]

def find? (map : OrderedMap key value) (wanted : key) : Option value :=
  lookup wanted map.entries

def erase (map : OrderedMap key value) (unwanted : key) : OrderedMap key value :=
  map.filter fun entry => entry.1 ≠ unwanted

@[simp]
theorem find?_empty (wanted : key) : (empty : OrderedMap key value).find? wanted = none :=
  rfl

@[simp]
theorem find?_erase (map : OrderedMap key value) (unwanted wanted : key) :
    (map.erase unwanted).find? wanted =
      if wanted = unwanted then none else map.find? wanted :=
  lookup_filter unwanted wanted map.entries

variable [Std.TransOrd key] [Std.LawfulEqOrd key]

/-- Stores `item` under `name`, replacing what was stored there. -/
def insert (map : OrderedMap key value) (name : key) (item : value) : OrderedMap key value :=
  ⟨place name item map.entries, increasing_place name item map.increasing⟩

/-- Inserts the pairs in turn, so a later pair replaces an earlier one with an
equal key. -/
def ofList (pairs : List (key × value)) : OrderedMap key value :=
  pairs.foldl (fun map pair => map.insert pair.1 pair.2) empty

@[simp]
theorem find?_insert (map : OrderedMap key value) (name wanted : key) (item : value) :
    (map.insert name item).find? wanted =
      if wanted = name then some item else map.find? wanted :=
  lookup_place name wanted item map.entries

/-- What is stored under a key makes no difference to the other entries. -/
@[simp]
theorem erase_insert (map : OrderedMap key value) (name : key) (item : value) :
    (map.insert name item).erase name = map.erase name := by
  simp only [erase, filter, insert, mk.injEq]
  exact filter_place name item map.entries

end Operations

end OrderedMap

end RecipientRewriting
