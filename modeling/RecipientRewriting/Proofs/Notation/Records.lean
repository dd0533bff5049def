import RecipientRewriting.Notation.Format
import RecipientRewriting.Proofs.Notation.Conversion

/-!
# What holds of everything that is read

A property of values that every reader of their parts establishes, or that every
field of a record preserves, holds of whatever is read, whichever of the ways of
writing it was chosen.
-/

namespace RecipientRewriting.Notation

namespace Reader

variable {alpha beta : Type}

/-- Whatever a reader reads has a property. -/
def Ensures (property : alpha → Prop) (reader : Reader alpha) : Prop :=
  ∀ settings text value rest, reader settings text = .ok (value, rest) → property value

theorem ensures_true (reader : Reader alpha) : Ensures (fun _ => True) reader :=
  fun _ _ _ _ _ => trivial

theorem Ensures.nested
    {property : alpha → Prop} {reader : Reader alpha}
    (ensures : Ensures property reader) :
    Ensures property (nested reader) := by
  intro settings text value rest read
  obtain ⟨below, _, inside⟩ := bind_eq_ok_iff.1 read
  exact ensures below text value rest inside

theorem ensures_map
    {property : alpha → Prop} {other : beta → Prop} {change : alpha → beta}
    {reader : Reader alpha}
    (ensures : Ensures property reader)
    (changes : ∀ value, property value → other (change value)) :
    Ensures other (map change reader) := by
  intro settings text value rest read
  obtain ⟨⟨found, behind⟩, inside, same⟩ := bind_eq_ok_iff.1 read
  obtain ⟨rfl, rfl⟩ : change found = value ∧ behind = rest := by
    simpa [pure, Except.pure] using same
  exact changes found (ensures settings text found behind inside)

theorem ensures_entries
    {property : beta → Prop} {key : Reader alpha} {value : Reader beta}
    (ensures : Ensures property value) :
    Ensures (fun pairs : List (alpha × beta) => ∀ pair ∈ pairs, property pair.2)
      (entries key value) := by
  refine Ensures.nested fun settings text pairs rest read => ?_
  obtain ⟨opened, _, members⟩ := bind_eq_ok_iff.1 read
  obtain ⟨⟨found, behind⟩, inside, same⟩ := bind_eq_ok_iff.1 members
  obtain ⟨rfl, rfl⟩ : found.reverse = pairs ∧ behind = rest := by
    simpa [pure, Except.pure] using same
  have all := foldMembers_invariant
    (fun pairs : List (alpha × beta) => ∀ pair ∈ pairs, property pair.2) ?_ (by simp) inside
  · intro pair member
    exact all pair (List.mem_reverse.1 member)
  · intro before text after behind one inBefore
    obtain ⟨⟨name, afterName⟩, _, one⟩ := bind_eq_ok_iff.1 one
    obtain ⟨_, _, one⟩ := bind_eq_ok_iff.1 one
    obtain ⟨_, _, one⟩ := bind_eq_ok_iff.1 one
    obtain ⟨_, _, one⟩ := bind_eq_ok_iff.1 one
    obtain ⟨⟨item, afterItem⟩, itemRead, same⟩ := bind_eq_ok_iff.1 one
    obtain ⟨rfl, rfl⟩ : (name, item) :: before = after ∧ afterItem = behind := by
      simpa [pure, Except.pure] using same
    exact List.forall_mem_cons.2 ⟨ensures.nested _ _ _ _ itemRead, inBefore⟩

/-! ## Records -/

section Records

variable {record : Type} {property : record → Prop} {fields : List (Field record)}

/-- Whatever the value of a field does to a record, it preserves a property. -/
def Field.Preserves (property : record → Prop) (field : Field record) : Prop :=
  Ensures (fun update => ∀ owner, property owner → property (update owner)) field.update

theorem preserves_of
    {format : Format alpha} {holds : alpha → Prop} {names : List String} {name : String}
    {get : record → alpha} {set : alpha → record → record}
    (ensures : Ensures holds format.reader)
    (sets : ∀ value, holds value → ∀ owner, property owner → property (set value owner)) :
    Field.Preserves property ⟨names, (Format.Field.of name format get set).update⟩ :=
  ensures_map ensures sets

theorem readField_preserves
    {settings : Settings} {progress after : Progress record} {text rest : List Char}
    (preserves : ∀ field ∈ progress.missing, field.Preserves property)
    (holds : property progress.current)
    (read : readField fields settings progress text = .ok (after, rest)) :
    property after.current ∧ ∀ field ∈ after.missing, field ∈ progress.missing := by
  obtain ⟨below, _, read⟩ := bind_eq_ok_iff.1 read
  obtain ⟨⟨name, afterName⟩, _, read⟩ := bind_eq_ok_iff.1 read
  dsimp only at read
  split at read
  · rename_i field found
    obtain ⟨_, _, read⟩ := bind_eq_ok_iff.1 read
    obtain ⟨_, _, read⟩ := bind_eq_ok_iff.1 read
    obtain ⟨_, _, read⟩ := bind_eq_ok_iff.1 read
    obtain ⟨⟨update, behind⟩, updateRead, same⟩ := bind_eq_ok_iff.1 read
    have result := (Prod.mk.inj (Except.ok.inj same)).1
    have member := List.mem_of_find?_eq_some found
    rw [← result]
    exact ⟨preserves field member _ _ _ _ updateRead _ holds,
      fun other otherMember => List.mem_of_mem_filter otherMember⟩
  · split at read
    · cases read
    · obtain ⟨_, _, read⟩ := bind_eq_ok_iff.1 read
      obtain ⟨_, _, read⟩ := bind_eq_ok_iff.1 read
      obtain ⟨_, _, read⟩ := bind_eq_ok_iff.1 read
      obtain ⟨_, _, same⟩ := bind_eq_ok_iff.1 read
      have result := (Prod.mk.inj (Except.ok.inj same)).1
      rw [← result]
      exact ⟨holds, fun _ => id⟩

/-- What holds of the defaults and is preserved by every field holds of every record
that is read. -/
theorem ensures_record
    {defaults : record}
    (name : String)
    (start : property defaults)
    (preserves : ∀ field ∈ fields, field.Preserves property) :
    Ensures property (Reader.record name defaults fields) := by
  intro settings text value rest read
  obtain ⟨_, _, read⟩ := bind_eq_ok_iff.1 read
  obtain ⟨_, _, read⟩ := bind_eq_ok_iff.1 read
  obtain ⟨_, _, read⟩ := bind_eq_ok_iff.1 read
  obtain ⟨_, _, read⟩ := bind_eq_ok_iff.1 read
  obtain ⟨⟨progress, behind⟩, members, same⟩ := bind_eq_ok_iff.1 read
  obtain ⟨rfl, rfl⟩ : progress.current = value ∧ behind = rest := by
    simpa [pure, Except.pure] using same
  have all := foldMembers_invariant
    (fun progress : Progress record =>
      property progress.current ∧ ∀ field ∈ progress.missing, field ∈ fields) ?_
    ⟨start, fun _ => id⟩ members
  · exact all.1
  · rintro before text after behind one ⟨holds, known⟩
    obtain ⟨holdsAfter, fewer⟩ := readField_preserves
      (fun field member => preserves field (known field member)) holds one
    exact ⟨holdsAfter, fun field member => known field (fewer field member)⟩

end Records

theorem Ensures.of_read
    {property : alpha → Prop} {reader : Reader alpha} {text : String} {value : alpha}
    (ensures : Ensures property reader)
    (read : Notation.read reader text = .ok value) :
    property value := by
  obtain ⟨_, settings, document, rest, _, _, single, _⟩ := Notation.read_eq_ok_iff.1 read
  exact ensures settings document value rest single

end Reader

end RecipientRewriting.Notation
