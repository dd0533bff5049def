import Std.Data.HashMap
import RecipientRewriting.Pattern.Normal
import RecipientRewriting.Pattern.OctetRange

/-!
# The size of patterns

How large a pattern is shows in the automata that read it octet by octet, one
from its front and one from its back.  Both must stay within ten mebibytes.
Here they are laid out only as far as their size asks for: how many states there
are, and how many octets these take.

A state that reads part of a character is shared between the characters of one
set.  The states that may be shared are remembered in a table with a fixed
number of slots, where a later state takes the slot of an earlier one, so how
much is shared depends on the numbers of the states.
-/

namespace RecipientRewriting.Pattern

open Unicode

/-! ## States -/

/-- The greatest size of an automaton in octets. -/
def maxSize : Nat :=
  10485760

/-- What a state takes by itself. -/
def stateSize : Nat :=
  32

/-- What a state takes for each state that it may go to without reading. -/
def branchSize : Nat :=
  4

/-- What a state takes for each range of octets, if it reads more than one. -/
def rangeSize : Nat :=
  8

/-- How many states there are, what they take, and the states remembered in
each slot with what tells them apart. -/
structure Layout where
  states : Nat
  size : Nat
  known : Std.HashMap Nat (List Nat × Nat)

/-- A step of laying out an automaton, which fails if it grows too large. -/
abbrev Laying :=
  StateT Layout Option

/-- Adds `count` states that take `extra` octets besides their own size; returns
the number of the first. -/
def addStates (count extra : Nat) : Laying Nat := fun layout =>
  let size := layout.size + stateSize * count + extra
  if size ≤ maxSize then
    some (layout.states, { layout with states := layout.states + count, size })
  else
    none

/-- Adds a state that takes `extra` octets besides its own size. -/
def addState (extra : Nat) : Laying Nat :=
  addStates 1 extra

/-- Adds a state that goes on in one of `count` ways. -/
def addBranching (count : Nat) : Laying Nat :=
  addState (branchSize * count)

/-- Forgets the states that may be shared. -/
def forget : Laying Unit :=
  modify fun layout => { layout with known := ∅ }

def slotOf (slots : Nat) (key : List Nat) : Nat :=
  let mixed := key.foldl (fun hash number => (hash ^^^ UInt64.ofNat number) * 1099511628211)
    (14695981039346656037 : UInt64)
  mixed.toNat % slots

/-- The state remembered for a key.  If there is none, one is added that takes
`extra` octets besides its own size. -/
def sharedState (slots : Nat) (key : List Nat) (extra : Nat) : Laying Nat := do
  let slot := slotOf slots key
  let add : Laying Nat := do
    let state ← addState extra
    modify fun layout => { layout with known := layout.known.insert slot (key, state) }
    pure state
  match (← get).known[slot]? with
  | some (known, state) => if known = key then pure state else add
  | none => add

/-! ## Sets -/

/-- From which end of the pattern an automaton reads. -/
inductive Direction
  | forwards
  | backwards
  deriving DecidableEq, Repr

/-- The greatest number of octets in the encoding of a character. -/
def maxOctetCount : Nat :=
  4

def forwardSlots : Nat :=
  10000

def backwardSlots : Nat :=
  1000

/-- Lays out rows of octet ranges, which share their fronts and, if they lead
to the same states, their ends; returns the state that they start in.  They end
in the state `target`, and no row has more than `levels` ranges. -/
def layRows (target : Nat) : Nat → List (List OctetRange) → Laying Nat
  | 0, _ => pure target
  | levels + 1, rows =>
      if rows.all (·.isEmpty) then
        pure target
      else do
        let groups := rows.splitBy fun left right => left.head? = right.head?
        let transitions ← groups.mapM fun group => do
          let range := (group.head?.bind (·.head?)).getD default
          let next ← layRows target levels (group.map List.tail)
          pure [range.low, range.high, next]
        sharedState forwardSlots transitions.flatten (rangeSize * transitions.length)

/-- Lays out a row of octet ranges backwards from the state `target`, which is
reached behind the first range of the row. -/
def layRowBackwards (target : Nat) (row : List OctetRange) : Laying Nat :=
  row.foldlM (fun next range => sharedState backwardSlots [next, range.low, range.high] 0) target

/-- Lays out a set.  The ranges of a set within ASCII are those of one state. -/
def laySet (direction : Direction) (members : CodeSet) : Laying Unit := do
  if members.isAscii then
    let _ ← addState 0
    let _ ← addState (rangeSize * members.ranges.length)
  else
    let rows := rowsOfSet members
    forget
    match direction with
    | .forwards =>
        let target ← addState 0
        let _ ← layRows target maxOctetCount rows
    | .backwards =>
        let _ ← addBranching rows.length
        let target ← addState 0
        rows.forM fun row => do
          let _ ← layRowBackwards target row

/-! ## Choices between texts -/

/-- The octets of a text in the order in which they are read. -/
def octetsOf (direction : Direction) (characters : List Char) : List UInt8 :=
  let octets := characters.flatMap String.utf8EncodeChar
  match direction with
  | .forwards => octets
  | .backwards => octets.reverse

/-- The texts between which a choice chooses, if it chooses between texts. -/
def textsOf? (branches : List Normal) : Option (List (List Char)) :=
  branches.mapM fun
    | .text characters => some characters
    | _ => none

/-- How many states the choice between texts takes that share their fronts, and
what these take besides their own size; `fuel` bounds the length of the texts.

Where a text ends, what stands behind it in the choice is not mixed with what
stands before it, so each place has a state for each run of texts that go on. -/
def textsSize : Nat → List (List UInt8) → Nat × Nat
  | 0, _ => (0, 0)
  | fuel + 1, texts =>
      if texts.all (·.isEmpty) then
        (0, 0)
      else
        let runs := (texts.splitBy fun left right => !left.isEmpty && !right.isEmpty).filter
          (·.any (!·.isEmpty))
        let ends := (if texts.head? = some [] then 1 else 0) +
          (texts.dropWhile (·.isEmpty)).countP (·.isEmpty)
        let initials := runs.map fun run => (run.filterMap (·.head?)).eraseDups
        let ranges := (initials.map fun run => if run.length = 1 then 0 else run.length).foldl
          (· + ·) 0
        let rests := (runs.zip initials).flatMap fun (run, octets) =>
          octets.map fun octet =>
            textsSize fuel ((run.filter (·.head? = some octet)).map List.tail)
        rests.foldl (fun (states, extra) (more, others) => (states + more, extra + others))
          (1 + runs.length, branchSize * (runs.length + ends) + rangeSize * ranges)

def layTexts (direction : Direction) (texts : List (List Char)) : Laying Unit := do
  let octets := texts.map (octetsOf direction)
  let longest := (octets.map List.length).foldl max 0
  let (states, extra) := textsSize (longest + 1) octets
  let _ ← addStates (states + 1) extra

/-! ## Patterns -/

def repeatStep (step : Laying Unit) : Nat → Laying Unit
  | 0 => pure ()
  | count + 1 => do
      step
      repeatStep step count

/-- Lays out up to `count` repetitions behind `least` of them. -/
def layBounded (layBody : Laying Unit) (least count : Nat) : Laying Unit := do
  if least = 0 then
    let _ ← addState 0
  else
    repeatStep layBody least
  let _ ← addState 0
  repeatStep (do let _ ← addBranching 2; layBody) count

def layRepetition (layBody : Laying Unit) (nullable : Bool) (least : Nat) (most : Option Nat) :
    Laying Unit := do
  match most with
  | some most =>
      if least = most then
        repeatStep layBody least
      else if least = 0 && most = 1 then
        let _ ← addBranching 2
        layBody
        let _ ← addState 0
      else
        layBounded layBody least (most - least)
  | none =>
      if least ≠ 0 then
        repeatStep layBody least
        let _ ← addBranching 2
      else if nullable then
        layBody
        let _ ← addBranching 2
        let _ ← addBranching 2
        let _ ← addState 0
      else
        let _ ← addBranching 2
        layBody

mutual

def Normal.lay (direction : Direction) : Normal → Laying Unit
  | .empty | .look _ => do
      let _ ← addState 0
  | .text characters => do
      let _ ← addStates (octetsOf direction characters).length 0
  | .set members => laySet direction members
  | .capture _ body =>
      match direction with
      | .forwards => do
          let _ ← addState 0
          Normal.lay direction body
          let _ ← addState 0
      | .backwards => Normal.lay direction body
  | .sequence parts => Normal.layParts direction parts
  | .choice branches =>
      match textsOf? branches with
      | some texts => layTexts direction texts
      | none => Normal.layBranches direction branches.length 0 branches
  | .repetition body least most _ =>
      layRepetition (Normal.lay direction body) body.isNullable least most

def Normal.layParts (direction : Direction) : List Normal → Laying Unit
  | [] => pure ()
  | part :: rest =>
      match direction with
      | .forwards => do
          Normal.lay direction part
          Normal.layParts direction rest
      | .backwards => do
          Normal.layParts direction rest
          Normal.lay direction part

/-- Lays out the branches of a choice, of which there are `count` and of which
`earlier` have been laid out.  Where the choice is made and where it ends comes
after two of them. -/
def Normal.layBranches (direction : Direction) (count earlier : Nat) : List Normal → Laying Unit
  | [] => pure ()
  | branch :: rest => do
      Normal.lay direction branch
      if earlier = 1 then
        let _ ← addBranching count
        let _ ← addState 0
      Normal.layBranches direction count (earlier + 1) rest

end

/-- Lays out the automaton of a whole pattern, with a state in front and one
behind. -/
def Normal.layWhole (pattern : Normal) (direction : Direction) : Laying Unit := do
  let _ ← addState 0
  Normal.lay direction (.capture 0 pattern)
  let _ ← addState 0

/-- Whether the automata of a pattern keep to the greatest size. -/
def Normal.fits (pattern : Normal) : Bool :=
  [Direction.forwards, .backwards].all fun direction =>
    (pattern.layWhole direction ⟨0, 0, ∅⟩).isSome

end RecipientRewriting.Pattern
