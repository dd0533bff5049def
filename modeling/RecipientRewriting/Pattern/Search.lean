import Std.Data.HashSet
import RecipientRewriting.Pattern.Program

/-!
# Running patterns

A program is run depth first, preferred successors first.  A pair of an
instruction and a position that was reached before need not be tried again:
whatever follows depends on nothing else, and it has failed.  So a run takes at
most two steps per such pair, and that many steps are fuel enough.
-/

namespace RecipientRewriting.Pattern

open Unicode

abbrev Slots :=
  List (Nat × Nat)

structure Thread where
  place : Nat
  position : Nat
  slots : Slots

/-- Whether the character in front of `position` satisfies `test`. -/
def before (text : Array Char) (position : Nat) (test : Char → Bool) : Bool :=
  position ≠ 0 && text[position - 1]?.any test

/-- Whether the character behind `position` satisfies `test`. -/
def behind (text : Array Char) (position : Nat) (test : Char → Bool) : Bool :=
  text[position]?.any test

def Look.holds (text : Array Char) (position : Nat) : Look → Bool
  | textStart => position = 0
  | textEnd => position = text.size
  | lineStart => position = 0 || before text position (· = '\n')
  | lineEnd => position = text.size || behind text position (· = '\n')
  | anyLineStart =>
      position = 0 || before text position (· = '\n') ||
        (before text position (· = '\r') && !behind text position (· = '\n'))
  | anyLineEnd =>
      position = text.size || behind text position (· = '\r') ||
        (behind text position (· = '\n') && !before text position (· = '\r'))
  | boundary word =>
      before text position word.containsChar ^^ behind text position word.containsChar
  | noBoundary word =>
      !(before text position word.containsChar ^^ behind text position word.containsChar)
  | wordStart word =>
      !before text position word.containsChar && behind text position word.containsChar
  | wordEnd word =>
      before text position word.containsChar && !behind text position word.containsChar
  | wordStartHalf word => !before text position word.containsChar
  | wordEndHalf word => !behind text position word.containsChar

/-- Runs the threads in turn until one accepts. -/
def run (code : Code) (text : Array Char) :
    Nat → List Thread → Std.HashSet (Nat × Nat) → Option Slots
  | 0, _, _ => none
  | _, [], _ => none
  | fuel + 1, thread :: waiting, seen =>
      let key := (thread.place, thread.position)
      if seen.contains key then
        run code text fuel waiting seen
      else
        let seen := seen.insert key
        match code[thread.place]? with
        | none => run code text fuel waiting seen
        | some .accept => some thread.slots
        | some (.read members next) =>
            if behind text thread.position members.containsChar then
              run code text fuel
                ({ thread with place := next, position := thread.position + 1 } :: waiting) seen
            else
              run code text fuel waiting seen
        | some (.look test next) =>
            if test.holds text thread.position then
              run code text fuel ({ thread with place := next } :: waiting) seen
            else
              run code text fuel waiting seen
        | some (.save slot next) =>
            let slots := (slot, thread.position) :: thread.slots
            run code text fuel ({ thread with place := next, slots } :: waiting) seen
        | some (.choose first second) =>
            run code text fuel
              ({ thread with place := first } :: { thread with place := second } :: waiting) seen

/-- The slots of the preferred match among those that start first. -/
def Program.search? (program : Program) (text : Array Char) : Option Slots :=
  let starts := (List.range (text.size + 1)).map fun position =>
    (⟨program.start, position, []⟩ : Thread)
  let fuel := 2 * (program.code.size + 1) * (text.size + 1) + starts.length + 1
  run program.code text fuel starts ∅

end RecipientRewriting.Pattern
