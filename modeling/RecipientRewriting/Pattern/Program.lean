import RecipientRewriting.Pattern.Normal

/-!
# Patterns as programs

A program is a table of instructions, each naming the ones that may follow it.
A choice prefers its first successor, so following preferences depth first
finds the match that the pattern prefers.  Code is laid out from the end
backwards: the code of a pattern is built for a given successor, and a loop
reserves its own place before its body is built.
-/

namespace RecipientRewriting.Pattern

open Unicode

/-- One step of a program.  Numbers name instructions by their place. -/
inductive Instruction
  /-- Reads one character of a set. -/
  | read (members : CodeSet) (next : Nat)
  /-- Tests the position. -/
  | look (test : Look) (next : Nat)
  /-- Remembers the position in a slot. -/
  | save (slot : Nat) (next : Nat)
  /-- Goes on with `first` or, if that fails, with `second`. -/
  | choose (first second : Nat)
  /-- The pattern has matched. -/
  | accept
  deriving Repr

instance : Inhabited Instruction :=
  ⟨.accept⟩

abbrev Code :=
  Array Instruction

namespace Code

/-- Appends an instruction and returns its place. -/
def emit (code : Code) (instruction : Instruction) : Nat × Code :=
  (code.size, code.push instruction)

def patch (code : Code) (place : Nat) (instruction : Instruction) : Code :=
  code.setIfInBounds place instruction

/-- A choice between repeating and going on. -/
def orderedChoice (greedy : Bool) (again onward : Nat) : Instruction :=
  if greedy then .choose again onward else .choose onward again

def reads : List Char → Nat → Code → Nat × Code
  | [], next, code => (next, code)
  | character :: rest, next, code =>
      let (entry, code) := reads rest next code
      code.emit (.read (.single character.toNat) entry)

def copies (build : Nat → Code → Nat × Code) : Nat → Nat → Code → Nat × Code
  | 0, next, code => (next, code)
  | count + 1, next, code =>
      let (entry, code) := build next code
      copies build count entry code

/-- Builds up to `count` copies of code, each of which may be the last. -/
def optionalCopies (build : Nat → Code → Nat × Code) (greedy : Bool) (onward : Nat) :
    Nat → Nat → Code → Nat × Code
  | 0, next, code => (next, code)
  | count + 1, next, code =>
      let (entry, code) := build next code
      let (choice, code) := code.emit (orderedChoice greedy entry onward)
      optionalCopies build greedy onward count choice code

def atLeastOnce (build : Nat → Code → Nat × Code) (greedy : Bool) (next : Nat) (code : Code) :
    Nat × Code :=
  let (loop, code) := code.emit (.choose next next)
  let (entry, code) := build loop code
  (entry, code.patch loop (orderedChoice greedy entry next))

/-- Builds a loop that runs code any number of times.  Code that may match the
empty text is put behind a separate choice, so that a first empty run counts. -/
def anyTimes (build : Nat → Code → Nat × Code) (nullable greedy : Bool) (next : Nat)
    (code : Code) : Nat × Code :=
  if nullable then
    let (entry, code) := atLeastOnce build greedy next code
    code.emit (orderedChoice greedy entry next)
  else
    let (loop, code) := code.emit (.choose next next)
    let (entry, code) := build loop code
    (loop, code.patch loop (orderedChoice greedy entry next))

end Code

mutual

/-- Builds the code of a pattern in front of `next` and returns where it starts. -/
def Normal.build : Normal → Nat → Code → Nat × Code
  | .empty, next, code => (next, code)
  | .text characters, next, code => Code.reads characters next code
  | .set members, next, code => code.emit (.read members next)
  | .look test, next, code => code.emit (.look test next)
  | .capture number body, next, code =>
      let (close, code) := code.emit (.save (2 * number + 1) next)
      let (entry, code) := Normal.build body close code
      code.emit (.save (2 * number) entry)
  | .sequence parts, next, code => Normal.buildParts parts next code
  | .choice branches, next, code => Normal.buildBranches branches next code
  | .repetition body least most greedy, next, code =>
      let build := fun next code => Normal.build body next code
      match most with
      | some most =>
          let (entry, code) := Code.optionalCopies build greedy next (most - least) next code
          Code.copies build least entry code
      | none =>
          if least = 0 then
            Code.anyTimes build body.isNullable greedy next code
          else
            let (entry, code) := Code.atLeastOnce build greedy next code
            Code.copies build (least - 1) entry code

def Normal.buildParts : List Normal → Nat → Code → Nat × Code
  | [], next, code => (next, code)
  | part :: rest, next, code =>
      let (entry, code) := Normal.buildParts rest next code
      Normal.build part entry code

/-- Builds the code of branches, of which an earlier one is preferred. -/
def Normal.buildBranches : List Normal → Nat → Code → Nat × Code
  | [], next, code => (next, code)
  | [branch], next, code => Normal.build branch next code
  | branch :: rest, next, code =>
      let (other, code) := Normal.buildBranches rest next code
      let (entry, code) := Normal.build branch next code
      code.emit (.choose entry other)

end

structure Program where
  code : Code
  start : Nat

/-- The program of a pattern, which remembers the whole match as group 0. -/
def Normal.program (pattern : Normal) : Program :=
  let (accept, code) := Code.emit #[] .accept
  let (start, code) := Normal.build (.capture 0 pattern) accept code
  ⟨code, start⟩

end RecipientRewriting.Pattern
