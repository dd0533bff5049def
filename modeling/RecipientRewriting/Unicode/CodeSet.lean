/-!
# Sets of code points

A set of code points is a list of closed ranges.  The operations keep the
ranges in increasing order and apart from each other.  `CodeSet.ofTable` reads
the form in which the data modules beside this one hold their tables: ranges
of hexadecimal numbers, such as `30-39 5F`.
-/

namespace RecipientRewriting.Unicode

/-- A set of code points, given by closed ranges. -/
structure CodeSet where
  ranges : List (Nat × Nat)
  deriving DecidableEq, Repr, Inhabited

namespace CodeSet

def maxCode : Nat :=
  0x10FFFF

def empty : CodeSet :=
  ⟨[]⟩

def all : CodeSet :=
  ⟨[(0, maxCode)]⟩

def range (low high : Nat) : CodeSet :=
  ⟨[(low, high)]⟩

def single (code : Nat) : CodeSet :=
  range code code

def contains (set : CodeSet) (code : Nat) : Bool :=
  set.ranges.any fun (low, high) => low ≤ code && code ≤ high

def containsChar (set : CodeSet) (character : Char) : Bool :=
  set.contains character.toNat

def isEmpty (set : CodeSet) : Bool :=
  set.ranges.isEmpty

/-- Whether the set lies within ASCII. -/
def isAscii (set : CodeSet) : Bool :=
  set.ranges.all fun (_, high) => high < 0x80

/-- Joins ranges that meet or overlap to the range from `low` to `high` and to
one another.  They come in increasing order of their lower ends. -/
def joinRanges (low high : Nat) : List (Nat × Nat) → List (Nat × Nat)
  | [] => [(low, high)]
  | (nextLow, nextHigh) :: rest =>
      if nextLow ≤ high + 1 then joinRanges low (max high nextHigh) rest
      else (low, high) :: joinRanges nextLow nextHigh rest

/-- The set of the code points in any of `ranges`, in whatever order they come. -/
def ofRanges (ranges : List (Nat × Nat)) : CodeSet :=
  match ranges.mergeSort fun left right => left.1 ≤ right.1 with
  | [] => empty
  | (low, high) :: rest => ⟨joinRanges low high rest⟩

def union (left right : CodeSet) : CodeSet :=
  ofRanges (left.ranges ++ right.ranges)

/-- The gaps between ranges in increasing order, from `start` on. -/
def gaps (start : Nat) : List (Nat × Nat) → List (Nat × Nat)
  | [] => if start ≤ maxCode then [(start, maxCode)] else []
  | (low, high) :: rest =>
      if start < low then (start, low - 1) :: gaps (high + 1) rest else gaps (high + 1) rest

def complement (set : CodeSet) : CodeSet :=
  ⟨gaps 0 set.ranges⟩

def inter (left right : CodeSet) : CodeSet :=
  complement (union (complement left) (complement right))

def diff (left right : CodeSet) : CodeSet :=
  inter left (complement right)

def symmDiff (left right : CodeSet) : CodeSet :=
  union (diff left right) (diff right left)

/-! ## Tables -/

def digitValue (digit : Char) : Nat :=
  if digit.isDigit then digit.toNat - '0'.toNat else digit.toNat - 'A'.toNat + 10

/-- What has been read of a table: the finished ranges, latest first, the lower
end of an open range and the current number. -/
structure TableState where
  finished : List (Nat × Nat)
  low : Option Nat
  number : Option Nat

def TableState.close (state : TableState) : List (Nat × Nat) :=
  match state.number with
  | some number => (state.low.getD number, number) :: state.finished
  | none => state.finished

/-- Reads one character of a table, where blanks and line ends separate
ranges. -/
def TableState.step (state : TableState) (character : Char) : TableState :=
  if character = '-' then
    { state with low := state.number, number := none }
  else if character = ' ' || character = '\n' then
    ⟨state.close, none, none⟩
  else
    { state with number := some (16 * state.number.getD 0 + digitValue character) }

def readTable (table : String) : List (Nat × Nat) :=
  (table.toList.foldl TableState.step ⟨[], none, none⟩).close.reverse

/-- The set that a table of hexadecimal ranges describes. -/
def ofTable (table : String) : CodeSet :=
  ofRanges (readTable table)

end CodeSet

end RecipientRewriting.Unicode
