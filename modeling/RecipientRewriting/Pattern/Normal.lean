import RecipientRewriting.Pattern.Tree

/-!
# Patterns in normal form

A pattern written in the plainest way that matches the same texts with the same
groups: characters in a row are one text, sequences and choices do not stand
directly in one another, a choice between characters is a set, and what branches
have in common at their front stands before them.  The normal form decides how
large a pattern is and what is run.

A tree is taken to its normal form from the inside out, so each operation here
only has to mend what a single step of building can bring in.
-/

namespace RecipientRewriting.Pattern

open Unicode

inductive Normal
  /-- The empty text. -/
  | empty
  /-- A text that is not empty. -/
  | text (characters : List Char)
  /-- One character of a set that has not just one member. -/
  | set (members : CodeSet)
  /-- The empty text at a position that passes a test. -/
  | look (test : Look)
  /-- A group whose text is remembered under a number. -/
  | capture (number : Nat) (body : Normal)
  /-- One part after the other. -/
  | sequence (parts : List Normal)
  /-- The first branch that works. -/
  | choice (branches : List Normal)
  /-- The body at least `least` times and, where given, at most `most` times; as
  often as possible if `greedy`, else as rarely as possible. -/
  | repetition (body : Normal) (least : Nat) (most : Option Nat) (greedy : Bool)
  deriving Repr, Inhabited

namespace Normal

/-! ## Lengths of matches -/

mutual

/-- The fewest characters that a match has; none if a part can match nothing. -/
def leastLength : Normal → Option Nat
  | empty | look _ => some 0
  | text characters => some characters.length
  | set members => if members.isEmpty then none else some 1
  | capture _ body => leastLength body
  | sequence parts => leastLengthOfAll parts
  | choice branches => leastLengthOfAny branches
  | repetition body least _ _ => (leastLength body).map (· * least)

def leastLengthOfAll : List Normal → Option Nat
  | [] => some 0
  | part :: rest => do
      let first ← leastLength part
      let others ← leastLengthOfAll rest
      some (first + others)

def leastLengthOfAny : List Normal → Option Nat
  | [] => none
  | [branch] => leastLength branch
  | branch :: rest => do
      let first ← leastLength branch
      let others ← leastLengthOfAny rest
      some (min first others)

end

mutual

/-- Whether no match has a character, where a set without members is not known
to have none. -/
def isWidthless : Normal → Bool
  | empty | look _ => true
  | text _ | set _ => false
  | capture _ body => isWidthless body
  | sequence parts => areWidthless parts
  | choice branches => areWidthless branches
  | repetition body _ most _ => most.isSome && isWidthless body

def areWidthless : List Normal → Bool
  | [] => true
  | pattern :: rest => isWidthless pattern && areWidthless rest

end

/-- Whether a match may be empty, as far as is known. -/
def isNullable (pattern : Normal) : Bool :=
  match pattern.leastLength with
  | some length => length = 0
  | none => true

/-! ## Equality -/

mutual

def agrees : Normal → Normal → Bool
  | empty, empty => true
  | text left, text right => left = right
  | set left, set right => left = right
  | look left, look right => left = right
  | capture left body, capture right other => left = right && agrees body other
  | sequence left, sequence right => agreeAll left right
  | choice left, choice right => agreeAll left right
  | repetition body least most greedy, repetition other otherLeast otherMost otherGreedy =>
      least = otherLeast && most = otherMost && greedy = otherGreedy && agrees body other
  | _, _ => false

def agreeAll : List Normal → List Normal → Bool
  | [], [] => true
  | left :: lefts, right :: rights => agrees left right && agreeAll lefts rights
  | _, _ => false

end

/-! ## Sets -/

/-- One character of a set, without the code points that are no characters. -/
def ofSet (members : CodeSet) : Normal :=
  let members := members.diff (.range 0xD800 0xDFFF)
  match members.ranges with
  | [(low, high)] => if low = high then text [Char.ofNat low] else set members
  | _ => set members

/-- The ranges of a pattern that is a single character. -/
def characterRanges? : Normal → Option (List (Nat × Nat))
  | text [character] => some [(character.toNat, character.toNat)]
  | _ => none

/-- The ranges of a pattern that is a set. -/
def memberRanges? : Normal → Option (List (Nat × Nat))
  | set members => some members.ranges
  | _ => none

/-- The set that a choice amounts to if all its branches are single characters
or all are sets. -/
def joined? (branches : List Normal) : Option CodeSet := do
  let ranges ← branches.mapM characterRanges? <|> branches.mapM memberRanges?
  some (.ofRanges ranges.flatten)

/-! ## Sequences -/

/-- The parts that a pattern adds to a sequence. -/
def parts : Normal → List Normal
  | empty => []
  | sequence parts => parts
  | other => [other]

/-- Puts a part in front of a sequence, where texts that meet become one. -/
def joinTexts (part : Normal) (rest : List Normal) : List Normal :=
  match part, rest with
  | text first, text second :: others => text (first ++ second) :: others
  | _, _ => part :: rest

def ofParts (patterns : List Normal) : Normal :=
  match (patterns.flatMap parts).foldr joinTexts [] with
  | [] => empty
  | [part] => part
  | parts => sequence parts

/-! ## Choices -/

/-- The branches that a pattern adds to a choice. -/
def branches : Normal → List Normal
  | choice branches => branches
  | other => [other]

/-- A choice between branches that are no choices, where a choice between
characters is a set. -/
def ofPlainBranches (branches : List Normal) : Normal :=
  match branches with
  | [branch] => branch
  | _ =>
      match joined? branches with
      | some members => ofSet members
      | none => choice branches

def commonLength : List Normal → List Normal → Nat
  | left :: lefts, right :: rights =>
      if agrees left right then commonLength lefts rights + 1 else 0
  | _, _ => 0

/-- The parts of a sequence of at least two. -/
def partsOfSequence? : Normal → Option (List Normal)
  | sequence parts => some parts
  | _ => none

/-- Puts what sequences have in common at their front before a choice between
their rests; nothing if they have nothing in common or not all are sequences. -/
def factored? (branches : List Normal) : Option Normal := do
  let rows ← branches.mapM partsOfSequence?
  let first ← rows.head?
  let length := (rows.map (commonLength first)).foldl min first.length
  if length = 0 then none
  let rests := rows.map fun row => ofParts (row.drop length)
  some (ofParts (first.take length ++ [ofPlainBranches (rests.flatMap Normal.branches)]))

/-- A choice between patterns.  Rests of branches have nothing in common at
their front any more, so one step of factoring is enough. -/
def ofBranches (patterns : List Normal) : Normal :=
  match ofPlainBranches (patterns.flatMap branches) with
  | choice branches => (factored? branches).getD (choice branches)
  | other => other

/-! ## Repetitions -/

/-- A pattern repeated.  What matches no character is repeated once at most. -/
def repeated (body : Normal) (least : Nat) (most : Option Nat) (greedy : Bool) : Normal :=
  let (least, most) :=
    if body.isWidthless then (min least 1, some (min (most.getD 1) 1)) else (least, most)
  if most = some 0 then empty
  else if least = 1 && most = some 1 then body
  else repetition body least most greedy

end Normal

mutual

def Tree.normal : Tree → Normal
  | .empty => .empty
  | .set members => .ofSet members
  | .bracketed members _ => .ofSet members
  | .look test => .look test
  | .capture number body => .capture number (Tree.normal body)
  | .group body => Tree.normal body
  | .sequence parts => .ofParts (Tree.normals parts)
  | .choice branches => .ofBranches (Tree.normals branches)
  | .repetition body least most greedy =>
      .repeated (Tree.normal body) least most greedy

def Tree.normals : List Tree → List Normal
  | [] => []
  | tree :: rest => Tree.normal tree :: Tree.normals rest

end

end RecipientRewriting.Pattern
