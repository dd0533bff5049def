import RecipientRewriting.Unicode.CodeSet

/-!
# Patterns as trees

What a pattern means once its flags are resolved: single characters are sets of
code points, and every test of a position says exactly what it tests.  Trees
are as deep as the pattern is written, since its nesting is limited.
-/

namespace RecipientRewriting.Pattern

open Unicode

/-- A test of a position between two characters. -/
inductive Look
  /-- The start of the text. -/
  | textStart
  /-- The end of the text. -/
  | textEnd
  /-- The start of the text or of a line. -/
  | lineStart
  /-- The end of the text or of a line. -/
  | lineEnd
  /-- As `lineStart`, where `\r`, `\n` and `\r\n` all end a line. -/
  | anyLineStart
  /-- As `lineEnd`, where `\r`, `\n` and `\r\n` all end a line. -/
  | anyLineEnd
  /-- A member of `word` on exactly one side. -/
  | boundary (word : CodeSet)
  /-- A member of `word` on both sides or on none. -/
  | noBoundary (word : CodeSet)
  /-- A member of `word` behind the position and none in front. -/
  | wordStart (word : CodeSet)
  /-- A member of `word` in front of the position and none behind. -/
  | wordEnd (word : CodeSet)
  /-- No member of `word` in front of the position. -/
  | wordStartHalf (word : CodeSet)
  /-- No member of `word` behind the position. -/
  | wordEndHalf (word : CodeSet)
  deriving DecidableEq, Repr

inductive Tree
  /-- The empty text. -/
  | empty
  /-- One character of a set. -/
  | set (members : CodeSet)
  /-- One character of a set that is written in brackets, with how many levels
  of brackets, lists of members and operators are within each other there. -/
  | bracketed (members : CodeSet) (levels : Nat)
  /-- The empty text at a position that passes a test. -/
  | look (test : Look)
  /-- A group whose text is remembered under a number. -/
  | capture (number : Nat) (body : Tree)
  /-- A group that is only there to hold its body together. -/
  | group (body : Tree)
  /-- One part after the other. -/
  | sequence (parts : List Tree)
  /-- The first branch that works. -/
  | choice (branches : List Tree)
  /-- The body at least `least` times and, where given, at most `most` times; as
  often as possible if `greedy`, else as rarely as possible. -/
  | repetition (body : Tree) (least : Nat) (most : Option Nat) (greedy : Bool)
  deriving Repr, Inhabited

namespace Tree

/-- Parts in a row, where a single part stands for itself. -/
def ofParts : List Tree → Tree
  | [] => empty
  | [part] => part
  | parts => sequence parts

/-- Branches to try in turn, where a single branch stands for itself. -/
def ofBranches : List Tree → Tree
  | [] => empty
  | [branch] => branch
  | branches => choice branches

mutual

/-- How deeply groups, repetitions, sequences, choices and brackets are nested. -/
def depth : Tree → Nat
  | empty | set _ | look _ => 0
  | bracketed _ levels => levels
  | capture _ body | group body | repetition body _ _ _ => depth body + 1
  | sequence parts => depthAll parts + 1
  | choice branches => depthAll branches + 1

def depthAll : List Tree → Nat
  | [] => 0
  | tree :: rest => max (depth tree) (depthAll rest)

end

end Tree

end RecipientRewriting.Pattern
