import RecipientRewriting.Pattern.Reader
import RecipientRewriting.Pattern.Search
import RecipientRewriting.Pattern.Size
import RecipientRewriting.Text.Basic

/-!
# Patterns and replacements

A compiled pattern, the texts that its groups matched, and replacements that they are
filled into.
-/

namespace RecipientRewriting

/-! ## Patterns -/

structure Pattern where
  program : Pattern.Program
  names : List (String × Nat)

/-- The texts that the groups of a match cover. -/
structure Captures where
  text : Array Char
  slots : Pattern.Slots
  names : List (String × Nat)

namespace Pattern

/-- Reads and compiles a pattern that is not too large. -/
def compile? (source : String) : Option Pattern := do
  let parsed ← read? source
  let pattern := parsed.tree.normal
  if pattern.fits then some ⟨pattern.program, parsed.names⟩ else none

/-- Compiles a pattern for the whole of a text. -/
def compileWhole? (source : String) : Option Pattern :=
  compile? ("^(?:" ++ source ++ ")$")

def search? (pattern : Pattern) (text : String) : Option Captures :=
  let characters := text.toList.toArray
  (pattern.program.search? characters).map fun slots => ⟨characters, slots, pattern.names⟩

end Pattern

namespace Captures

/-- The text of a group; empty if the group has matched nothing or does not
exist. -/
def group (captures : Captures) (number : Nat) : List Char :=
  match captures.slots.lookup (2 * number), captures.slots.lookup (2 * number + 1) with
  | some first, some last => (captures.text.extract first last).toList
  | _, _ => []

def named (captures : Captures) (name : String) : List Char :=
  match captures.names.lookup name with
  | some number => captures.group number
  | none => []

end Captures

namespace Template

/-!
## Replacements

A replacement is text in which `$name` and `${name}` stand for the texts of
groups and `$$` for a dollar sign.  A name of digits is the number of a group,
and a dollar sign that starts none of these stands for itself.
-/

inductive Reference
  | numbered (number : Nat)
  | named (name : String)
  deriving DecidableEq, Repr

/-- A character of a name without braces. -/
def isNameCharacter (character : Char) : Bool :=
  character.isAlphanum || character = '_'

def maxNumber : Nat :=
  0xFFFFFFFFFFFFFFFF

/-- What a name refers to.  A plus sign may stand in front of a number. -/
def Reference.ofName (name : List Char) : Reference :=
  let digits := if name.head? = some '+' then name.drop 1 else name
  let value := Text.decimalValue digits
  if !digits.isEmpty && digits.all Char.isDigit && value ≤ maxNumber then .numbered value
  else .named (String.ofList name)

/-- Reads the reference behind a dollar sign and returns what follows it. -/
def readReference? (text : List Char) : Option (Reference × List Char) :=
  match text with
  | '\x7b' :: rest =>
      let name := rest.takeWhile (· ≠ '\x7d')
      match rest.drop name.length with
      | _ :: behind => some (.ofName name, behind)
      | [] => none
  | _ =>
      let name := text.takeWhile isNameCharacter
      if name.isEmpty then none else some (.ofName name, text.drop name.length)

def Reference.resolve (captures : Captures) : Reference → List Char
  | numbered number => captures.group number
  | named name => captures.named name

/-- Fills in a replacement; `fuel` bounds the number of its characters. -/
def fill (captures : Captures) : Nat → List Char → List Char
  | 0, _ => []
  | _, [] => []
  | fuel + 1, '$' :: '$' :: rest => '$' :: fill captures fuel rest
  | fuel + 1, '$' :: rest =>
      match readReference? rest with
      | some (reference, behind) => reference.resolve captures ++ fill captures fuel behind
      | none => '$' :: fill captures fuel rest
  | fuel + 1, character :: rest => character :: fill captures fuel rest

/-- The replacement with the texts of the groups filled in. -/
def expand (captures : Captures) (replacement : String) : String :=
  String.ofList (fill captures (replacement.toList.length + 1) replacement.toList)

end Template

end RecipientRewriting
