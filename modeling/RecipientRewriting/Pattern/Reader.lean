import RecipientRewriting.Pattern.Tree
import RecipientRewriting.Text.Basic
import RecipientRewriting.Unicode.Query

/-!
# Reading patterns

Reads the written form of a pattern into its tree.  Flags hold to the end of
the group that sets them, so they are part of the reader's state and the trees
it builds know nothing of them.  There is one way to fail, since nobody is told
what is wrong with a pattern, only that something is.

Every reader that calls itself does so with one unit of fuel less for each
character it takes, so the length of the pattern is always fuel enough.
-/

namespace RecipientRewriting.Pattern

open Unicode

/-! ## State -/

structure Flags where
  ignoreCase : Bool := false
  multiLine : Bool := false
  dotMatchesNewline : Bool := false
  swapGreed : Bool := false
  unicode : Bool := true
  anyLineEnding : Bool := false
  ignoreSpace : Bool := false

/-- What is left to read, the flags in force, and the groups numbered so far. -/
structure ReaderState where
  rest : List Char
  flags : Flags
  groupCount : Nat
  names : List (String × Nat)

abbrev Reader :=
  StateT ReaderState Option

namespace Reader

/-- The next character, left where it is. -/
def peek : Reader (Option Char) :=
  fun state => some (state.rest.head?, state)

def ahead : Reader (List Char) :=
  fun state => some (state.rest, state)

def next : Reader Char := fun state =>
  match state.rest with
  | [] => none
  | character :: rest => some (character, { state with rest })

def skip : Reader Unit := do
  let _ ← next

/-- The next character, which must exist. -/
def require : Reader Char := fun state =>
  match state.rest with
  | [] => none
  | character :: _ => some (character, state)

def flags : Reader Flags :=
  fun state => some (state.flags, state)

def setFlags (flags : Flags) : Reader Unit :=
  fun state => some ((), { state with flags })

def accept (expected : List Char) : Reader Bool := fun state =>
  if expected.isPrefixOf state.rest then
    some (true, { state with rest := state.rest.drop expected.length })
  else
    some (false, state)

/-- What is left behind the line that `text` starts in. -/
def dropLine (text : List Char) : List Char :=
  (text.dropWhile (· ≠ '\n')).drop 1

/-- Drops white space and comments, which run from `#` to the end of the line;
`fuel` bounds the number of comments. -/
def dropSpace : Nat → List Char → List Char
  | 0, text => text
  | fuel + 1, text =>
      match text.dropWhile (whiteSpace.containsChar ·) with
      | '#' :: rest => dropSpace fuel (dropLine rest)
      | rest => rest

/-- Drops white space and comments where the flags allow them. -/
def skipSpace : Reader Unit := fun state =>
  if state.flags.ignoreSpace then
    some ((), { state with rest := dropSpace state.rest.length state.rest })
  else
    some ((), state)

/-- Drops one character and what `skipSpace` drops; fails at the end of the
pattern. -/
def advance : Reader Unit := do
  skip
  skipSpace
  let _ ← require

/-- As `advance`, but the pattern may end. -/
def advanceToEnd : Reader Unit := do
  skip
  skipSpace

/-- The character after the next one.  Where the flags allow white space and
comments, white space is passed over, and of a comment its first character and
the white space behind that; if nothing follows, nothing is passed over. -/
def peekSecond : Reader (Option Char) := fun state =>
  let rest := state.rest.drop 1
  if state.flags.ignoreSpace then
    let solid := rest.dropWhile (whiteSpace.containsChar ·)
    let solid :=
      if solid.head? = some '#' then (solid.drop 1).dropWhile (whiteSpace.containsChar ·)
      else solid
    some (solid.head? <|> rest.head?, state)
  else
    some (rest.head?, state)

/-- Gives the next free number to a group, under a name if it has one. -/
def newGroup (name : Option String) : Reader Nat := fun state =>
  let number := state.groupCount + 1
  match name with
  | none => some (number, { state with groupCount := number })
  | some name =>
      if state.names.any (·.1 = name) then none
      else some (number,
        { state with groupCount := number, names := (name, number) :: state.names })

end Reader

open Reader

/-! ## Single characters -/

def isOperator (character : Char) : Bool :=
  character ∈ "\\.+*?()|[]\x7b\x7d^$#&-~".toList

/-- Whether a backslash in front of `character` means the character itself. -/
def isEscapable (character : Char) : Bool :=
  isOperator character ||
    (character.toNat < 0x80 && !character.isAlphanum && character ∉ ['<', '>'])

/-- The character with a number, unless the number is none of a character. -/
def characterOf? (number : Nat) : Option Char :=
  if number.isValidChar then some (Char.ofNat number) else none

/-- A character as written, and whether two hexadecimal digits gave it. -/
structure Literal where
  character : Char
  asOctet : Bool

/-- What an escape or an unescaped character stands for. -/
inductive Item
  | literal (literal : Literal)
  | members (set : CodeSet)
  | look (test : Look)

/-- The characters of words, as far as the flags go. -/
def wordSet (flags : Flags) : CodeSet :=
  if flags.unicode then wordCharacters
  else .ofTable "30-39 41-5A 5F 61-7A"

/-- Closes a set under case variants, if case is ignored. -/
def foldCase (flags : Flags) (set : CodeSet) : CodeSet :=
  if !flags.ignoreCase then set
  else if flags.unicode then set.withVariants
  else set.withAsciiVariants

/-- Completes a class: case variants first, then negation.  Without Unicode a
class must stay within ASCII. -/
def finishClass (flags : Flags) (negated : Bool) (set : CodeSet) : Option CodeSet :=
  let folded := foldCase flags set
  let finished := if negated then folded.complement else folded
  if flags.unicode || finished.isAscii then some finished else none

/-- The hexadecimal digits of an escape of fixed length. -/
def readFixedDigits : Nat → Nat → Reader Nat
  | 0, value => pure value
  | count + 1, value => do
      let digit ← Text.hexValue? (← require)
      advanceToEnd
      if count > 0 then
        let _ ← require
      readFixedDigits count (16 * value + digit)

/-- The hexadecimal digits of an escape up to the closing brace. -/
def readBracedDigits : Nat → Bool → Nat → Reader Nat
  | 0, _, _ => failure
  | fuel + 1, nonempty, value => do
      let character ← require
      if character = '\x7d' then
        advanceToEnd
        if nonempty then pure value else failure
      else
        let digit ← Text.hexValue? character
        advanceToEnd
        readBracedDigits fuel true (16 * value + digit)

/-- A character given by its number in hexadecimal; `digits` is how many digits
follow unless they stand in braces. -/
def readHex (digits : Nat) : Reader Item := do
  advance
  if (← require) = '\x7b' then
    advanceToEnd
    let value ← readBracedDigits ((← ahead).length + 1) false 0
    pure (.literal ⟨← characterOf? value, false⟩)
  else
    let value ← readFixedDigits digits 0
    pure (.literal ⟨← characterOf? value, digits = 2⟩)

/-- The characters up to the closing brace. -/
def readName : Nat → List Char → Reader (List Char)
  | 0, _ => failure
  | fuel + 1, taken => do
      let character ← require
      if character = '\x7d' then
        skip
        pure taken.reverse
      else
        advanceToEnd
        readName fuel (character :: taken)

/-- The set named in a property class: `name`, `name=value`, `name:value` or
`name!=value`, where the last is negated. -/
def propertySet? (name : List Char) : Option (CodeSet × Bool) :=
  let cut := fun (separator : List Char) =>
    let before := (List.range name.length).find? fun position =>
      separator.isPrefixOf (name.drop position)
    before.map fun position =>
      (String.ofList (name.take position),
        String.ofList (name.drop (position + separator.length)))
  match cut ['!', '='], cut [':'], cut ['='] with
  | some (property, value), _, _ => (valued? property value).map (·, true)
  | none, some (property, value), _ => (valued? property value).map (·, false)
  | none, none, some (property, value) => (valued? property value).map (·, false)
  | none, none, none => (named? (String.ofList name)).map (·, false)

/-- A class of characters with a property, behind `\p` or `\P`. -/
def readProperty (negated : Bool) : Reader Item := do
  advance
  let name ←
    if (← require) = '\x7b' then
      advanceToEnd
      readName ((← ahead).length + 1) []
    else
      let letter ← require
      if letter = '\\' then failure
      advanceToEnd
      pure [letter]
  let flags ← flags
  if !flags.unicode then failure
  let (set, inverted) ← propertySet? name
  pure (.members (← finishClass flags (negated ^^ inverted) set))

def readLetterClass (letter : Char) : Reader Item := do
  skip
  let flags ← flags
  let set :=
    match letter.toLower with
    | 'd' => if flags.unicode then decimalDigits else .range 0x30 0x39
    | 's' => if flags.unicode then whiteSpace else .ofTable "9-D 20"
    | _ => wordSet flags
  let finished := if letter.isUpper then set.complement else set
  if flags.unicode || finished.isAscii then pure (.members finished) else failure

/-- The letters and hyphens up to a closing brace. -/
def readBoundaryName : Nat → List Char → Reader (List Char)
  | 0, _ => failure
  | fuel + 1, taken => do
      let character ← require
      if character.isAlpha || character = '-' then
        advanceToEnd
        readBoundaryName fuel (character :: taken)
      else if character = '\x7d' then
        skip
        pure taken.reverse
      else
        failure

/-- A word boundary, behind `\b`.  In braces there may be a name for a special
one; anything else in braces is left for a count. -/
def readBoundary : Reader Item := do
  let word := wordSet (← flags)
  if (← peek) ≠ some '\x7b' then
    pure (.look (.boundary word))
  else
    let before ← get
    advance
    let first ← require
    if !(first.isAlpha || first = '-') then
      set before
      pure (.look (.boundary word))
    else
      match String.ofList (← readBoundaryName ((← ahead).length + 1) []) with
      | "start" => pure (.look (.wordStart word))
      | "end" => pure (.look (.wordEnd word))
      | "start-half" => pure (.look (.wordStartHalf word))
      | "end-half" => pure (.look (.wordEndHalf word))
      | _ => failure

def readEscape : Reader Item := do
  skip
  let letter ← require
  match letter with
  | 'x' => readHex 2
  | 'u' => readHex 4
  | 'U' => readHex 8
  | 'p' => readProperty false
  | 'P' => readProperty true
  | 'd' | 's' | 'w' | 'D' | 'S' | 'W' => readLetterClass letter
  | _ =>
      skip
      let word := wordSet (← flags)
      if isEscapable letter then
        pure (.literal ⟨letter, false⟩)
      else
        match letter with
        | 'a' => pure (.literal ⟨'\x07', false⟩)
        | 'f' => pure (.literal ⟨'\x0c', false⟩)
        | 't' => pure (.literal ⟨'\t', false⟩)
        | 'n' => pure (.literal ⟨'\n', false⟩)
        | 'r' => pure (.literal ⟨'\r', false⟩)
        | 'v' => pure (.literal ⟨'\x0b', false⟩)
        | 'A' => pure (.look .textStart)
        | 'z' => pure (.look .textEnd)
        | 'b' => readBoundary
        | 'B' => pure (.look (.noBoundary word))
        | '<' => pure (.look (.wordStart word))
        | '>' => pure (.look (.wordEnd word))
        | _ => failure

/-! ## Classes in brackets -/

def namedClasses : List (String × String) :=
  [("alnum", "30-39 41-5A 61-7A"), ("alpha", "41-5A 61-7A"), ("ascii", "0-7F"),
   ("blank", "9 20"), ("cntrl", "0-1F 7F"), ("digit", "30-39"), ("graph", "21-7E"),
   ("lower", "61-7A"), ("print", "20-7E"), ("punct", "21-2F 3A-40 5B-60 7B-7E"),
   ("space", "9-D 20"), ("upper", "41-5A"), ("word", "30-39 41-5A 5F 61-7A"),
   ("xdigit", "30-39 41-46 61-66")]

/-- The class named at the front of `text`, which starts behind a bracket, with
what follows it. -/
def namedClass? (text : List Char) : Option (CodeSet × Bool × List Char) :=
  match text with
  | ':' :: rest =>
      let negated := rest.head? = some '^'
      let rest := if negated then rest.drop 1 else rest
      let name := rest.takeWhile (· ≠ ':')
      match rest.drop name.length with
      | ':' :: ']' :: behind =>
          (namedClasses.find? (·.1 = String.ofList name)).map fun entry =>
            (CodeSet.ofTable entry.2, negated, behind)
      | _ => none
  | _ => none

/-- One member of a class, before it is known whether a range follows. -/
def readMember : Reader Item := do
  if (← require) = '\\' then readEscape
  else pure (.literal ⟨← next, false⟩)

/-- The number of a character in a class.  Without Unicode it must be in ASCII. -/
def memberCode (flags : Flags) (literal : Literal) : Option Nat :=
  if flags.unicode || literal.character.toNat < 0x80 then some literal.character.toNat else none

/-- A single member or a range. -/
def readMembers : Reader CodeSet := do
  let first ← readMember
  skipSpace
  let separator ← require
  let second ← peekSecond
  let flags ← flags
  if separator ≠ '-' || second = some ']' || second = some '-' then
    match first with
    | .literal literal => pure (.single (← memberCode flags literal))
    | .members set => pure set
    | .look _ => failure
  else
    advance
    match first, ← readMember with
    | .literal low, .literal high =>
        let low ← memberCode flags low
        let high ← memberCode flags high
        if low ≤ high then pure (.range low high) else failure
    | _, _ => failure

/-- A set of code points, with how many levels of brackets, lists of members and
operators are within each other in its written form. -/
structure Nested where
  set : CodeSet
  levels : Nat

/-- The members of a list in one.  A list of one member is no level of its own. -/
def Nested.ofMembers : List Nested → Nested
  | [] => ⟨.empty, 0⟩
  | [member] => member
  | members =>
      ⟨.ofRanges (members.flatMap (·.set.ranges)), (members.map (·.levels)).foldl max 0 + 1⟩

inductive ClassOperator
  | intersection
  | difference
  | symmetricDifference

/-- Combines two parts of a class, closed under case variants first. -/
def ClassOperator.apply (operator : ClassOperator) (flags : Flags) (left right : Nested) :
    Nested :=
  let first := foldCase flags left.set
  let second := foldCase flags right.set
  let combined :=
    match operator with
    | intersection => first.inter second
    | difference => first.diff second
    | symmetricDifference => first.symmDiff second
  ⟨combined, max left.levels right.levels + 1⟩

/-- The part of a class read so far and the operator that waits for its right
side. -/
abbrev Pending :=
  Option (Nested × ClassOperator)

/-- Combines a finished right side with what waits for it. -/
def Pending.close (pending : Pending) (flags : Flags) (right : Nested) : Nested :=
  match pending with
  | none => right
  | some (left, operator) => operator.apply flags left right

/-- Hyphens at the front of a class, which stand for themselves. -/
def readLeadingHyphens : Nat → List Nested → Reader (List Nested)
  | 0, _ => failure
  | fuel + 1, members => do
      if (← require) = '-' then
        advance
        readLeadingHyphens fuel (⟨.single '-'.toNat, 0⟩ :: members)
      else
        pure members

/-- The members that may stand at the front of a class only, with whether the
class is negated; called behind the opening bracket. -/
def readClassFront (length : Nat) : Reader (Bool × List Nested) := do
  let negated := (← require) = '^'
  if negated then advance
  let hyphens ← readLeadingHyphens (length + 1) []
  if hyphens.isEmpty && (← require) = ']' then
    advance
    pure (negated, [⟨.single ']'.toNat, 0⟩])
  else
    pure (negated, hyphens)

/-- Reads the members of a class up to and with its closing bracket, behind
those of a list, latest first, that have been read since the last operator. -/
def readClass : Nat → Bool → Pending → List Nested → Reader Nested
  | 0, _, _, _ => failure
  | fuel + 1, negated, pending, members => do
      skipSpace
      let flags ← flags
      match ← ahead with
      | [] => failure
      | '[' :: rest =>
          match namedClass? rest with
          | some (named, inverted, behind) =>
              let named := if inverted then named.complement else named
              if !flags.unicode && !named.isAscii then failure
              modify fun state => { state with rest := behind }
              readClass fuel negated pending (⟨named, 0⟩ :: members)
          | none =>
              advance
              let (innerNegated, front) ← readClassFront rest.length
              let inner ← readClass fuel innerNegated none front
              readClass fuel negated pending (inner :: members)
      | ']' :: _ =>
          skip
          let closed := pending.close flags (.ofMembers members)
          pure ⟨← finishClass flags negated closed.set, closed.levels + 1⟩
      | '&' :: '&' :: rest =>
          modify fun state => { state with rest }
          let left := pending.close flags (.ofMembers members)
          readClass fuel negated (some (left, .intersection)) []
      | '-' :: '-' :: rest =>
          modify fun state => { state with rest }
          let left := pending.close flags (.ofMembers members)
          readClass fuel negated (some (left, .difference)) []
      | '~' :: '~' :: rest =>
          modify fun state => { state with rest }
          let left := pending.close flags (.ofMembers members)
          readClass fuel negated (some (left, .symmetricDifference)) []
      | _ =>
          let set ← readMembers
          readClass fuel negated pending (⟨set, 0⟩ :: members)

/-! ## Groups -/

def flagLetters : List Char :=
  ['i', 'm', 's', 'U', 'u', 'R', 'x']

def Flags.switch (flags : Flags) (letter : Char) (on : Bool) : Flags :=
  match letter with
  | 'i' => { flags with ignoreCase := on }
  | 'm' => { flags with multiLine := on }
  | 's' => { flags with dotMatchesNewline := on }
  | 'U' => { flags with swapGreed := on }
  | 'u' => { flags with unicode := on }
  | 'R' => { flags with anyLineEnding := on }
  | _ => { flags with ignoreSpace := on }

/-- Reads flags up to the `:` or `)` behind them and returns the flags, whether
any were named, and that last character.  A hyphen switches off what follows
it; it may occur once and not last, and no letter twice. -/
def readFlags : Nat → List Char → Flags → Reader (Flags × Bool × Char)
  | 0, _, _ => failure
  | fuel + 1, seen, flags => do
      let letter ← next
      if letter = ':' || letter = ')' then
        if seen.head? = some '-' then failure
        pure (flags, !seen.isEmpty, letter)
      else if letter ∈ seen then
        failure
      else if letter = '-' then
        readFlags fuel (letter :: seen) flags
      else if letter ∈ flagLetters then
        readFlags fuel (letter :: seen) (flags.switch letter (!seen.contains '-'))
      else
        failure

def isNameCharacter (first : Bool) (character : Char) : Bool :=
  if character = '_' then true
  else if first then alphabetic.containsChar character
  else character ∈ ['.', '[', ']'] || alphanumeric.containsChar character

/-- The name of a group, up to and with the closing angle bracket. -/
def readGroupName : Nat → List Char → Reader String
  | 0, _ => failure
  | fuel + 1, taken => do
      let character ← next
      if character = '>' then
        if taken.isEmpty then failure else pure (String.ofList taken.reverse)
      else if isNameCharacter taken.isEmpty character then
        readGroupName fuel (character :: taken)
      else
        failure

inductive Opening
  /-- A group with a number. -/
  | capture (number : Nat)
  /-- A group with flags for its body. -/
  | plain (flags : Flags)
  /-- Flags for the rest of the group around. -/
  | switch (flags : Flags)

/-- The starts of tests of what lies ahead or behind, which patterns may not
make. -/
def lookaround : List (List Char) :=
  [['?', '='], ['?', '!'], ['?', '<', '='], ['?', '<', '!']]

/-- Reads the opening of a group, from its parenthesis on. -/
def readOpening : Reader Opening := do
  skip
  skipSpace
  let rest ← ahead
  if lookaround.any (·.isPrefixOf rest) then failure
  if (← accept "?P<".toList) || (← accept "?<".toList) then
    let name ← readGroupName (rest.length + 1) []
    pure (.capture (← newGroup name))
  else if ← accept ['?'] then
    let (flags, named, last) ← readFlags (rest.length + 1) [] (← flags)
    if last = ':' then pure (.plain flags)
    else if named then pure (.switch flags)
    else failure
  else
    pure (.capture (← newGroup none))

/-! ## Repetitions -/

/-- Drops white space, whatever the flags. -/
def skipBlanks : Reader Unit :=
  modify fun state => { state with rest := state.rest.dropWhile (whiteSpace.containsChar ·) }

/-- The decimal digits ahead, behind the digits of `value`. -/
def readDigits : Nat → Option Nat → Reader (Option Nat)
  | 0, value => pure value
  | fuel + 1, value => do
      match ← peek with
      | some digit =>
          if digit.isDigit then
            advanceToEnd
            readDigits fuel (some (10 * value.getD 0 + (digit.toNat - '0'.toNat)))
          else
            pure value
      | none => pure value

/-- A decimal number with white space around it, or nothing. -/
def readDecimal : Reader (Option Nat) := do
  skipBlanks
  let value ← readDigits ((← ahead).length + 1) none
  skipBlanks
  pure value

def maxCount : Nat :=
  0xFFFFFFFF

/-- The bounds in a counted repetition, from its brace on. -/
def readCounts : Reader (Nat × Option Nat) := do
  advance
  let least ← readDecimal
  let bounds ←
    if (← require) = ',' then
      advance
      if (← require) = '\x7d' then
        pure (← least, none)
      else
        let most ← readDecimal
        pure (← least, some (← most))
    else
      pure (← least, some (← least))
  if (← require) ≠ '\x7d' then failure
  advanceToEnd
  match bounds with
  | (least, some most) =>
      if least ≤ most && most ≤ maxCount then pure bounds else failure
  | (least, none) => if least ≤ maxCount then pure bounds else failure

/-- The bounds of a repetition, from its operator on. -/
def readBounds (operator : Char) : Reader (Nat × Option Nat) := do
  match operator with
  | '?' => skip; pure (0, some 1)
  | '*' => skip; pure (0, none)
  | '+' => skip; pure (1, none)
  | _ => readCounts

/-- Repeats `body`.  A question mark behind the operator asks for as few
repetitions as possible. -/
def readRepetition (operator : Char) (body : Tree) : Reader Tree := do
  match body with
  | .empty => failure
  | _ =>
      let (least, most) ← readBounds operator
      let lazy ← accept ['?']
      pure (.repetition body least most (lazy = (← flags).swapGreed))

/-! ## Whole patterns -/

def literalTree (flags : Flags) (literal : Literal) : Option Tree :=
  if !flags.unicode && literal.asOctet && literal.character.toNat ≥ 0x80 then none
  else some (.set (foldCase flags (.single literal.character.toNat)))

def dotTree (flags : Flags) : Option Tree :=
  if !flags.unicode then none
  else if flags.dotMatchesNewline then some (.set .all)
  else if flags.anyLineEnding then some (.set (CodeSet.ofTable "A D").complement)
  else some (.set (CodeSet.single '\n'.toNat).complement)

def caretLook (flags : Flags) : Look :=
  if !flags.multiLine then .textStart
  else if flags.anyLineEnding then .anyLineStart
  else .lineStart

def dollarLook (flags : Flags) : Look :=
  if !flags.multiLine then .textEnd
  else if flags.anyLineEnding then .anyLineEnd
  else .lineEnd

/-- A character, an escape, a dot or one of the two anchors. -/
def readPrimitive : Reader Tree := do
  let flags ← flags
  match ← require with
  | '\\' =>
      match ← readEscape with
      | .literal literal => literalTree flags literal
      | .members set => pure (.set set)
      | .look test => pure (.look test)
  | '.' => skip; dotTree flags
  | '^' => skip; pure (.look (caretLook flags))
  | '$' => skip; pure (.look (dollarLook flags))
  | character => skip; literalTree flags ⟨character, false⟩

/-- Reads branches up to the end of the pattern or a closing parenthesis, which
is left.  Both lists hold what has been read of this group, latest first. -/
def readBranches : Nat → List Tree → List Tree → Reader Tree
  | 0, _, _ => failure
  | fuel + 1, branches, parts => do
      skipSpace
      match ← peek with
      | none | some ')' =>
          pure (Tree.ofBranches ((Tree.ofParts parts.reverse :: branches).reverse))
      | some '|' =>
          skip
          readBranches fuel (Tree.ofParts parts.reverse :: branches) []
      | some '(' =>
          let outer ← flags
          match ← readOpening with
          | .switch flags =>
              setFlags flags
              readBranches fuel branches (.empty :: parts)
          | .plain flags =>
              setFlags flags
              let body ← readBranches fuel [] []
              if (← next) ≠ ')' then failure
              setFlags outer
              readBranches fuel branches (.group body :: parts)
          | .capture number =>
              let body ← readBranches fuel [] []
              if (← next) ≠ ')' then failure
              setFlags outer
              readBranches fuel branches (.capture number body :: parts)
      | some '[' =>
          advance
          let length := (← ahead).length
          let (negated, front) ← readClassFront length
          let read ← readClass (length + 1) negated none front
          readBranches fuel branches (.bracketed read.set read.levels :: parts)
      | some operator =>
          if operator ∈ ['?', '*', '+', '\x7b'] then
            match parts with
            | [] => failure
            | body :: earlier =>
                let repeated ← readRepetition operator body
                readBranches fuel branches (repeated :: earlier)
          else
            let part ← readPrimitive
            readBranches fuel branches (part :: parts)

def maxDepth : Nat :=
  250

/-- A pattern as read: its tree, the number of its groups and their names. -/
structure Parsed where
  tree : Tree
  groupCount : Nat
  names : List (String × Nat)

def read? (source : String) : Option Parsed := do
  let text := source.toList
  let (tree, state) ← readBranches (text.length + 1) [] [] ⟨text, {}, 0, []⟩
  if state.rest.isEmpty && tree.depth ≤ maxDepth then
    some ⟨tree, state.groupCount, state.names⟩
  else
    none

end RecipientRewriting.Pattern
