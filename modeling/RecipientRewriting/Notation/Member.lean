import RecipientRewriting.Notation.Lexical

/-!
# Members between delimiters

Lists, maps and records hold members between an opening and a closing
delimiter, with a comma behind each that may be left out behind the last.  This
module reads the members of any of them, and drops values whatever they are,
which is what becomes of a field that nobody knows.
-/

namespace RecipientRewriting.Notation

inductive ReadError
  /-- It is not written in the notation, or not as what was asked for. -/
  | malformed
  /-- It is written correctly, but the value it gives is refused. -/
  | refused (reason : String)
  deriving DecidableEq, Repr

/-! ## Between members -/

def skipSpace (text : List Char) : Except ReadError (List Char) :=
  match dropSpace .plain text with
  | some rest => .ok rest
  | none => .error .malformed

def expect (character : Char) : List Char → Except ReadError (List Char)
  | first :: rest => if first = character then .ok rest else .error .malformed
  | [] => .error .malformed

/-- Drops a comma, if there is one, with the space around it, and says whether
there was one. -/
def skipComma (text : List Char) : Except ReadError (Bool × List Char) := do
  match ← skipSpace text with
  | ',' :: rest => pure (true, ← skipSpace rest)
  | rest => pure (false, rest)

/-- Reads members up to and with `closing`, each of which turns one state into
the next.  `separated` says whether another member may follow, and `fuel` bounds
their number. -/
def foldMembers {state : Type} (closing : Char)
    (member : state → List Char → Except ReadError (state × List Char)) :
    Nat → Bool → state → List Char → Except ReadError (state × List Char)
  | 0, _, _, _ => .error .malformed
  | fuel + 1, separated, current, text => do
      let text ← skipSpace text
      if text.head? = some closing then
        pure (current, text.drop 1)
      else if separated then
        let (next, text) ← member current text
        let (separated, text) ← skipComma text
        foldMembers closing member fuel separated next text
      else
        .error .malformed

def readMembers {state : Type} (closing : Char)
    (member : state → List Char → Except ReadError (state × List Char)) (start : state)
    (text : List Char) : Except ReadError (state × List Char) :=
  foldMembers closing member (text.length + 1) true start text

/-! ## Values that are not asked for -/

structure Switches where
  /-- Whether an optional value may stand without `Some(…)` around it. -/
  implicitSome : Bool
  /-- Whether a record must state its name. -/
  explicitNames : Bool
  /-- Whether the fields of a record, or several members, may stand in the
  parentheses of `Some(…)` themselves. -/
  bareFields : Bool
  deriving DecidableEq, Repr

/-- A way of dropping what a text starts with. -/
abbrev Dropper :=
  List Char → Except ReadError (List Char)

/-- How to drop what stands inside a value: the value of an option, the members
of a list, a map or a record, and what stands in the parentheses of an option up
to and with the closing one. -/
structure Inside where
  value : Dropper
  member : Dropper
  payload : Dropper

/-- The result of a reader from `Notation.Lexical`. -/
def required : Option (List Char) → Except ReadError (List Char)
  | some rest => .ok rest
  | none => .error .malformed

def skipMembers (closing : Char) (member : Dropper) (text : List Char) :
    Except ReadError (List Char) := do
  let ((), rest) ← readMembers closing (fun () text => do pure ((), ← member text)) () text
  pure rest

/-- Drops two parts with a colon between them. -/
def skipPair (first second : Dropper) (text : List Char) : Except ReadError (List Char) := do
  let text ← expect ':' (← skipSpace (← first text))
  second (← skipSpace text)

def skipIdentifier (text : List Char) : Except ReadError (List Char) :=
  required ((readIdentifier? text).map Prod.snd)

/-- Whether the text behind an opening parenthesis starts with a field. -/
def startsWithField (text : List Char) : Except ReadError Bool := do
  match readIdentifier? (← skipSpace text) with
  | some (_, rest) => pure ((← skipSpace rest).head? = some ':')
  | none => pure false

/-- Drops the fields or the members in parentheses; there may be none at all. -/
def skipParenthesized (inside : Option Inside) : Dropper
  | '(' :: rest => do
      match inside with
      | none => .error .malformed
      | some inside =>
          if ← startsWithField rest then
            skipMembers ')' (skipPair skipIdentifier inside.member) rest
          else
            skipMembers ')' inside.member rest
  | text => .ok text

/-- Drops the value of an option, behind its first word. -/
def skipPresent (switches : Switches) (inside : Option Inside) (text : List Char) :
    Except ReadError (List Char) := do
  match inside, ← skipSpace text with
  | none, _ => .error .malformed
  | some inside, '(' :: rest => do
      inside.payload (← skipSpace rest)
  | some inside, rest => if switches.implicitSome then inside.value rest else .error .malformed

/-- The values that are a single word. -/
def wordValues : List (List Char) :=
  ["true".toList, "false".toList, "None".toList, "inf".toList, "inff32".toList,
    "inff64".toList, "NaN".toList, "NaNf32".toList, "NaNf64".toList]

def skipByFirst (inside : Option Inside) (text : List Char) : Except ReadError (List Char) :=
  match text with
  | '(' :: _ => skipParenthesized inside text
  | '[' :: rest =>
      match inside with
      | some inside => skipMembers ']' inside.member rest
      | none => .error .malformed
  | '\x7b' :: rest =>
      match inside with
      | some inside => skipMembers '\x7d' (skipPair inside.member inside.member) rest
      | none => .error .malformed
  | '"' :: _ | 'r' :: _ => required ((readString? text).map Prod.snd)
  | 'b' :: '\'' :: _ => required (dropRange? text)
  | 'b' :: rest => required (dropOctets? rest)
  | '\'' :: rest => required (dropCharacter? rest)
  | first :: _ =>
      if isNumberStart first then required (dropRange? text) else .error .malformed
  | [] => .error .malformed

/-- Drops a value, where `inside` drops what stands inside it. -/
def skipWith (switches : Switches) (inside : Option Inside) (text : List Char) :
    Except ReadError (List Char) := do
  if let some rest := wordValues.findSome? (dropWord? · text) then
    pure rest
  else if let some rest := dropWord? "Some".toList text then
    skipPresent switches inside rest
  else if let '(' :: ')' :: rest := text then
    pure rest
  else if let some (_, rest) := readIdentifier? text then
    skipParenthesized inside (← skipSpace rest)
  else
    skipByFirst inside text

/-! ## What stands in the parentheses of an option -/

/-- Drops a character, a string or a string of octets, if the text starts with
one, and nothing otherwise. -/
def dropLiteral (text : List Char) : List Char :=
  let found :=
    match text with
    | '\'' :: rest => dropCharacter? rest
    | 'b' :: rest => dropOctets? rest
    | _ => (readString? text).map Prod.snd
  found.getD text

/-- Whether another member follows the first one of those that `depth` closing
delimiters end; `fuel` bounds the number of characters. -/
def hasSecondMember : Nat → Nat → List Char → Except ReadError Bool
  | 0, _, _ | _, 0, _ => .ok false
  | fuel + 1, depth + 1, text => do
      match dropLiteral (← skipSpace text) with
      | [] => .error .malformed
      | character :: rest =>
          if character ∈ ['(', '[', '\x7b'] then hasSecondMember fuel (depth + 2) rest
          else if character ∈ [')', ']', '\x7d'] then hasSecondMember fuel depth rest
          else if character = ',' && depth = 0 then
            pure ((← skipSpace rest).head? ≠ some ')')
          else hasSecondMember fuel (depth + 1) rest

/-- Drops one value, a comma behind it, and the closing parenthesis. -/
def skipOnlyValue (value : Dropper) (text : List Char) : Except ReadError (List Char) := do
  let (_, rest) ← skipComma (← value text)
  expect ')' rest

/-- Drops nothing at all, fields or several members up to and with the closing
parenthesis of an option, or else its one value. -/
def skipBareFields (inside : Option Inside) (value : Dropper) (text : List Char) :
    Except ReadError (List Char) := do
  if text.head? = some ')' then
    pure (text.drop 1)
  else
    let hasFields ← startsWithField text
    let hasMembers ← hasSecondMember (text.length + 1) 1 text
    match inside with
    | some inside =>
        if hasFields then skipMembers ')' (skipPair skipIdentifier inside.member) text
        else if hasMembers then skipMembers ')' inside.member text
        else skipOnlyValue value text
    | none => if hasFields || hasMembers then .error .malformed else skipOnlyValue value text

/-- Drops what stands in the parentheses of an option, up to and with the closing
one. -/
def skipPayload (switches : Switches) (inside : Option Inside) (value : Dropper) : Dropper :=
  if switches.bareFields then skipBareFields inside value else skipOnlyValue value

mutual

/-- Drops a value that nests at most `depth` deep. -/
def skipValue (switches : Switches) : Nat → Dropper
  | 0 => skipWith switches none
  | depth + 1 =>
      skipWith switches (some ⟨skipValue switches depth, skipMember switches depth,
        skipPresentValue switches depth⟩)

/-- Drops a member, which nests one deeper than the value it stands in. -/
def skipMember (switches : Switches) : Nat → Dropper
  | 0 => fun _ => .error .malformed
  | depth + 1 => skipValue switches depth

/-- Drops what stands in the parentheses of an option. -/
def skipPresentValue (switches : Switches) : Nat → Dropper
  | 0 => skipPayload switches none (skipWith switches none)
  | depth + 1 =>
      let inside : Inside :=
        ⟨skipValue switches depth, skipMember switches depth, skipPresentValue switches depth⟩
      skipPayload switches (some inside) (skipWith switches (some inside))

end

end RecipientRewriting.Notation
