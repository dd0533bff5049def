import RecipientRewriting.Text.Basic
import RecipientRewriting.Unicode.Query

/-!
# Words, strings and numbers of the configuration notation

The smallest parts of the notation, each read from the front of a text.  What
is not there is `none`, with one exception: a reader for something optional
says so by its result.
-/

namespace RecipientRewriting.Notation

/-! ## White space -/

/-- White space between parts of the notation. -/
def isSpace (character : Char) : Bool :=
  let code := character.toNat
  (9 ≤ code && code ≤ 13) || code = 0x20 || code = 0x85 || code = 0x200E || code = 0x200F ||
    code = 0x2028 || code = 0x2029

/-- Where the search for the end of white space stands. -/
inductive SpaceMode
  /-- Between comments. -/
  | plain
  /-- In a comment that the line ends. -/
  | line
  /-- In a comment that needs one more closing delimiter than `depth`. -/
  | block (depth : Nat)

/-- Drops white space and comments; there is no result if a comment does not
end or a slash starts none. -/
def dropSpace : SpaceMode → List Char → Option (List Char)
  | .plain, [] => some []
  | .plain, '/' :: '/' :: rest => dropSpace .line rest
  | .plain, '/' :: '*' :: rest => dropSpace (.block 0) rest
  | .plain, '/' :: _ => none
  | .plain, character :: rest =>
      if isSpace character then dropSpace .plain rest else some (character :: rest)
  | .line, [] => some []
  | .line, character :: rest => dropSpace (if character = '\n' then .plain else .line) rest
  | .block _, [] => none
  | .block depth, '/' :: '*' :: rest => dropSpace (.block (depth + 1)) rest
  | .block 0, '*' :: '/' :: rest => dropSpace .plain rest
  | .block (depth + 1), '*' :: '/' :: rest => dropSpace (.block depth) rest
  | .block depth, _ :: rest => dropSpace (.block depth) rest

/-! ## Identifiers -/

def isIdentifierStart (character : Char) : Bool :=
  if character.toNat < 0x80 then character.isAlpha || character = '_'
  else Unicode.identifierStart.containsChar character

def isIdentifierPart (character : Char) : Bool :=
  if character.toNat < 0x80 then character.isAlphanum || character = '_'
  else Unicode.identifierContinue.containsChar character

/-- Whether a character may stand in an identifier behind `r#`. -/
def isRawIdentifierPart (character : Char) : Bool :=
  isIdentifierPart character || character ∈ ['.', '+', '-']

/-- The starts of strings and octets, which look like identifiers. -/
def literalStarts : List (List Char) :=
  ["b\"".toList, "b'".toList, "br\"".toList, "br#\"".toList, "r\"".toList, "r#\"".toList,
    "r##".toList]

def readIdentifier? (text : List Char) : Option (List Char × List Char) :=
  if literalStarts.any (·.isPrefixOf text) then
    none
  else
    match text with
    | 'r' :: '#' :: rest =>
        let (name, behind) := rest.span isRawIdentifierPart
        if name.isEmpty then none else some (name, behind)
    | first :: _ =>
        if isIdentifierStart first then some (text.span isIdentifierPart) else none
    | [] => none

/-- What follows a word, if the text starts with it and it ends there. -/
def dropWord? (word text : List Char) : Option (List Char) :=
  if word.isPrefixOf text && !(text.drop word.length).head?.any isIdentifierPart then
    some (text.drop word.length)
  else
    none

/-! ## Escapes -/

/-- The character that a letter behind a backslash stands for. -/
def namedEscape? (letter : Char) : Option Char :=
  match letter with
  | 'n' => some '\n'
  | 't' => some '\t'
  | 'r' => some '\r'
  | '0' => some '\x00'
  | '\\' => some '\\'
  | '\'' => some '\''
  | '"' => some '"'
  | _ => none

def readOctet? : List Char → Option (Nat × List Char)
  | high :: low :: rest => (Text.hexOctet? high low).map (·, rest)
  | _ => none

/-- Reads `count` more octets of a character, each in an escape of its own. -/
def readOctets? : Nat → List Char → Option (List Nat × List Char)
  | 0, text => some ([], text)
  | count + 1, '\\' :: 'x' :: rest => do
      let (octet, rest) ← readOctet? rest
      let (octets, rest) ← readOctets? count rest
      some (octet :: octets, rest)
  | _ + 1, _ => none

/-- How many octets follow the first one of a character in UTF-8. -/
def followers? (octet : Nat) : Option Nat :=
  if octet < 0x80 then some 0
  else if 0xC2 ≤ octet && octet ≤ 0xDF then some 1
  else if 0xE0 ≤ octet && octet ≤ 0xEF then some 2
  else if 0xF0 ≤ octet && octet ≤ 0xF4 then some 3
  else none

/-- The single character that octets are in UTF-8. -/
def characterOfOctets? (octets : List Nat) : Option Char := do
  let text ← String.fromUTF8? ⟨(octets.map UInt8.ofNat).toArray⟩
  match text.toList with
  | [character] => some character
  | _ => none

/-- Reads an octet behind `\x`, with the octets that make up a character with
it. -/
def readOctetEscape? (text : List Char) : Option (Char × List Char) := do
  let (octet, rest) ← readOctet? text
  let (octets, rest) ← readOctets? (← followers? octet) rest
  some (← characterOfOctets? (octet :: octets), rest)

/-- The digits of a number behind `\u`, up to and with the closing brace. -/
def readNumberEscape? (text : List Char) : Option (Char × List Char) := do
  match text with
  | '\x7b' :: rest =>
      let digits := rest.takeWhile (· ≠ '\x7d')
      let values ← digits.mapM Text.hexValue?
      let number := values.foldl (fun number value => 16 * number + value) 0
      match rest.drop digits.length with
      | '\x7d' :: behind =>
          if digits.isEmpty || digits.length > 6 || !number.isValidChar then none
          else some (Char.ofNat number, behind)
      | _ => none
  | _ => none

/-- What the octets behind `\x` are. -/
inductive OctetEscapes
  /-- Characters in UTF-8. -/
  | characters
  /-- Octets on their own. -/
  | octets
  deriving DecidableEq, Repr

/-- Reads the character that stands for the escape behind a backslash.  An octet
on its own counts as the character with its number. -/
def readEscape? (kind : OctetEscapes) : List Char → Option (Char × List Char)
  | 'x' :: rest =>
      match kind with
      | .characters => readOctetEscape? rest
      | .octets => (readOctet? rest).map fun (octet, rest) => (Char.ofNat octet, rest)
  | 'u' :: rest => readNumberEscape? rest
  | letter :: rest => (namedEscape? letter).map (·, rest)
  | [] => none

/-! ## Strings -/

/-- White space that a backslash at the end of a line removes with the line end. -/
def isContinuationSpace (character : Char) : Bool :=
  character ∈ [' ', '\t', '\n', '\r']

/-- Drops the end of a line behind a backslash, and the white space that the
next line starts with. -/
def dropLineEnd? : List Char → Option (List Char)
  | '\n' :: rest | '\r' :: '\n' :: rest => some (rest.dropWhile isContinuationSpace)
  | _ => none

/-- Reads up to and with the closing quote; `fuel` bounds the number of
characters. -/
def readQuoted? (kind : OctetEscapes) : Nat → List Char → Option (List Char × List Char)
  | 0, _ => none
  | _, [] => none
  | _ + 1, '"' :: rest => some ([], rest)
  | fuel + 1, '\\' :: rest =>
      match dropLineEnd? rest with
      | some rest => readQuoted? kind fuel rest
      | none => do
          let (character, rest) ← readEscape? kind rest
          let (text, rest) ← readQuoted? kind fuel rest
          some (character :: text, rest)
  | fuel + 1, character :: rest => do
      let (text, rest) ← readQuoted? kind fuel rest
      some (character :: text, rest)

def readUntil? (closing : List Char) : List Char → Option (List Char × List Char)
  | [] => if closing.isEmpty then some ([], []) else none
  | character :: rest =>
      if closing.isPrefixOf (character :: rest) then
        some ([], (character :: rest).drop closing.length)
      else do
        let (text, behind) ← readUntil? closing rest
        some (character :: text, behind)

/-- Reads a string without escapes, behind its `r`: as many number signs as
stand before the opening quote follow the closing one. -/
def readRaw? (text : List Char) : Option (List Char × List Char) :=
  let signs := text.takeWhile (· = '#')
  match text.drop signs.length with
  | '"' :: rest => readUntil? ('"' :: signs) rest
  | _ => none

def readString? : List Char → Option (List Char × List Char)
  | '"' :: rest => readQuoted? .characters (rest.length + 1) rest
  | 'r' :: rest => readRaw? rest
  | _ => none

/-! ## Numbers -/

/-- A character of a whole number in any base. -/
def isIntegerPart (character : Char) : Bool :=
  Text.isHexDigit character || character = '_'

def basePrefixes : List (List Char × Nat) :=
  [(['0', 'b'], 2), (['0', 'o'], 8), (['0', 'x'], 16)]

/-- The value of digits in a base, where underscores do not count. -/
def digitsValue? (base : Nat) : Nat → List Char → Option Nat
  | value, [] => some value
  | value, '_' :: rest => digitsValue? base value rest
  | value, digit :: rest =>
      match Text.hexValue? digit with
      | some next => if next < base then digitsValue? base (base * value + next) rest else none
      | none => none

/-- Reads a whole number without its sign. -/
def readMagnitude? (text : List Char) : Option (Nat × List Char) :=
  let (base, rest) :=
    match basePrefixes.find? (·.1.isPrefixOf text) with
    | some (named, base) => (base, text.drop named.length)
    | none => (10, text)
  let (digits, behind) := rest.span isIntegerPart
  if digits.isEmpty || digits.head? = some '_' then none
  else (digitsValue? base 0 digits).map (·, behind)

/-- The type of whole numbers that a document may ask for. -/
def longSuffix : List Char :=
  "u64".toList

/-- The types that may be named behind a number: the greatest value of each
and how far below zero it reaches. -/
def numberSuffixes : List (List Char × Nat × Nat) :=
  [("i8".toList, 0x7F, 0x80), ("i16".toList, 0x7FFF, 0x8000),
   ("i32".toList, 0x7FFFFFFF, 0x80000000),
   ("i64".toList, 0x7FFFFFFFFFFFFFFF, 0x8000000000000000),
   ("u8".toList, 0xFF, 0), ("u16".toList, 0xFFFF, 0),
   ("u32".toList, 0xFFFFFFFF, 0), (longSuffix, 0xFFFFFFFFFFFFFFFF, 0)]

/-- A whole number as it is written: its sign, its value without it, and the
type that is named behind it. -/
structure WrittenInteger where
  negative : Bool
  value : Nat
  suffix : Option (List Char)
  deriving DecidableEq, Repr

/-- Reads the octet of a character of ASCII in single quotes, behind `b'`. -/
def readOctetLiteral? (text : List Char) : Option (Nat × List Char) := do
  let (octet, rest) ←
    match text with
    | '\\' :: 'x' :: rest => readOctet? rest
    | '\\' :: 'u' :: _ => none
    | '\\' :: letter :: rest => (namedEscape? letter).map fun named => (named.toNat, rest)
    | character :: rest => if character.toNat < 0x80 then some (character.toNat, rest) else none
    | [] => none
  match rest with
  | '\'' :: behind => some (octet, behind)
  | _ => none

/-- Reads a sign and says whether it is a minus. -/
def readSign : List Char → Bool × List Char
  | '-' :: rest => (true, rest)
  | '+' :: rest => (false, rest)
  | text => (false, text)

/-- Reads a whole number.  One that names its type must fit it. -/
def readInteger? (text : List Char) : Option (WrittenInteger × List Char) := do
  let (negative, rest) := readSign text
  let (value, behind) ← readMagnitude? rest
  let named := numberSuffixes.findSome? fun (suffix, limits) =>
    (dropWord? suffix behind).map fun rest => (suffix, limits, rest)
  match named with
  | none => some (⟨negative, value, none⟩, behind)
  | some (suffix, (greatest, least), rest) =>
      if value ≤ (if negative then least else greatest) then
        some (⟨negative, value, some suffix⟩, rest)
      else
        none

/-- Reads a whole number from zero to `greatest`, which names its type rightly
or not at all. -/
def readNat? (greatest : Nat) (text : List Char) : Option (Nat × List Char) := do
  let (written, rest) ← readInteger? text
  if written.value ≤ greatest && (!written.negative || written.value = 0) &&
      written.suffix.all (· = longSuffix) then
    some (written.value, rest)
  else
    none

/-- A character of a number with a fraction or an exponent. -/
def isDecimalPart (character : Char) : Bool :=
  character.isDigit || character ∈ ['e', 'E', '.', '+', '-', '_']

/-- The characters of a number with a fraction or an exponent that text starts
with.  Two points in a row are none of them. -/
def decimalPart : List Char → List Char
  | '.' :: '.' :: _ => []
  | character :: rest => if isDecimalPart character then character :: decimalPart rest else []
  | [] => []

def isExponent : List Char → Bool
  | [] => true
  | mark :: rest =>
      let (_, digits) := readSign rest
      (mark = 'e' || mark = 'E') && !digits.isEmpty && digits.all Char.isDigit

/-- Whether text is a decimal number: digits, of which a point may separate a
fraction, and perhaps an exponent. -/
def isDecimal (text : List Char) : Bool :=
  let (_, rest) := readSign text
  let (whole, rest) := rest.span Char.isDigit
  match rest with
  | '.' :: rest =>
      let (fraction, rest) := rest.span Char.isDigit
      !(whole.isEmpty && fraction.isEmpty) && isExponent rest
  | _ => !whole.isEmpty && isExponent rest

/-- Whether every underscore stands behind a digit or the mark of an exponent,
with at most underscores and signs between. -/
def underscoresAllowed : Bool → List Char → Bool
  | _, [] => true
  | allowed, '_' :: rest => allowed && underscoresAllowed allowed rest
  | allowed, character :: rest =>
      if character.isDigit || character = 'e' || character = 'E' then underscoresAllowed true rest
      else if character = '.' then underscoresAllowed false rest
      else underscoresAllowed allowed rest

/-- The words for numbers that have no digits. -/
def specialNumbers : List (List Char) :=
  ["inf".toList, "+inf".toList, "-inf".toList, "NaN".toList, "+NaN".toList, "-NaN".toList]

def decimalSuffixes : List (List Char) :=
  ["f32".toList, "f64".toList]

def dropDecimalSuffix (text : List Char) : List Char :=
  match decimalSuffixes.findSome? (dropWord? · text) with
  | some rest => rest
  | none => text

/-- Drops a number with a fraction, or one of the words for numbers. -/
def dropDecimal? (text : List Char) : Option (List Char) :=
  let special := specialNumbers.findSome? fun word =>
    match dropWord? word text with
    | some rest => some rest
    | none => decimalSuffixes.findSome? fun suffix => dropWord? (word ++ suffix) text
  match special with
  | some rest => some rest
  | none =>
      let number := decimalPart text
      let rest := text.drop number.length
      if underscoresAllowed false number && isDecimal (number.filter (· ≠ '_')) then
        some (dropDecimalSuffix rest)
      else
        none

/-- Whether a number goes on where a whole number would end. -/
def looksDecimal (text : List Char) : Bool :=
  let unsigned := (readSign text).2
  (decimalPart unsigned).length > (unsigned.takeWhile isIntegerPart).length

/-- The greatest whole number that is read as one; larger ones are numbers with
a fraction that happens to be zero. -/
def maxInteger : Nat :=
  0xFFFFFFFFFFFFFFFF

/-- The least whole number that is read as one, without its sign. -/
def maxNegative : Nat :=
  0x8000000000000000

def dropNumber? (text : List Char) : Option (List Char) :=
  match text with
  | 'b' :: '\'' :: rest => (readOctetLiteral? rest).map (·.2)
  | _ =>
      if looksDecimal text then
        dropDecimal? text
      else
        match readInteger? text with
        | some (written, rest) =>
            if written.value ≤ (if written.negative then maxNegative else maxInteger) then some rest
            else dropDecimal? text
        | none => dropDecimal? text

def isNumberStart (character : Char) : Bool :=
  character.isDigit || character ∈ ['+', '-', '.']

/-- Drops the end of a range behind its two points.  The end may be missing if it
does not belong to the range. -/
def dropRangeEnd? : List Char → Option (List Char)
  | '=' :: rest => dropNumber? rest
  | rest => if rest.head?.any isNumberStart then dropNumber? rest else some rest

/-- Drops a number, or a range with a start, an end, both or neither. -/
def dropRange? (text : List Char) : Option (List Char) := do
  let rest ←
    match text with
    | '.' :: '.' :: _ => some text
    | _ => dropNumber? text
  match rest with
  | '.' :: '.' :: rest => dropRangeEnd? rest
  | _ => some rest

/-- Drops a character in single quotes, behind the opening one.  Between these an
escaped octet is a character of its own. -/
def dropCharacter? (text : List Char) : Option (List Char) := do
  let rest ←
    match text with
    | '\\' :: 'x' :: rest => do
        let (octet, rest) ← readOctet? rest
        if octet < 0x80 then some rest else none
    | '\\' :: rest => (readEscape? .characters rest).map (·.2)
    | _ :: rest => some rest
    | [] => none
  match rest with
  | '\'' :: behind => some behind
  | _ => none

/-- Drops a string of octets, behind its `b`. -/
def dropOctets? : List Char → Option (List Char)
  | '"' :: rest => (readQuoted? .octets (rest.length + 1) rest).map (·.2)
  | 'r' :: rest => (readRaw? rest).map (·.2)
  | _ => none

end RecipientRewriting.Notation
