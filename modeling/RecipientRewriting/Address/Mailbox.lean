import RecipientRewriting.Text.Basic

/-!
# The mailbox grammar

Reads `local-part@domain`, optionally in angle brackets, and hands both halves
back as written.  The `@` is found first, by a scan that skips quoted strings
and address literals; then each half is checked against its own grammar, and
the first violation met is the answer.
-/

namespace RecipientRewriting

/-! ## Why a text is not a mailbox address -/

/-- The first violation of the mailbox grammar found in a text. -/
inductive AddressError
  /-- Nothing but white space. -/
  | empty
  /-- The local part has too many octets. -/
  | localPartTooLong
  /-- The domain has too many octets. -/
  | domainTooLong
  /-- An opening angle bracket is never closed. -/
  | missingCloseBracket
  /-- No `@` outside quotes and brackets. -/
  | missingAtSign
  /-- Nothing in front of the `@`. -/
  | emptyLocalPart
  /-- Two dots in a row, or a dot at either end of the local part. -/
  | emptyAtom (localPart : String)
  /-- A character that no atom may hold. -/
  | atomCharacter (character : Char)
  /-- Nothing behind the `@`. -/
  | emptyDomain
  /-- A label that is empty or has a hyphen or worse at either end. -/
  | labelBoundary (label : String)
  /-- A character that no label may hold. -/
  | labelCharacter (character : Char) (label : String)
  /-- Brackets around something that is no address literal. -/
  | addressLiteral (text : String)
  /-- A quoted string without its closing quote. -/
  | unclosedQuotedString
  /-- A backslash in front of a character that needs none. -/
  | quotedPair (character : Char)
  /-- A character that a quoted string may only hold behind a backslash, or not
  at all. -/
  | quotedCharacter (character : Char)
  deriving DecidableEq, Repr

namespace AddressError

def message : AddressError → String
  | empty => "Empty address"
  | localPartTooLong => "Local-part exceeds 64 octets"
  | domainTooLong => "Domain exceeds 255 octets"
  | missingCloseBracket => "Missing closing angle bracket '>'"
  | missingAtSign => "Missing '@' separator"
  | emptyLocalPart => "Invalid local-part: empty local part"
  | emptyAtom localPart => "Invalid local-part: empty atom in '" ++ localPart ++ "'"
  | atomCharacter character =>
      "Invalid local-part: invalid character '" ++ character.toString ++ "'"
  | emptyDomain => "Invalid domain: empty domain"
  | labelBoundary label =>
      "Invalid domain: label '" ++ label ++ "' must start and end with a letter or digit"
  | labelCharacter character label =>
      "Invalid domain: invalid character '" ++ character.toString ++ "' in '" ++ label ++ "'"
  | addressLiteral text => "Invalid address literal: " ++ text
  | unclosedQuotedString => "Unclosed quoted string"
  | quotedPair character =>
      "Invalid quoted string: invalid quoted pair '\\" ++ character.toString ++ "'"
  | quotedCharacter character =>
      "Invalid quoted string: invalid character '" ++ character.toString ++ "'"

end AddressError

open Text

namespace NetworkLiteral

/-!
## Network addresses in text form

The two notations an address literal may use: four decimal numbers for IPv4,
and eight groups of hexadecimal digits for IPv6, where one run of zero groups
may be written `::` and the last two groups as an IPv4 address.
-/

/-- A number from 0 to 255 without leading zeros. -/
def isDecimalOctet (text : List Char) : Bool :=
  !text.isEmpty && text.length ≤ 3 && text.all Char.isDigit && decimalValue text ≤ 255 &&
    (text.length = 1 || text.head? ≠ some '0')

/-- Four decimal octets joined by dots. -/
def isIPv4 (text : List Char) : Bool :=
  let fields := splitOn '.' text
  fields.length = 4 && fields.all isDecimalOctet

/-- One to four hexadecimal digits. -/
def isGroup (text : List Char) : Bool :=
  !text.isEmpty && text.length ≤ 4 && text.all isHexDigit

/-- How many groups `fields` stand for, where the last field may be an IPv4
address, worth two, if `dotted` allows it. -/
def countGroups? (dotted : Bool) : List (List Char) → Option Nat
  | [] => some 0
  | [field] =>
      if isGroup field then some 1 else if dotted && isIPv4 field then some 2 else none
  | field :: rest =>
      if isGroup field then (countGroups? dotted rest).map (· + 1) else none

/-- How many groups `text` holds between its colons; none if it is empty. -/
def groupsOf? (dotted : Bool) (text : List Char) : Option Nat :=
  if text.isEmpty then some 0 else countGroups? dotted (splitOn ':' text)

/-- What stands before and behind the first `::`. -/
def cutElision : List Char → Option (List Char × List Char)
  | ':' :: ':' :: rest => some ([], rest)
  | character :: rest =>
      (cutElision rest).map fun (before, behind) => (character :: before, behind)
  | [] => none

/-- Eight groups, or fewer with one `::` for at least one omitted group. -/
def isIPv6 (text : List Char) : Bool :=
  match cutElision text with
  | none => groupsOf? true text = some 8
  | some (before, behind) =>
      match groupsOf? false before, groupsOf? true behind with
      | some front, some back => front + back ≤ 7
      | _, _ => false

end NetworkLiteral

namespace Mailbox

/-! ## Character classes -/

/-- A letter or digit of ASCII. -/
def isLetDig (character : Char) : Bool :=
  character.isAlphanum

def isAtomText (character : Char) : Bool :=
  isLetDig character || character ∈ "!#$%&'*+-/=?^_\x60\x7b|\x7d~".toList

/-- A visible character of ASCII. -/
def isGraphic (character : Char) : Bool :=
  '!' ≤ character && character ≤ '~'

/-- What may follow a backslash in a quoted string. -/
def isQuotable (character : Char) : Bool :=
  isGraphic character || character = ' '

/-- What a quoted string may hold without a backslash. -/
def isQuotedText (character : Char) : Bool :=
  isQuotable character && character ≠ '"' && character ≠ '\\'

def isLabelText (character : Char) : Bool :=
  isLetDig character || character = '-'

/-! ## Finding the separator -/

/-- What the scan for the separator has seen so far. -/
structure Scan where
  inQuotes : Bool
  inBrackets : Bool
  escaped : Bool
  deriving DecidableEq, Repr

def Scan.start : Scan :=
  ⟨false, false, false⟩

/-- The scan after one more character.  A quote toggles quoting unless it is
escaped or inside brackets, brackets count outside quotes only, and a
backslash escapes the next character unless it is escaped itself. -/
def Scan.step (scan : Scan) (character : Char) : Scan where
  inQuotes :=
    if character = '"' && !scan.escaped && !scan.inBrackets then !scan.inQuotes
    else scan.inQuotes
  inBrackets :=
    if character = '[' && !scan.inQuotes then true
    else if character = ']' && !scan.inQuotes then false
    else scan.inBrackets
  escaped := character = '\\' && !scan.escaped

def Scan.separates (scan : Scan) (character : Char) : Bool :=
  character = '@' && !scan.inQuotes && !scan.inBrackets

def cutSeparator (scan : Scan) : List Char → Option (List Char × List Char)
  | [] => none
  | character :: rest =>
      if scan.separates character then
        some ([], rest)
      else
        (cutSeparator (scan.step character) rest).map
          fun (before, behind) => (character :: before, behind)

/-! ## Local parts -/

/-- The longest local part, in octets. -/
def maxLocalPart : Nat :=
  64

/-- The longest domain, in octets. -/
def maxDomain : Nat :=
  255

def checkAtom (whole atom : List Char) : Except AddressError Unit :=
  if atom.isEmpty then
    .error (.emptyAtom (String.ofList whole))
  else
    match atom.find? (!isAtomText ·) with
    | some character => .error (.atomCharacter character)
    | none => .ok ()

/-- Checks that `text` is a sequence of atoms joined by dots. -/
def checkDotString (text : List Char) : Except AddressError Unit :=
  if text.isEmpty then .error .emptyLocalPart else (splitOn '.' text).forM (checkAtom text)

/-- Checks what stands between the quotes of a quoted string. -/
def checkQuotedContent : List Char → Except AddressError Unit
  | [] => .ok ()
  | '\\' :: [] => .error .unclosedQuotedString
  | '\\' :: character :: rest =>
      if isQuotable character then checkQuotedContent rest else .error (.quotedPair character)
  | character :: rest =>
      if isQuotedText character then checkQuotedContent rest
      else .error (.quotedCharacter character)

/-- Checks that `text`, which starts with a quote, is a quoted string. -/
def checkQuotedString (text : List Char) : Except AddressError Unit :=
  match (dropInitial? ['"'] text).bind (dropLast? '"') with
  | some content => checkQuotedContent content
  | none => .error .unclosedQuotedString

def checkLocalPart (text : List Char) : Except AddressError Unit :=
  if text.head? = some '"' then checkQuotedString text else checkDotString text

/-! ## Domains -/

def checkLabel (label : List Char) : Except AddressError Unit :=
  if label.head?.any isLetDig && label.getLast?.any isLetDig then
    match label.find? (!isLabelText ·) with
    | some character => .error (.labelCharacter character (String.ofList label))
    | none => .ok ()
  else
    .error (.labelBoundary (String.ofList label))

/-- Checks that `text` is a sequence of labels joined by dots. -/
def checkDomainName (text : List Char) : Except AddressError Unit :=
  if text.isEmpty then .error .emptyDomain else (splitOn '.' text).forM checkLabel

/-- The form of literals for other networks: a tag and a value around the
first colon, neither of them empty. -/
def isGeneralLiteral (content : List Char) : Bool :=
  match cutFirst ':' content with
  | some (tag, value) => !tag.isEmpty && !value.isEmpty
  | none => false

/-- What may stand between the brackets of an address literal. -/
def isLiteralContent (content : List Char) : Bool :=
  NetworkLiteral.isIPv4 content ||
    (dropInitial? "IPv6:".toList content).any NetworkLiteral.isIPv6 ||
    isGeneralLiteral content

/-- Checks that `text`, which starts with a bracket, is an address literal. -/
def checkAddressLiteral (text : List Char) : Except AddressError Unit :=
  match (dropInitial? ['['] text).bind (dropLast? ']') with
  | some content =>
      if isLiteralContent content then .ok ()
      else .error (.addressLiteral (String.ofList content))
  | none => .error (.addressLiteral (String.ofList text))

def checkDomain (text : List Char) : Except AddressError Unit :=
  if text.head? = some '[' then checkAddressLiteral text else checkDomainName text

/-! ## Whole mailboxes -/

/-- Takes off one pair of angle brackets.  An opening bracket needs a closing
one at the very end. -/
def unwrap (text : List Char) : Except AddressError (List Char) :=
  match dropInitial? ['<'] text with
  | none => .ok text
  | some rest =>
      match dropLast? '>' rest with
      | some inner => .ok inner
      | none => .error .missingCloseBracket

/-- Checks the lengths of both halves, then the halves themselves. -/
def checkHalves (localPart domain : List Char) : Except AddressError Unit := do
  if octets localPart > maxLocalPart then
    throw .localPartTooLong
  if octets domain > maxDomain then
    throw .domainTooLong
  checkLocalPart localPart
  checkDomain domain

/-- Reads a mailbox that neither white space nor angle brackets surround. -/
def parseBare (text : List Char) : Except AddressError (List Char × List Char) :=
  match cutSeparator .start text with
  | none => .error .missingAtSign
  | some (localPart, domain) => (checkHalves localPart domain).map fun _ => (localPart, domain)

/-- Reads a mailbox into its local part and domain, both as written. -/
def parseChars (text : List Char) : Except AddressError (List Char × List Char) :=
  let trimmed := trimBlanks text
  if trimmed.isEmpty then .error .empty else unwrap trimmed >>= parseBare

def parse (text : String) : Except AddressError (String × String) :=
  (parseChars text.toList).map fun (localPart, domain) =>
    (String.ofList localPart, String.ofList domain)

end Mailbox

end RecipientRewriting
