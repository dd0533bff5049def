import RecipientRewriting.Unicode.Query

/-!
# Quoted text

Text between double quotes, with a backslash in front of what could not stand
there as it is.  The configuration notation escapes both quotes, a listing in
an audit event the double quote alone; apart from that the two are the same.
-/

namespace RecipientRewriting.Text

/-- A character by its number, in braces. -/
def escapeNumber (character : Char) : List Char :=
  "\\u\x7b".toList ++ Nat.toDigits 16 character.toNat ++ ['\x7d']

def isShown (character : Char) : Bool :=
  if character.toNat < 0x7F then 0x20 ≤ character.toNat
  else !Unicode.attachedMarks.containsChar character && !Unicode.invisible.containsChar character

/-- What stands for `character` between quotes; `single` says whether a single
quote is escaped too. -/
def escapeChar (single : Bool) (character : Char) : List Char :=
  if character = '\x00' then ['\\', '0']
  else if character = '\t' then ['\\', 't']
  else if character = '\n' then ['\\', 'n']
  else if character = '\r' then ['\\', 'r']
  else if character = '"' || character = '\\' || (single && character = '\'') then
    ['\\', character]
  else if isShown character then [character]
  else escapeNumber character

def quoteChars (single : Bool) (text : List Char) : List Char :=
  '"' :: text.flatMap (escapeChar single) ++ ['"']

/-- A string of the configuration notation. -/
def quote (text : String) : String :=
  String.ofList (quoteChars true text.toList)

/-- A string in a listing. -/
def quoteForListing (text : String) : String :=
  String.ofList (quoteChars false text.toList)

def listing (texts : List String) : String :=
  "[" ++ ", ".intercalate (texts.map quoteForListing) ++ "]"

end RecipientRewriting.Text
