import RecipientRewriting.Text.Quoted

/-!
# Writing the configuration notation

Configurations, reports and recorded recipients are written in one notation:
records in parentheses, lists in brackets, maps in braces, and `Some(…)` around
an optional value that is present.  The compact form has no white space at all;
the spread form gives every member a line of its own.
-/

namespace RecipientRewriting.Notation

open Text

/-- A value ready to be written. -/
inductive Document
  /-- A word or a number. -/
  | word (text : String)
  /-- A string, in quotes. -/
  | string (text : String)
  /-- An optional value that is present. -/
  | present (value : Document)
  /-- A list. -/
  | list (items : List Document)
  /-- A map from keys to values. -/
  | map (entries : List (Document × Document))
  /-- A record with named fields. -/
  | record (fields : List (String × Document))
  deriving Repr, Inhabited

namespace Document

def bool (value : Bool) : Document :=
  word (if value then "true" else "false")

def nat (value : Nat) : Document :=
  word (toString value)

def option (value : Option Document) : Document :=
  match value with
  | some value => present value
  | none => word "None"

/-! ## Compact form -/

mutual

def compact : Document → List Char
  | word text => text.toList
  | string text => quoteChars true text.toList
  | present value => "Some(".toList ++ compact value ++ [')']
  | list items => '[' :: compactItems items ++ [']']
  | map entries => '\x7b' :: compactEntries entries ++ ['\x7d']
  | record fields => '(' :: compactFields fields ++ [')']

def compactItems : List Document → List Char
  | [] => []
  | [item] => compact item
  | item :: rest => compact item ++ ',' :: compactItems rest

def compactEntries : List (Document × Document) → List Char
  | [] => []
  | [(key, value)] => compact key ++ ':' :: compact value
  | (key, value) :: rest => compact key ++ ':' :: compact value ++ ',' :: compactEntries rest

def compactFields : List (String × Document) → List Char
  | [] => []
  | [(name, value)] => name.toList ++ ':' :: compact value
  | (name, value) :: rest =>
      name.toList ++ ':' :: compact value ++ ',' :: compactFields rest

end

def toCompact (document : Document) : String :=
  String.ofList document.compact

/-! ## Spread form -/

/-- How far a member stands behind the start of what it is a member of. -/
def indentWidth : Nat :=
  4

/-- A line of its own for one member at a level of nesting. -/
def memberLine (level : Nat) (text : List Char) : List Char :=
  List.replicate (indentWidth * level) ' ' ++ text ++ [',', '\n']

/-- Puts lines of members between two delimiters, which close up if there are
none. -/
def enclose (level : Nat) (opening closing : Char) (members : List Char) : List Char :=
  if members.isEmpty then
    [opening, closing]
  else
    opening :: '\n' :: members ++ List.replicate (indentWidth * level) ' ' ++ [closing]

mutual

/-- The spread form of a value whose first line stands at a level of nesting. -/
def spread (level : Nat) : Document → List Char
  | word text => text.toList
  | string text => quoteChars true text.toList
  | present value => "Some(".toList ++ spread level value ++ [')']
  | list items => enclose level '[' ']' (spreadItems level items)
  | map entries => enclose level '\x7b' '\x7d' (spreadEntries level entries)
  | record fields => enclose level '(' ')' (spreadFields level fields)

/-- The items of a list, each on a line of its own. -/
def spreadItems (level : Nat) : List Document → List Char
  | [] => []
  | item :: rest => memberLine (level + 1) (spread (level + 1) item) ++ spreadItems level rest

def spreadEntries (level : Nat) : List (Document × Document) → List Char
  | [] => []
  | (key, value) :: rest =>
      memberLine (level + 1)
          (spread (level + 1) key ++ [':', ' '] ++ spread (level + 1) value) ++
        spreadEntries level rest

def spreadFields (level : Nat) : List (String × Document) → List Char
  | [] => []
  | (name, value) :: rest =>
      memberLine (level + 1) (name.toList ++ [':', ' '] ++ spread (level + 1) value) ++
        spreadFields level rest

end

def toSpread (document : Document) : String :=
  String.ofList (document.spread 0)

end Document

end RecipientRewriting.Notation
