import RecipientRewriting.Unicode.Age
import RecipientRewriting.Unicode.Boundary
import RecipientRewriting.Unicode.CaseFolding
import RecipientRewriting.Unicode.GeneralCategory
import RecipientRewriting.Unicode.Property
import RecipientRewriting.Unicode.Script

/-!
# Looking up properties of characters

Finds the set that a property name stands for, closes a set under case
variants, and names the classes of characters that the rest of the library
asks for.
-/

namespace RecipientRewriting.Unicode

/-! ## Names -/

/-- A name as the tables spell it: in lower case, without blanks, hyphens,
underscores and characters outside ASCII, and without `is` in front.  The
abbreviation `isc` keeps its first letters, since `c` means something else. -/
def looseName (name : String) : String :=
  let kept := (name.toList.filter fun character =>
    character.toNat < 0x80 && character ∉ [' ', '_', '-']).map Char.toLower
  match name.toList.map Char.toLower, kept with
  | 'i' :: 's' :: _, ['i', 's', 'c'] => "isc"
  | 'i' :: 's' :: _, 'i' :: 's' :: rest => String.ofList rest
  | _, _ => String.ofList kept

/-- The set listed under `name`, which is spelled as in the tables. -/
def findTable (tables : List (List String × String)) (name : String) : Option CodeSet :=
  (tables.find? fun entry => entry.1.contains name).map fun entry => CodeSet.ofTable entry.2

/-- The code points of a general category, where `any`, `assigned` and `ascii`
count as categories. -/
def category? (name : String) : Option CodeSet :=
  if name = "any" then some .all
  else if name = "ascii" then some (.range 0 0x7F)
  else if name = "assigned" then (findTable generalCategories "cn").map .complement
  else findTable generalCategories name

/-- Abbreviations that mean a general category although a property shares them. -/
def categoryAbbreviations : List String :=
  ["cf", "sc", "lc"]

/-- The set that a single name stands for: a binary property, a general
category or a script, in this order. -/
def named? (name : String) : Option CodeSet :=
  let loose := looseName name
  let asProperty :=
    if categoryAbbreviations.contains loose then none else findTable properties loose
  asProperty <|> category? loose <|> findTable scripts loose

/-- The entries of a list up to the first that has a property, if there is one. -/
def upTo? {Entry : Type} (wanted : Entry → Bool) : List Entry → Option (List Entry)
  | [] => none
  | entry :: entries =>
      if wanted entry then some [entry] else (upTo? wanted entries).map (entry :: ·)

def age? (name : String) : Option CodeSet :=
  (upTo? (·.1.contains name) ages).map fun entries =>
    .ofRanges (entries.flatMap fun entry => CodeSet.readTable entry.2)

/-- What the properties with values mean, each under its names. -/
def valuedProperties : List (List String × (String → Option CodeSet)) :=
  [(["gc", "generalcategory"], category?),
    (["sc", "script"], findTable scripts),
    (["scx", "scriptextensions"], findTable scriptExtensions),
    (["age"], age?),
    (["gcb", "graphemeclusterbreak"], findTable graphemeBreaks),
    (["wb", "wordbreak"], findTable wordBreaks),
    (["sb", "sentencebreak"], findTable sentenceBreaks)]

def valued? (property value : String) : Option CodeSet := do
  let loose := looseName property
  let (_, lookUp) ← valuedProperties.find? (·.1.contains loose)
  lookUp (looseName value)

/-! ## Classes -/

/-- The set listed for a name that the tables are known to hold. -/
def tableOf (tables : List (List String × String)) (name : String) : CodeSet :=
  (findTable tables name).getD .empty

def decimalDigits : CodeSet :=
  tableOf generalCategories "nd"

def whiteSpace : CodeSet :=
  tableOf properties "whitespace"

/-- The characters of words: letters, marks, decimal digits, connecting
punctuation and the two join controls. -/
def wordCharacters : CodeSet :=
  (tableOf properties "alphabetic").union <| (tableOf generalCategories "m").union <|
    decimalDigits.union <| (tableOf generalCategories "pc").union (tableOf properties "joincontrol")

/-- The letters in the widest sense. -/
def alphabetic : CodeSet :=
  (tableOf properties "alphabetic").union (tableOf additions "alphabetic")

def alphanumeric : CodeSet :=
  alphabetic.union <| (tableOf generalCategories "n").union (tableOf additions "n")

def identifierStart : CodeSet :=
  (tableOf properties "xids").union (tableOf additions "xidstart")

def identifierContinue : CodeSet :=
  (tableOf properties "xidc").union (tableOf additions "xidcontinue")

/-- The marks that attach to the character in front of them, without the two
marks of half width, which have a width of their own. -/
def attachedMarks : CodeSet :=
  ((tableOf properties "graphemeextend").union (tableOf additions "graphemeextend")).diff
    (.range 0xFF9E 0xFF9F)

/-- The characters without a visible form of their own, the plain space apart:
those of the categories for control and separation, and those that are shown as
nothing at all. -/
def invisible : CodeSet :=
  let unprintable := (tableOf generalCategories "c").union (tableOf generalCategories "z")
  ((unprintable.diff (tableOf additions "assigned")).union
    (tableOf properties "defaultignorablecodepoint")).diff (.single 0x20)

/-! ## Case variants -/

/-- What has been read of the list of case variants: the finished groups, the
current group and the current number. -/
structure VariantState where
  groups : List (List Nat)
  group : List Nat
  number : Option Nat

def VariantState.closeNumber (state : VariantState) : List Nat :=
  state.number.toList ++ state.group

def VariantState.closeGroup (state : VariantState) : List (List Nat) :=
  match state.closeNumber with
  | [] => state.groups
  | group => group :: state.groups

/-- Reads one character of the list of case variants, where blanks and line
ends separate groups. -/
def VariantState.step (state : VariantState) (character : Char) : VariantState :=
  if character = '-' then
    ⟨state.groups, state.closeNumber, none⟩
  else if character = ' ' || character = '\n' then
    ⟨state.closeGroup, [], none⟩
  else
    { state with number := some (16 * state.number.getD 0 + CodeSet.digitValue character) }

def variantGroups : List (List Nat) :=
  (caseVariants.toList.foldl VariantState.step ⟨[], [], none⟩).closeGroup

def CodeSet.withVariants (set : CodeSet) : CodeSet :=
  let added := variantGroups.filter fun group => group.any set.contains
  .ofRanges (set.ranges ++ added.flatten.map fun code => (code, code))

/-- The set with both cases of its letters of ASCII. -/
def CodeSet.withAsciiVariants (set : CodeSet) : CodeSet :=
  let upper := set.inter (.range 0x41 0x5A)
  let lower := set.inter (.range 0x61 0x7A)
  .ofRanges (set.ranges ++ upper.ranges.map (fun (low, high) => (low + 32, high + 32)) ++
    lower.ranges.map (fun (low, high) => (low - 32, high - 32)))

end RecipientRewriting.Unicode
