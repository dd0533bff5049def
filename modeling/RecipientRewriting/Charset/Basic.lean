import RecipientRewriting.Unicode.CodeSet

/-!
# Decoding octets

What the decoders of all charsets share.  Decoding never fails; what is no
character becomes the replacement character.
-/

namespace RecipientRewriting.Charset

open Unicode

/-- What stands for octets that are no character. -/
def replacement : Char :=
  Char.ofNat 0xFFFD

/-- The character with a number, or the replacement character. -/
def characterOf (number : Nat) : Char :=
  if number.isValidChar then Char.ofNat number else replacement

/-- Decodes octets that are characters by their own numbers. -/
def decodeLatin1 (octets : List UInt8) : List Char :=
  octets.map fun octet => Char.ofNat octet.toNat

def base64Value? (octet : UInt8) : Option Nat :=
  let character := Char.ofNat octet.toNat
  if character.isUpper then some (character.toNat - 'A'.toNat)
  else if character.isLower then some (character.toNat - 'a'.toNat + 26)
  else if character.isDigit then some (character.toNat - '0'.toNat + 52)
  else if character = '+' then some 62
  else if character = '/' then some 63
  else none

/-- What a decoder finds at an octet: characters, and how many of the octets
behind it belong to them. -/
structure Reading where
  characters : List Char
  taken : Nat
  deriving DecidableEq, Repr

namespace Reading

/-- One character that takes no further octet. -/
def single (character : Char) : Reading :=
  ⟨[character], 0⟩

def fault : Reading :=
  single replacement

end Reading

/-- Decodes octets with a decoder that carries a state. -/
def decodeFrom {State : Type} (read : State → UInt8 → List UInt8 → Reading × State) :
    State → List UInt8 → List Char
  | _, [] => []
  | state, octet :: rest =>
      let (reading, next) := read state octet rest
      reading.characters ++ decodeFrom read next (rest.drop reading.taken)
termination_by _ octets => octets.length
decreasing_by
  rw [List.length_drop, List.length_cons]
  omega

/-- Decodes octets with a decoder that looks at nothing but what lies ahead. -/
def decodeWith (read : UInt8 → List UInt8 → Reading) (octets : List UInt8) : List Char :=
  decodeFrom (fun _ octet rest => (read octet rest, ())) () octets

/-!
## Tables of code points

A charset of several octets numbers its characters by place.  Its table is
written in rows: the first place of the row, and the code points from there on,
where a range stands for consecutive ones and `FFFD` for a place without a
character.
-/

/-- The rows of a table in the order of their first places. -/
abbrev CodeTable := List (Nat × String)

/-- What stands in a table for a place without a character. -/
def unassigned : Nat :=
  0xFFFD

def codesOfRow (row : String) : List Nat :=
  (CodeSet.readTable row).flatMap fun (low, high) => List.range' low (high - low + 1)

def CodeTable.codes (table : CodeTable) : Array Nat :=
  table.foldl
    (fun codes (first, row) =>
      codes ++ Array.replicate (first - codes.size) unassigned ++ (codesOfRow row).toArray)
    #[]

def characterAt? (codes : Array Nat) (place : Nat) : Option Char :=
  match codes[place]? with
  | some code => if code = unassigned then none else some (Char.ofNat code)
  | none => none

end RecipientRewriting.Charset
