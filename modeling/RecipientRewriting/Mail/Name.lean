/-!
# Names of mails

A mail is named by a number of 128 bits, written as 26 digits in base 32
without the letters that look like others.  Names are drawn from a supply in
increasing order, so a copy always sorts behind the mail it was made from.
-/

namespace RecipientRewriting

structure MailName where
  bits : BitVec 128
  deriving DecidableEq, Repr, Inhabited

inductive MailNameFault
  /-- Not exactly as many octets as a name has digits. -/
  | length
  /-- A character that is no digit. -/
  | character
  deriving DecidableEq, Repr

def MailNameFault.message : MailNameFault → String
  | .length => "invalid length"
  | .character => "invalid character"

namespace MailName

def digits : List Char :=
  "0123456789ABCDEFGHJKMNPQRSTVWXYZ".toList

def length : Nat :=
  26

def digit (value : Nat) : Char :=
  digits.getD value '0'

/-- The last `count` digits of a number, most significant first. -/
def lastDigits : Nat → Nat → List Char
  | 0, _ => []
  | count + 1, number => lastDigits count (number / 32) ++ [digit (number % 32)]

def text (name : MailName) : String :=
  String.ofList (lastDigits length name.bits.toNat)

instance : ToString MailName :=
  ⟨text⟩

/-- The value of a digit in either case. -/
def value? (character : Char) : Option Nat :=
  digits.findIdx? (· = character.toUpper)

/-- Reads a name.  Only 128 bits are kept of the 130 that the digits hold. -/
def parse (text : String) : Except MailNameFault MailName :=
  if text.utf8ByteSize ≠ length then
    .error .length
  else
    match text.toList.mapM value? with
    | none => .error .character
    | some values =>
        .ok ⟨BitVec.ofNat 128 (values.foldl (fun number value => 32 * number + value) 0)⟩

instance : Ord MailName :=
  ⟨fun left right => compare left.bits.toNat right.bits.toNat⟩

end MailName

structure NameSupply where
  next : BitVec 128
  deriving DecidableEq, Repr

def NameSupply.draw (supply : NameSupply) : MailName × NameSupply :=
  (⟨supply.next⟩, ⟨supply.next + 1⟩)

end RecipientRewriting
