import RecipientRewriting.Charset.Basic
import RecipientRewriting.Text.Basic

/-!
# Encodings of octets as text

The two encodings that an encoded word in a header may use: base 64, and text
in which an equals sign and two hexadecimal digits stand for an octet.
-/

namespace RecipientRewriting.TransferEncoding

open Text

def toOctets (text : List Char) : List UInt8 :=
  (String.ofList text).toUTF8.toList

/-! ## Base 64 -/

/-- The octets of one block of four digits, of which the last or the last two
may be padding. -/
def decodeBlock (block : List (Option Nat)) : Option (List UInt8) :=
  match block with
  | [some first, some second, some third, some fourth] =>
      let bits := ((first * 64 + second) * 64 + third) * 64 + fourth
      some [.ofNat (bits / 65536), .ofNat (bits / 256), .ofNat bits]
  | [some first, some second, some third, none] =>
      let bits := (first * 64 + second) * 64 + third
      some [.ofNat (bits / 1024), .ofNat (bits / 4)]
  | [some first, some second, none, none] =>
      some [.ofNat ((first * 64 + second) / 16)]
  | _ => none

/-- The octets of blocks of four digits, where `none` is a padding sign. -/
def decodeBlocks : List (Option Nat) → Option (List UInt8)
  | [] => some []
  | first :: second :: third :: fourth :: rest => do
      let block ← decodeBlock [first, second, third, fourth]
      let others ← decodeBlocks rest
      some (block ++ others)
  | _ => none

/-- A digit in base 64 or a padding sign. -/
def readDigit (octet : UInt8) : Option (Option Nat) :=
  if octet = 0x3D then some none else (Charset.base64Value? octet).map some

/-- Decodes base 64.  Line ends do not count, and all other white space is an
error. -/
def decodeBase64 (text : List Char) : Option (List UInt8) := do
  let kept := (toOctets text).filter fun octet => octet ∉ [0x0D, 0x0A]
  decodeBlocks (← kept.mapM readDigit)

/-! ## Escaped octets -/

/-- Whether a character may stand in escaped text; others are dropped. -/
def isEscapedText (character : Char) : Bool :=
  character ∈ ['\t', '\r', '\n'] || (' ' ≤ character && character ≤ '~')

/-- Decodes the escapes of one line.  An equals sign at its end continues the
line, and one that starts no escape stands for itself, with what would be the
digits of the escape. -/
def decodeEscapes : List Char → List UInt8
  | [] => []
  | ['='] => []
  | ['=', high] => toOctets ['=', high]
  | '=' :: high :: low :: rest =>
      match hexOctet? high low with
      | some octet => .ofNat octet :: decodeEscapes rest
      | none => toOctets ['=', high, low] ++ decodeEscapes rest
  | character :: rest => toOctets [character] ++ decodeEscapes rest

/-- Decodes the escaped text of an encoded word, in which an underscore stands
for a space.  White space at the end is kept. -/
def decodeQuoted (text : List Char) : List UInt8 :=
  let spaced := text.map fun character => if character = '_' then ' ' else character
  let trimmed := dropBlanksEnd spaced
  decodeEscapes (dropBlanksEnd (trimmed.filter isEscapedText)) ++
    toOctets (spaced.drop trimmed.length)

end RecipientRewriting.TransferEncoding
