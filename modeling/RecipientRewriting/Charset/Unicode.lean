import RecipientRewriting.Charset.Basic

/-!
# The encodings of Unicode

Decodes the encodings of 8 and 16 bits, and the 7-bit encoding for mail.
-/

namespace RecipientRewriting.Charset

/-! ## UTF-8 -/

/-- What is expected of the octets that continue a character: how many are
missing, the bits so far, and the bounds of the next octet. -/
structure Continuation where
  missing : Nat
  bits : Nat
  low : Nat
  high : Nat
  deriving DecidableEq, Repr

/-- What an octet at the start of a character announces: a whole character, a
continuation, or nothing valid.  The bounds exclude overlong forms, surrogates
and numbers beyond the last character. -/
def startUtf8 (octet : Nat) : Except Continuation (Option Char) :=
  if octet < 0x80 then .ok (some (Char.ofNat octet))
  else if 0xC2 ≤ octet && octet ≤ 0xDF then .error ⟨1, octet - 0xC0, 0x80, 0xBF⟩
  else if octet = 0xE0 then .error ⟨2, 0, 0xA0, 0xBF⟩
  else if octet = 0xED then .error ⟨2, 0xD, 0x80, 0x9F⟩
  else if 0xE1 ≤ octet && octet ≤ 0xEF then .error ⟨2, octet - 0xE0, 0x80, 0xBF⟩
  else if octet = 0xF0 then .error ⟨3, 0, 0x90, 0xBF⟩
  else if 0xF1 ≤ octet && octet ≤ 0xF3 then .error ⟨3, octet - 0xF0, 0x80, 0xBF⟩
  else if octet = 0xF4 then .error ⟨3, 4, 0x80, 0x8F⟩
  else .ok none

/-- The state of a decoder: the characters so far, latest first, whether any
octets were invalid, and an unfinished character. -/
structure Utf8State where
  decoded : List Char
  faulty : Bool
  pending : Option Continuation

def Utf8State.start (state : Utf8State) (octet : Nat) : Utf8State :=
  match startUtf8 octet with
  | .ok (some character) => ⟨character :: state.decoded, state.faulty, none⟩
  | .ok none => ⟨replacement :: state.decoded, true, none⟩
  | .error continuation => ⟨state.decoded, state.faulty, some continuation⟩

/-- Decodes one more octet.  An octet that cannot continue the character before
it ends that character and starts the next. -/
def Utf8State.step (state : Utf8State) (octet : UInt8) : Utf8State :=
  let octet := octet.toNat
  match state.pending with
  | none => state.start octet
  | some continuation =>
      if continuation.low ≤ octet && octet ≤ continuation.high then
        let bits := 64 * continuation.bits + (octet - 0x80)
        if continuation.missing = 1 then
          ⟨characterOf bits :: state.decoded, state.faulty, none⟩
        else
          ⟨state.decoded, state.faulty, some ⟨continuation.missing - 1, bits, 0x80, 0xBF⟩⟩
      else
        Utf8State.start ⟨replacement :: state.decoded, true, none⟩ octet

/-- Decodes UTF-8 and says whether all of it was valid. -/
def decodeUtf8 (octets : List UInt8) : List Char × Bool :=
  let state := octets.foldl Utf8State.step ⟨[], false, none⟩
  match state.pending with
  | none => (state.decoded.reverse, !state.faulty)
  | some _ => ((replacement :: state.decoded).reverse, false)

/-- Text that is valid UTF-8, or else one character per octet. -/
def decodeEither (octets : List UInt8) : List Char :=
  match decodeUtf8 octets with
  | (text, true) => text
  | (_, false) => decodeLatin1 octets

/-! ## UTF-16 -/

/-- Whether a unit of 16 bits is the first half of a character. -/
def isHighSurrogate (unit : Nat) : Bool :=
  0xD800 ≤ unit && unit ≤ 0xDBFF

/-- Whether a unit of 16 bits is the second half of a character. -/
def isLowSurrogate (unit : Nat) : Bool :=
  0xDC00 ≤ unit && unit ≤ 0xDFFF

/-- Characters from units of 16 bits, behind which an octet may be left over.
Half a character without the other half is none, and neither is an octet
without the other; at the end both together count as one fault. -/
def decodeUnits (oddOctet : Bool) : List Nat → List Char
  | [] => if oddOctet then [replacement] else []
  | [unit] =>
      characterOf unit :: (if oddOctet && !isHighSurrogate unit then [replacement] else [])
  | high :: low :: rest =>
      if isHighSurrogate high && isLowSurrogate low then
        characterOf (0x10000 + 0x400 * (high - 0xD800) + (low - 0xDC00)) ::
          decodeUnits oddOctet rest
      else
        characterOf high :: decodeUnits oddOctet (low :: rest)

/-- Units of 16 bits from octets, and whether an octet was left over. -/
def pairOctets (bigEndian : Bool) : List UInt8 → List Nat × Bool
  | [] => ([], false)
  | [_] => ([], true)
  | first :: second :: rest =>
      let (units, odd) := pairOctets bigEndian rest
      let unit :=
        if bigEndian then 256 * first.toNat + second.toNat
        else first.toNat + 256 * second.toNat
      (unit :: units, odd)

/-- Decodes UTF-16 in one of its byte orders. -/
def decodeUtf16 (bigEndian : Bool) (octets : List UInt8) : List Char :=
  let (units, odd) := pairOctets bigEndian octets
  decodeUnits odd units

/-! ## UTF-7 -/

/-- The octets in a row of digits in base 64, and whether bits are left over
that are not all zero. -/
def octetsOfDigits (digits : List Nat) : List UInt8 × Bool :=
  let step := fun (state : List UInt8 × Nat × Nat) digit =>
    let (octets, bits, count) := state
    let bits := 64 * bits + digit
    let count := count + 6
    if count ≥ 8 then
      let left := count - 8
      (.ofNat (bits >>> left) :: octets, bits % (1 <<< left), left)
    else
      (octets, bits, count)
  let (octets, bits, _) := digits.foldl step ([], 0, 0)
  (octets.reverse, bits ≠ 0)

/-- Whether a row of digits is whole: no digit stands alone behind groups of
four, and no bits but zeros are left over. -/
def isWholeRow (digits : List Nat) : Bool :=
  digits.length % 4 ≠ 1 && !(octetsOfDigits digits).2

/-- The longest whole row that a row of digits starts with; `fuel` bounds the
number of digits to leave out. -/
def wholeRow : Nat → List Nat → List Nat
  | 0, digits => digits
  | fuel + 1, digits => if isWholeRow digits then digits else wholeRow fuel digits.dropLast

/-- The characters in a row of digits.  Digits that make no octet count as one
fault behind the others. -/
def decodeRow (digits : List Nat) : List Char :=
  let whole := wholeRow digits.length digits
  decodeUtf16 true (octetsOfDigits whole).1 ++
    (if whole.length = digits.length then [] else [replacement])

/-- Reads UTF-7: characters of ASCII stand for themselves, and a plus sign
starts a row of digits in base 64 that a hyphen may end.  With a hyphen at once
it stands for itself. -/
def readUtf7 (octet : UInt8) (rest : List UInt8) : Reading :=
  if octet = 0x2B then
    let digits := rest.takeWhile fun octet => (base64Value? octet).isSome
    let closed := (rest.drop digits.length).head? = some 0x2D
    if digits.isEmpty then
      if closed then ⟨['+'], 1⟩ else .fault
    else
      ⟨decodeRow (digits.filterMap base64Value?), digits.length + (if closed then 1 else 0)⟩
  else if octet < 0x80 then
    .single (Char.ofNat octet.toNat)
  else
    .fault

end RecipientRewriting.Charset
