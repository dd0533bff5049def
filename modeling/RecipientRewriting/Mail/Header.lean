import RecipientRewriting.Mail.HeaderText

/-!
# Headers of a message

A message starts with a block of headers, which an empty line or the end of
the message ends.  The block is read octet by octet, so that a message in any
charset has headers, and only what is asked for is turned into text.
-/

namespace RecipientRewriting

inductive HeaderFault
  /-- A line starts with a carriage return that no line feed follows. -/
  | loneCarriageReturn
  /-- A line starts with a space although it continues nothing. -/
  | leadingSpace
  deriving DecidableEq, Repr

def HeaderFault.message : HeaderFault → String
  | .loneCarriageReturn =>
      "Malformed message headers: Headers were followed by an unexpected lone CR character!"
  | .leadingSpace =>
      "Malformed message headers: Header cannot start with a space; " ++
        "it is likely an overhanging line from a previous header"

/-- One header as it stands in the message. -/
structure Header where
  key : List UInt8
  value : List UInt8
  deriving DecidableEq, Repr

namespace Header

def isLineEnd (octet : UInt8) : Bool :=
  octet = 0x0A || octet = 0x0D

/-- Cuts off a value and its continuation lines, which start with a space or a
tab.  `taken` is what has been read of it, latest first. -/
def cutValue (taken : List UInt8) : List UInt8 → List UInt8 × List UInt8
  | [] => (taken, [])
  | 0x0A :: next :: rest =>
      if next = 0x20 || next = 0x09 then cutValue (0x0A :: taken) (next :: rest)
      else (taken, next :: rest)
  | octet :: rest => cutValue (octet :: taken) rest

/-- Reads the header that `text` starts with and returns what follows it.  A
line without a colon is all key. -/
def read (text : List UInt8) : Header × List UInt8 :=
  let (key, rest) := text.span fun octet => octet ≠ 0x3A && octet ≠ 0x0A
  match rest with
  | 0x3A :: rest =>
      let (taken, behind) := cutValue [] (rest.dropWhile (· = 0x20))
      (⟨key, (taken.dropWhile isLineEnd).reverse⟩, behind)
  | _ => (⟨key, []⟩, rest.drop 1)

/-- Reads headers up to the end of their block; `found` are the earlier ones,
latest first, and `fuel` bounds their number. -/
def readAll : Nat → List Header → List UInt8 → Except HeaderFault (List Header)
  | 0, found, _ => .ok found.reverse
  | _, found, [] => .ok found.reverse
  | _, found, 0x0A :: _ => .ok found.reverse
  | _, found, 0x0D :: 0x0A :: _ => .ok found.reverse
  | _, _, 0x0D :: _ => .error .loneCarriageReturn
  | _, _, 0x20 :: _ => .error .leadingSpace
  | fuel + 1, found, text =>
      let (header, rest) := read text
      readAll fuel (header :: found) rest

def ofMessage (message : List UInt8) : Except HeaderFault (List Header) :=
  readAll (message.length + 1) [] message

/-- A name without regard to the case of its ASCII letters. -/
def foldName (name : List Char) : List Char :=
  name.map Char.toLower

/-- Whether a header has a name.  The octets of its key are a character each,
whatever charset the value is in. -/
def hasName (header : Header) (name : String) : Bool :=
  foldName (Charset.decodeLatin1 header.key) = foldName name.toList

def text (header : Header) : String :=
  String.ofList (HeaderText.unfold (Charset.decodeEither header.value))

def valuesOf (message : List UInt8) (name : String) : Except HeaderFault (List String) :=
  (ofMessage message).map fun headers => (headers.filter (hasName · name)).map text

end Header

end RecipientRewriting
