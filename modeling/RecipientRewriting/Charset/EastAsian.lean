import RecipientRewriting.Charset.Basic
import RecipientRewriting.Charset.Big5
import RecipientRewriting.Charset.Gb18030
import RecipientRewriting.Charset.Jis
import RecipientRewriting.Charset.Korean

/-!
# Charsets of several octets

The charsets of Chinese, Japanese and Korean.  In all of them ASCII stands for
itself.  When an octet cannot complete the character before it, the two are one
fault, but an octet of ASCII is then read again on its own.
-/

namespace RecipientRewriting.Charset

open Unicode

/-! ## Pairs of octets -/

def isWithin (low high : Nat) (octet : UInt8) : Bool :=
  low ≤ octet.toNat && octet.toNat ≤ high

def readAscii (octet : UInt8) : Reading :=
  .single (Char.ofNat octet.toNat)

/-- The fault of a character that `octet` cannot complete as the last of
`taken` octets. -/
def incomplete (taken : Nat) (octet : UInt8) : Reading :=
  ⟨[replacement], if octet < 0x80 then taken - 1 else taken⟩

def readPair (character? : UInt8 → Option Char) (rest : List UInt8) : Reading :=
  match rest with
  | [] => .fault
  | second :: _ =>
      match character? second with
      | some character => ⟨[character], 1⟩
      | none => incomplete 1 second

/-- The place of a pair in a table whose rows start with the octet 81, and whose
columns are the octets from 40 on without those between two bounds. -/
def placeOfPair? (rowLength gapStart gapEnd : Nat) (first second : UInt8) : Option Nat :=
  let row := rowLength * (first.toNat - 0x81)
  if isWithin 0x40 gapStart second then some (row + (second.toNat - 0x40))
  else if isWithin gapEnd 0xFE second then
    some (row + (second.toNat - gapEnd) + (gapStart + 1 - 0x40))
  else none

/-! ## Chinese -/

/-- The characters of two octets in the national character set of China. -/
def gb18030Codes : Array Nat :=
  gb18030Table.codes

/-- The character at a place among ranges of code points. -/
def characterInRanges? (place : Nat) : List (Nat × Nat) → Option Char
  | [] => none
  | (low, high) :: ranges =>
      if place ≤ high - low then some (Char.ofNat (low + place))
      else characterInRanges? (place - (high - low + 1)) ranges

/-- The ranges of code points below U+10000 that take four octets. -/
def gb18030Ranges : List (Nat × Nat) :=
  CodeSet.readTable gb18030Fours

/-- The place of four octets among all of them. -/
def placeOfFour (first second third fourth : UInt8) : Nat :=
  ((first.toNat - 0x81) * 10 + (second.toNat - 0x30)) * 1260 +
    (third.toNat - 0x81) * 10 + (fourth.toNat - 0x30)

/-- The character of four octets.  The place of U+1E3F belongs to a code point
for private use, because that character has moved to two octets. -/
def characterOfFour? (place : Nat) : Option Char :=
  if place = 7457 then some (Char.ofNat 0xE7C7)
  else if place < 39420 then characterInRanges? place gb18030Ranges
  else if 189000 ≤ place && place ≤ 1237575 then
    some (Char.ofNat (0x10000 + (place - 189000)))
  else none

/-- Reads the national character set of China and its older parts. -/
def readGb18030 (octet : UInt8) (rest : List UInt8) : Reading :=
  if octet < 0x80 then readAscii octet
  else if octet = 0x80 then .single '€'
  else if octet = 0xFF then .fault
  else
    match rest with
    | [] => .fault
    | second :: behind =>
        if !isWithin 0x30 0x39 second then
          readPair
            (fun second =>
              (placeOfPair? 190 0x7E 0x80 octet second).bind (characterAt? gb18030Codes))
            rest
        else
          match behind with
          | [] => ⟨[replacement], 1⟩
          | [third] => if isWithin 0x81 0xFE third then ⟨[replacement], 2⟩ else .fault
          | third :: fourth :: _ =>
              if isWithin 0x81 0xFE third && isWithin 0x30 0x39 fourth then
                let found := characterOfFour? (placeOfFour octet second third fourth)
                ⟨[found.getD replacement], 3⟩
              else .fault

/-- The characters of two octets in the traditional Chinese character set. -/
def big5Codes : Array Nat :=
  big5Table.codes

/-- Letters with two marks, which are one character in the traditional Chinese
character set and two in Unicode, by their places. -/
def big5Letters : List (Nat × List Char) :=
  [(1133, [Char.ofNat 0xCA, Char.ofNat 0x304]), (1135, [Char.ofNat 0xCA, Char.ofNat 0x30C]),
    (1164, [Char.ofNat 0xEA, Char.ofNat 0x304]), (1166, [Char.ofNat 0xEA, Char.ofNat 0x30C])]

def readBig5 (octet : UInt8) (rest : List UInt8) : Reading :=
  if octet < 0x80 then readAscii octet
  else if !isWithin 0x81 0xFE octet then .fault
  else
    let letters := rest.head?.bind fun second =>
      (placeOfPair? 157 0x7E 0xA1 octet second).bind fun place => big5Letters.lookup place
    match letters with
    | some letters => ⟨letters, 1⟩
    | none =>
        readPair
          (fun second => (placeOfPair? 157 0x7E 0xA1 octet second).bind (characterAt? big5Codes))
          rest

/-! ## Korean -/

def koreanCodes : Array Nat :=
  koreanTable.codes

def readKorean (octet : UInt8) (rest : List UInt8) : Reading :=
  if octet < 0x80 then readAscii octet
  else if !isWithin 0x81 0xFE octet then .fault
  else
    readPair
      (fun second =>
        if isWithin 0x41 0xFE second then
          characterAt? koreanCodes (190 * (octet.toNat - 0x81) + (second.toNat - 0x41))
        else none)
      rest

/-! ## Japanese -/

/-- The main Japanese character set. -/
def jis0208Codes : Array Nat :=
  jis0208Table.codes

/-- The supplementary Japanese character set. -/
def jis0212Codes : Array Nat :=
  jis0212Table.codes

/-- The character in a row and a column of 94, counted from an octet on. -/
def characterInRow? (codes : Array Nat) (start : Nat) (row column : UInt8) : Option Char :=
  if isWithin start (start + 93) row && isWithin start (start + 93) column then
    characterAt? codes (94 * (row.toNat - start) + (column.toNat - start))
  else none

/-- The katakana of half width at a distance from the first. -/
def halfWidthKatakana (distance : Nat) : Char :=
  Char.ofNat (0xFF61 + distance)

/-- The character of a pair in Shift JIS.  Rows beyond the main character set
are for private use. -/
def shiftJisPair? (first second : UInt8) : Option Char :=
  let firstOfRows := if first < 0xA0 then 0x81 else 0xC1
  let column? :=
    if isWithin 0x40 0x7E second then some (second.toNat - 0x40)
    else if isWithin 0x80 0xFC second then some (second.toNat - 0x41)
    else none
  column?.bind fun column =>
    let place := 188 * (first.toNat - firstOfRows) + column
    if 8836 ≤ place && place ≤ 10715 then some (Char.ofNat (0xE000 + (place - 8836)))
    else characterAt? jis0208Codes place

def readShiftJis (octet : UInt8) (rest : List UInt8) : Reading :=
  if octet ≤ 0x80 then readAscii octet
  else if isWithin 0xA1 0xDF octet then .single (halfWidthKatakana (octet.toNat - 0xA1))
  else if isWithin 0x81 0x9F octet || isWithin 0xE0 0xFC octet then
    readPair (shiftJisPair? octet) rest
  else .fault

/-- Reads the packed form of the Japanese character sets: katakana behind the
octet 8E, and the supplementary character set behind the octet 8F. -/
def readEucJp (octet : UInt8) (rest : List UInt8) : Reading :=
  if octet < 0x80 then readAscii octet
  else if octet = 0x8E then
    readPair
      (fun second =>
        if isWithin 0xA1 0xDF second then some (halfWidthKatakana (second.toNat - 0xA1))
        else none)
      rest
  else if octet = 0x8F then
    match rest with
    | [] => .fault
    | second :: rest =>
        if isWithin 0xA1 0xFE second then
          match rest with
          | [] => ⟨[replacement], 1⟩
          | third :: _ =>
              match characterInRow? jis0212Codes 0xA1 second third with
              | some character => ⟨[character], 2⟩
              | none => incomplete 2 third
        else incomplete 1 second
  else if isWithin 0xA1 0xFE octet then
    readPair (characterInRow? jis0208Codes 0xA1 octet) rest
  else .fault

/-! ## Japanese for mail -/

/-- The set that octets stand for after an escape sequence. -/
inductive JisSet
  /-- ASCII. -/
  | ascii
  /-- ASCII with the yen sign and the overline. -/
  | roman
  /-- Katakana of half width. -/
  | katakana
  /-- The main character set, two octets each. -/
  | main
  deriving DecidableEq, Repr

/-- The set in use, and whether the octets before were its escape sequence. -/
structure JisState where
  set : JisSet
  escaped : Bool
  deriving DecidableEq, Repr

/-- The set that an escape sequence selects, by the octets behind the escape
octet. -/
def setOfEscape? (rest : List UInt8) : Option JisSet :=
  match rest with
  | 0x28 :: 0x42 :: _ => some .ascii
  | 0x28 :: 0x4A :: _ => some .roman
  | 0x28 :: 0x49 :: _ => some .katakana
  | 0x24 :: 0x40 :: _ | 0x24 :: 0x42 :: _ => some .main
  | _ => none

/-- Reads one octet or a pair of a set. -/
def readInSet (set : JisSet) (octet : UInt8) (rest : List UInt8) : Reading :=
  match set with
  | .ascii =>
      if octet < 0x80 && octet ∉ [0x0E, 0x0F] then readAscii octet else .fault
  | .roman =>
      if octet = 0x5C then .single '¥'
      else if octet = 0x7E then .single '‾'
      else if octet < 0x80 && octet ∉ [0x0E, 0x0F] then readAscii octet
      else .fault
  | .katakana =>
      if isWithin 0x21 0x5F octet then .single (halfWidthKatakana (octet.toNat - 0x21))
      else .fault
  | .main =>
      if isWithin 0x21 0x7E octet then
        match rest with
        | [] | 0x1B :: _ => .fault
        | second :: _ =>
            ⟨[(characterInRow? jis0208Codes 0x21 octet second).getD replacement], 1⟩
      else .fault

/-- Reads Japanese for mail, in which escape sequences select a set.  Two of
them in a row are a fault, and so is an escape octet that starts none. -/
def readJisForMail (state : JisState) (octet : UInt8) (rest : List UInt8) :
    Reading × JisState :=
  if octet = 0x1B then
    match setOfEscape? rest with
    | some set => (⟨if state.escaped then [replacement] else [], 2⟩, ⟨set, true⟩)
    | none => (.fault, ⟨state.set, false⟩)
  else
    (readInSet state.set octet rest, ⟨state.set, false⟩)

end RecipientRewriting.Charset
