import RecipientRewriting.Unicode.CodeSet

/-!
# Ranges of characters as octets

A range of characters is read octet by octet of its UTF-8 encoding.  It falls
apart into rows of octet ranges, where each choice of one octet per range is
the encoding of a character, and each character of the range is chosen once.

In its encoding a number is written in digits of six bits.  A range whose first
and last number have the same digits in front has rows that start with these;
any other is cut where the first digit changes, so that at most the two ends
have rows of their own.
-/

namespace RecipientRewriting.Pattern

open Unicode

structure OctetRange where
  low : Nat
  high : Nat
  deriving DecidableEq, Repr, Inhabited

/-- How many numbers are written in some digits of six bits. -/
def blockSize : Nat → Nat
  | 0 => 1
  | digits + 1 => 64 * blockSize digits

/-- The rows of digit ranges for the numbers from `low` to `high`, in increasing
order; `digits` digits follow the first. -/
def digitRows : Nat → Nat → Nat → List (List OctetRange)
  | 0, low, high => [[⟨low, high⟩]]
  | digits + 1, low, high =>
      let block := blockSize (digits + 1)
      let first := low / block
      let last := high / block
      let rowsOf := fun digit low high =>
        (digitRows digits low high).map (⟨digit, digit⟩ :: ·)
      if first = last then
        rowsOf first (low % block) (high % block)
      else
        let opening := if low % block = 0 then [] else rowsOf first (low % block) (block - 1)
        let closing := if high % block = block - 1 then [] else rowsOf last 0 (high % block)
        let start := if low % block = 0 then first else first + 1
        let stop := if high % block = block - 1 then last + 1 else last
        let whole :=
          if start < stop then [⟨start, stop - 1⟩ :: List.replicate (digits + 1) ⟨0, 63⟩] else []
        opening ++ whole ++ closing

/-- Marks digits as octets: the first says how many follow it. -/
def markOctets (lead : Nat) : List OctetRange → List OctetRange
  | [] => []
  | first :: rest =>
      ⟨lead + first.low, lead + first.high⟩ ::
        rest.map fun digit => ⟨0x80 + digit.low, 0x80 + digit.high⟩

/-- The characters whose encodings have the same length: how many octets follow
the first, what marks the first, and the least and the greatest number. -/
def encodingLengths : List (Nat × Nat × Nat × Nat) :=
  [(0, 0, 0, 0x7F), (1, 0xC0, 0x80, 0x7FF), (2, 0xE0, 0x800, 0xD7FF), (2, 0xE0, 0xE000, 0xFFFF),
    (3, 0xF0, 0x10000, CodeSet.maxCode)]

/-- The rows of octet ranges for the characters from `low` to `high`. -/
def octetRows (low high : Nat) : List (List OctetRange) :=
  encodingLengths.flatMap fun (following, lead, least, greatest) =>
    let low := max low least
    let high := min high greatest
    if low ≤ high then (digitRows following low high).map (markOctets lead) else []

/-- The rows of octet ranges for the characters of a set, in increasing order. -/
def rowsOfSet (members : CodeSet) : List (List OctetRange) :=
  members.ranges.flatMap fun (low, high) => octetRows low high

end RecipientRewriting.Pattern
