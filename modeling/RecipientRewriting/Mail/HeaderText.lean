import RecipientRewriting.Charset.Label
import RecipientRewriting.Mail.TransferEncoding
import RecipientRewriting.Text.Basic

/-!
# Reading the value of a header

A value may run over several lines and hold encoded words, which name a charset
and an encoding and stand between delimiters.  Lines are joined by one space
each, and white space between two encoded words is dropped, since a long text
has to be cut into several words.
-/

namespace RecipientRewriting.HeaderText

open Text

/-! ## Encoded words -/

/-- Decodes what stands between the delimiters of an encoded word: charset,
encoding and text, between question marks. -/
def decodeWord? (content : List Char) : Option (List Char) := do
  let (charset, rest) ← cutFirst '?' content
  let (encoding, text) ← cutFirst '?' rest
  let octets ←
    match encoding with
    | ['B'] | ['b'] => TransferEncoding.decodeBase64 text
    | ['Q'] | ['q'] => some (TransferEncoding.decodeQuoted text)
    | _ => none
  some ((← Charset.ofLabel? charset).decode octets)

/-- A character that an encoded word may stand next to. -/
def isBoundary (character : Char) : Bool :=
  isBlank character || character ∈ ['"', '(', ')', '<', '>', ',']

/-- Whether an encoded word may end in front of `index` or begin behind it.  A
place is counted in octets and looked up among characters, so beyond the first
character outside ASCII it means a place further on in the line. -/
def boundaryAt (characters : Array Char) (index : Nat) : Bool :=
  match characters[index]? with
  | some character => isBoundary character
  | none => true

/-- What stands before and behind the first `first` followed by `second`. -/
def cutPair (first second : Char) : List Char → Option (List Char × List Char)
  | [] => none
  | character :: rest =>
      if character = first && rest.head? = some second then
        some ([], rest.drop 1)
      else
        (cutPair first second rest).map fun (before, behind) => (character :: before, behind)

/-! ## Pieces of a line -/

inductive Piece
  /-- Text as written. -/
  | text (text : List Char)
  /-- White space as written, possibly none. -/
  | blank (text : List Char)
  /-- The end of a line. -/
  | lineEnd
  /-- The text of an encoded word. -/
  | word (text : List Char)
  deriving DecidableEq, Repr

def Piece.plain (text : List Char) : Piece :=
  if (dropBlanksEnd text).isEmpty then blank text else .text text

/-- Finds the end of an encoded word: the first closing delimiter at a
boundary.  `content` is what has been skipped on the way, `offset` the place of
`rest` in octets; `fuel` bounds the number of delimiters. -/
def findWordEnd (line : Array Char) :
    Nat → List Char → Nat → List Char → Option (List Char × List Char × Nat)
  | 0, _, _, _ => none
  | fuel + 1, content, offset, rest =>
      match cutPair '?' '=' rest with
      | none => none
      | some (before, behind) =>
          let behindOffset := offset + octets before + 2
          if boundaryAt line behindOffset then
            some (content ++ before, behind, behindOffset)
          else
            findWordEnd line fuel (content ++ before ++ ['?', '=']) behindOffset behind

/-- Cuts a line into pieces; `offset` is the place of `rest` in octets and
`fuel` bounds the number of pieces. -/
def cutLine (line : Array Char) : Nat → Nat → List Char → List Piece
  | 0, _, rest => [.plain rest]
  | fuel + 1, offset, rest =>
      match cutPair '=' '?' rest with
      | none => [.plain rest]
      | some (before, behind) =>
          let start := offset + octets before
          if start ≠ 0 && !boundaryAt line (start - 1) then
            .text (before ++ ['=', '?']) :: cutLine line fuel (start + 2) behind
          else
            let head := Piece.plain before
            match findWordEnd line (behind.length + 1) [] (start + 2) behind with
            | none => head :: .text ['=', '?'] :: cutLine line fuel (start + 2) behind
            | some (content, following, followingOffset) =>
                let piece :=
                  match decodeWord? content with
                  | some decoded => Piece.word decoded
                  | none => .text (['=', '?'] ++ content ++ ['?', '='])
                head :: piece :: cutLine line fuel followingOffset following

/-- The lines of a value, without their ends. -/
def linesOf (value : List Char) : List (List Char) :=
  if value.isEmpty then []
  else
    let pieces := splitOn '\n' value
    let pieces := if pieces.getLast? = some [] then pieces.dropLast else pieces
    pieces.map fun line => (dropLast? '\r' line).getD line

/-- Cuts every line into pieces, without the white space at its start. -/
def cutLines (value : List Char) : List Piece :=
  let pieces := (linesOf value).map fun line =>
    let line := dropBlanks line
    cutLine line.toArray (line.length + 1) 0 line
  List.intercalate [.lineEnd] pieces

/-! ## Joining -/

/-- White space that waits for what follows an encoded word. -/
inductive Waiting
  /-- No encoded word came last. -/
  | nothing
  /-- An encoded word came last. -/
  | word
  /-- White space of a line came behind an encoded word. -/
  | blank (text : List Char)
  /-- White space with the end of a line came behind an encoded word. -/
  | lineEnd (text : List Char)

def Waiting.text : Waiting → List Char
  | nothing | word => []
  | blank text | lineEnd text => text

def joinPiece (state : List Char × Waiting) (piece : Piece) : List Char × Waiting :=
  match piece, state with
  | .text text, (joined, waiting) => (joined ++ waiting.text ++ text, .nothing)
  | .blank text, (joined, .word) => (joined, .blank text)
  | .blank text, (joined, _) => (joined ++ text, .nothing)
  | .lineEnd, (joined, .blank text) => (joined, .lineEnd (text ++ [' ']))
  | .lineEnd, (joined, .word) => (joined, .lineEnd [' '])
  | .lineEnd, (joined, _) => (joined ++ [' '], .nothing)
  | .word text, (joined, _) => (joined ++ text, .word)

/-- The value with its lines joined and its encoded words decoded. -/
def unfold (value : List Char) : List Char :=
  ((cutLines value).foldl joinPiece ([], .nothing)).1

end RecipientRewriting.HeaderText
