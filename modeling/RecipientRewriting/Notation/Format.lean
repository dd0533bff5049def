import RecipientRewriting.Notation.Reader
import RecipientRewriting.Notation.Writer
import RecipientRewriting.OrderedMap

/-!
# Formats

A format says how the values of a type are written in the configuration
notation and how they are read, so that both are stated in one place.  Formats
of larger types are put together from those of their parts.
-/

namespace RecipientRewriting.Notation

/-- How the values of a type are written and read. -/
structure Format (value : Type) where
  document : value → Document
  reader : Reader value

namespace Format

variable {alpha beta : Type}

/-- The compact text of a value. -/
def write (format : Format alpha) (value : alpha) : String :=
  (format.document value).toCompact

/-- The text of a value with every member on a line of its own. -/
def writeSpread (format : Format alpha) (value : alpha) : String :=
  (format.document value).toSpread

/-- Reads a document that holds one value. -/
def read (format : Format alpha) (text : String) : Except ReadError alpha :=
  Notation.read format.reader text

/-! ## Parts -/

def string : Format String :=
  ⟨.string, Reader.string⟩

def bool : Format Bool :=
  ⟨.bool, Reader.bool⟩

/-- A whole number from zero to `greatest`. -/
def nat (greatest : Nat) : Format Nat :=
  ⟨.nat, Reader.nat greatest⟩

/-- One of some words, given with their values. -/
def choice (word : alpha → String) (values : List alpha) : Format alpha :=
  ⟨fun value => .word (word value), Reader.choice (values.map fun value => (word value, value))⟩

/-- A value that is written as a string. -/
def text (write : alpha → String) (parse : String → Except String alpha) : Format alpha :=
  ⟨fun value => .string (write value), Reader.convert parse Reader.string⟩

/-- A value that is written as another one. -/
def via (outward : alpha → beta) (inward : beta → alpha) (format : Format beta) :
    Format alpha :=
  ⟨fun value => format.document (outward value), Reader.map inward format.reader⟩

def option (format : Format alpha) : Format (Option alpha) :=
  ⟨fun value => .option (value.map format.document), Reader.option format.reader⟩

def list (format : Format alpha) : Format (List alpha) :=
  ⟨fun items => .list (items.map format.document), Reader.list format.reader⟩

/-- A map, where a later entry replaces an earlier one with an equal key. -/
def orderedMap
    [DecidableEq alpha] [Ord alpha] [Std.TransOrd alpha] [Std.LawfulEqOrd alpha]
    (key : Format alpha) (value : Format beta) :
    Format (OrderedMap alpha beta) where
  document map :=
    .map (map.entries.map fun (name, item) => (key.document name, value.document item))
  reader := Reader.map OrderedMap.ofList (Reader.entries key.reader value.reader)

/-! ## Records -/

structure Field (record : Type) where
  /-- What the field is called when it is written. -/
  name : String
  /-- What else it may be called when it is read. -/
  otherNames : List String
  document : record → Document
  update : Reader (record → record)

/-- A field with a format, a way to get its value and a way to set it. -/
def Field.of {record : Type} (name : String) (format : Format alpha) (get : record → alpha)
    (set : alpha → record → record) : Field record :=
  ⟨name, [], fun owner => format.document (get owner), Reader.map set format.reader⟩

/-- The field under one more name, by which it may be read. -/
def Field.orNamed {record : Type} (name : String) (field : Field record) : Field record :=
  { field with otherNames := field.otherNames ++ [name] }

/-- A record, of which fields that are not stated are those of `defaults`. -/
def record {record : Type} (name : String) (defaults : record) (fields : List (Field record)) :
    Format record where
  document owner := .record (fields.map fun field => (field.name, field.document owner))
  reader := Reader.record name defaults
    (fields.map fun field => ⟨field.name :: field.otherNames, field.update⟩)

end Format

end RecipientRewriting.Notation
