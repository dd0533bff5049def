import RecipientRewriting.Notation.Member

/-!
# Reading the configuration notation

Readers for the kinds of values that configurations hold.  A reader takes a
value of its kind from the front of a text and returns what follows it.  A
document is one value with nothing but space around it, in front of which it
may switch on other ways of writing.
-/

namespace RecipientRewriting.Notation

/-- Which ways of writing are switched on, and how deep values may nest. -/
structure Settings extends Switches where
  depth : Nat

namespace Settings

def maxDepth : Nat :=
  128

def initial : Settings :=
  ⟨⟨false, false, false⟩, maxDepth⟩

def deeper (settings : Settings) : Except ReadError Settings :=
  match settings.depth with
  | 0 => .error .malformed
  | depth + 1 => .ok { settings with depth }

end Settings

/-- Takes a value from the front of a text. -/
abbrev Reader (value : Type) :=
  Settings → List Char → Except ReadError (value × List Char)

namespace Reader

variable {alpha beta : Type}

def nested (reader : Reader alpha) : Reader alpha := fun settings text => do
  reader (← settings.deeper) text

/-- The result of a reader from `Notation.Lexical`. -/
def ofOption : Option (alpha × List Char) → Except ReadError (alpha × List Char)
  | some result => .ok result
  | none => .error .malformed

def map (change : alpha → beta) (reader : Reader alpha) : Reader beta := fun settings text => do
  let (value, rest) ← reader settings text
  pure (change value, rest)

/-- Turns what has been read into another value, or refuses it with a reason. -/
def convert (change : alpha → Except String beta) (reader : Reader alpha) : Reader beta :=
  fun settings text => do
    let (value, rest) ← reader settings text
    match change value with
    | .ok result => pure (result, rest)
    | .error reason => .error (.refused reason)

/-! ## Single parts -/

def string : Reader String := fun _ text => do
  let (content, rest) ← ofOption (readString? text)
  pure (String.ofList content, rest)

def bool : Reader Bool := fun _ text =>
  match dropWord? "true".toList text with
  | some rest => .ok (true, rest)
  | none =>
      match dropWord? "false".toList text with
      | some rest => .ok (false, rest)
      | none => .error .malformed

/-- Reads a whole number from zero to `greatest`. -/
def nat (greatest : Nat) : Reader Nat := fun _ text =>
  ofOption (readNat? greatest text)

def choice (choices : List (String × alpha)) : Reader alpha :=
  nested <| nested fun _ text => do
    let (found, rest) ← ofOption (readIdentifier? (← skipSpace text))
    match choices.lookup (String.ofList found) with
    | some value => pure (value, rest)
    | none => .error .malformed

/-! ## Options, lists and maps -/

/-- Reads the value of an option, behind `Some`. -/
def present (value : Reader alpha) : Reader (Option alpha) := fun settings text => do
  match ← skipSpace text with
  | '(' :: rest => do
      let (content, rest) ← nested value settings (← skipSpace rest)
      let (_, rest) ← skipComma rest
      pure (some content, ← expect ')' rest)
  | rest =>
      if settings.implicitSome then nested (map some value) settings rest
      else .error .malformed

def option (value : Reader alpha) : Reader (Option alpha) := fun settings text =>
  match dropWord? "None".toList text with
  | some rest => .ok (none, rest)
  | none =>
      match dropWord? "Some".toList text with
      | some rest => present value settings rest
      | none =>
          if settings.implicitSome then nested (map some value) settings text
          else .error .malformed

def list (item : Reader alpha) : Reader (List alpha) :=
  nested fun settings text => do
    let text ← expect '[' text
    let (found, rest) ← readMembers ']'
      (fun found text => do
        let (value, rest) ← nested item settings text
        pure (value :: found, rest)) [] text
    pure (found.reverse, rest)

/-- Reads a map as pairs of a key and a value, in the order they are written. -/
def entries (key : Reader alpha) (value : Reader beta) : Reader (List (alpha × beta)) :=
  nested fun settings text => do
    let text ← expect '\x7b' text
    let (found, rest) ← readMembers '\x7d'
      (fun found text => do
        let (name, text) ← nested key settings text
        let text ← expect ':' (← skipSpace text)
        let (item, rest) ← nested value settings (← skipSpace text)
        pure ((name, item) :: found, rest)) [] text
    pure (found.reverse, rest)

/-! ## Records -/

/-- A field of a record: what it may be called, and a reader for what its value
does to the record. -/
structure Field (record : Type) where
  names : List String
  update : Reader (record → record)

/-- Drops the name of a record, which may be missing. -/
def skipName (settings : Settings) (name : String) (text : List Char) :
    Except ReadError (List Char) :=
  if !text.head?.any isIdentifierPart then
    if settings.explicitNames then .error .malformed else .ok text
  else
    match readIdentifier? text with
    | some (found, rest) => if found = name.toList then .ok rest else .error .malformed
    | none => .error .malformed

/-- A record being read, and the fields that it has not stated yet. -/
structure Progress (record : Type) where
  current : record
  missing : List (Field record)

/-- Reads a field.  One that is stated twice is an error, one that is not known
is dropped. -/
def readField {record : Type} (fields : List (Field record)) (settings : Settings)
    (progress : Progress record) (text : List Char) :
    Except ReadError (Progress record × List Char) := do
  let below ← settings.deeper
  let (name, text) ← ofOption (readIdentifier? text)
  let isNamed (candidate : Field record) : Bool := candidate.names.contains (String.ofList name)
  match progress.missing.find? isNamed with
  | some found =>
      let text ← expect ':' (← skipSpace text)
      let (update, rest) ← found.update below (← skipSpace text)
      pure (⟨update progress.current, progress.missing.filter (!isNamed ·)⟩, rest)
  | none =>
      if fields.any isNamed then
        .error .malformed
      else
        let text ← expect ':' (← skipSpace text)
        let rest ← skipValue settings.toSwitches below.depth (← skipSpace text)
        pure (progress, rest)

/-- Reads a record, whose fields are those of `defaults` where none is stated. -/
def record {record : Type} (name : String) (defaults : record) (fields : List (Field record)) :
    Reader record := fun settings text => do
  let text ← skipSpace (← skipName settings name text)
  let text ← expect '(' text
  let below ← settings.deeper
  let (progress, rest) ← readMembers ')' (readField fields below) ⟨defaults, fields⟩ text
  pure (progress.current, rest)

end Reader

/-! ## Documents -/

def Settings.enable? (settings : Settings) (name : String) : Option Settings :=
  match name with
  | "implicit_some" => some { settings with implicitSome := true }
  | "explicit_struct_names" => some { settings with explicitNames := true }
  | "unwrap_newtypes" => some settings
  | "unwrap_variant_newtypes" => some { settings with bareFields := true }
  | _ => none

/-- Reads names of ways of writing up to the last one; `fuel` bounds their
number. -/
def readSwitches : Nat → Settings → List Char → Except ReadError (Settings × List Char)
  | 0, _, _ => .error .malformed
  | fuel + 1, settings, text => do
      let (name, rest) ← Reader.ofOption (readIdentifier? text)
      match settings.enable? (String.ofList name) with
      | none => .error .malformed
      | some settings =>
          let (separated, rest) ← skipComma rest
          match separated, rest.head?.any isIdentifierPart with
          | true, true => readSwitches fuel settings rest
          | false, true => .error .malformed
          | _, false => pure (settings, rest)

/-- Drops words in order, each with the space behind it. -/
def expectAll : List String → List Char → Except ReadError (List Char)
  | [], text => .ok text
  | word :: words, text =>
      if word.toList.isPrefixOf text then do
        expectAll words (← skipSpace (text.drop word.length))
      else
        .error .malformed

/-- Reads the switches of an attribute, behind its name. -/
def readEnabled (settings : Settings) (text : List Char) :
    Except ReadError (Settings × List Char) := do
  let text ← expectAll ["("] text
  let (settings, text) ← readSwitches (text.length + 1) settings text
  pure (settings, ← expectAll [")"] (← skipSpace text))

/-- Drops the text that an attribute tells its reader about the document. -/
def skipRemark (text : List Char) : Except ReadError (List Char) := do
  let (_, text) ← Reader.ofOption (readString? (← expectAll ["="] text))
  skipSpace text

/-- Reads the attribute in front of a document, behind its opening bracket: it
switches on ways of writing, or names what the document describes. -/
def readAttribute (settings : Settings) (text : List Char) :
    Except ReadError (Settings × List Char) := do
  let (name, rest) ← Reader.ofOption (readIdentifier? text)
  let rest ← skipSpace rest
  match String.ofList name with
  | "enable" => readEnabled settings rest
  | "type" | "schema" => pure (settings, ← skipRemark rest)
  | _ => .error .malformed

/-- Reads the attributes in front of a document; `fuel` bounds their number. -/
def readPreamble : Nat → Settings → List Char → Except ReadError (Settings × List Char)
  | 0, _, _ => .error .malformed
  | fuel + 1, settings, text => do
      if text.head? = some '#' then
        let (settings, text) ← readAttribute settings (← expectAll ["#", "!", "["] text)
        readPreamble fuel settings (← expectAll ["]"] text)
      else
        pure (settings, text)

def read {value : Type} (reader : Reader value) (text : String) : Except ReadError value := do
  let text := text.toList
  let (settings, text) ← readPreamble (text.length + 1) .initial (← skipSpace text)
  let (result, rest) ← reader settings text
  if (← skipSpace rest).isEmpty then pure result else .error .malformed

end RecipientRewriting.Notation
