import RecipientRewriting.CommandLine
import RecipientRewriting.Engine

/-!
# The command

Reads a configuration and a message, processes the message and prints the
report.  Audit events go to the standard error.
-/

namespace RecipientRewriting.Command

def fail {value : Type} (message : String) : IO value :=
  throw (IO.userError message)

/-- Goes on with a result, or ends the command with what is wrong. -/
def orFail {error value : Type} (message : error → String) : Except error value → IO value
  | .ok result => pure result
  | .error problem => fail (message problem)

def readConfiguration (path : String) : IO String := do
  try
    IO.FS.readFile path
  catch problem =>
    fail ("Failed to read config from " ++ path ++ ": " ++ toString problem)

def firstReadable : List String → IO (Option String)
  | [] => pure none
  | path :: rest => do
      try
        let _ ← IO.FS.readFile path
        pure (some path)
      catch _ =>
        firstReadable rest

/-- The configuration file to use if none is named. -/
def findConfiguration : IO String := do
  match ← IO.getEnv CommandLine.configurationVariable with
  | some path => do
      match ← firstReadable [path] with
      | some path => pure path
      | none =>
          fail (CommandLine.configurationVariable ++ " points to non-existent file: " ++ path)
  | none => do
      match ← firstReadable CommandLine.usualConfigurations with
      | some path => pure path
      | none =>
          let tried := (CommandLine.configurationVariable ++ " environment variable") ::
            CommandLine.usualConfigurations
          fail ("No configuration file found. Tried:\n" ++
            "\n".intercalate (tried.map fun place => "  - " ++ place))

def configurationProblem (path : String) : Notation.ReadError → String
  | .malformed => "Invalid config in " ++ path
  | .refused reason => "Invalid config in " ++ path ++ ": " ++ reason

def newNames : IO NameSupply := do
  let octets ← IO.getRandomBytes 16
  let number := octets.toList.foldl (fun number octet => 256 * number + octet.toNat) 0
  pure ⟨BitVec.ofNat 128 number⟩

def readMessage (path : String) : IO (List UInt8) := do
  try
    pure (← IO.FS.readBinFile path).toList
  catch problem =>
    fail ("Failed to read message from " ++ path ++ ": " ++ toString problem)

/-- Processes the message that a command line names. -/
def run (command : CommandLine) (message : String) : IO Unit := do
  let path ←
    match command.configuration with
    | some path => pure path
    | none => findConfiguration
  let configuration ←
    orFail (configurationProblem path) (Configuration.format.read (← readConfiguration path))
  let data ← readMessage message
  let sender ← orFail AddressError.message (command.sender.mapM Address.parse)
  let recipients ← orFail AddressError.message (command.recipients.mapM Address.parse)
  let (name, names) := (← newNames).draw
  let engine := Engine.ofConfiguration configuration names
  let (answer, _) := engine.process (.fresh name ⟨sender, recipients⟩ data)
  for event in answer.events do
    IO.eprintln event.line
  let report ← orFail ProcessingError.message answer.result
  IO.println report.text

end RecipientRewriting.Command

def main (words : List String) : IO UInt32 := do
  if words.any fun word => word = "-h" || word = "--help" then
    IO.println RecipientRewriting.CommandLine.usage
    pure 0
  else
    match RecipientRewriting.CommandLine.parse words with
    | .error problem => do
        IO.eprintln ("error: " ++ problem.message ++ "\n\n" ++
          RecipientRewriting.CommandLine.usage)
        pure 2
    | .ok (command, message) => do
        try
          RecipientRewriting.Command.run command message
          pure 0
        catch problem =>
          IO.eprintln ("Error: " ++ toString problem)
          pure 1
