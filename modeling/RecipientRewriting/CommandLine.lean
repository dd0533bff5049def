import RecipientRewriting.Text.Basic

/-!
# Command lines

What a command line asks for: a configuration, an envelope and the file that
holds the message.  Options have a long name and a letter; their values follow
them as the next word or behind an equals sign.
-/

namespace RecipientRewriting

structure CommandLine where
  configuration : Option String
  sender : Option String
  recipients : List String
  message : Option String
  deriving DecidableEq, Repr

inductive CommandLineError
  /-- An option that there is not. -/
  | unknownOption (word : String)
  /-- An option whose value is missing. -/
  | missingValue (word : String)
  /-- An option that may be given only once. -/
  | repeatedOption (word : String)
  /-- A second message. -/
  | unexpectedArgument (word : String)
  /-- No recipient. -/
  | missingRecipient
  /-- No message. -/
  | missingMessage
  deriving DecidableEq, Repr

def CommandLineError.message : CommandLineError → String
  | unknownOption word => "unexpected argument '" ++ word ++ "' found"
  | missingValue word => "a value is required for '" ++ word ++ "' but none was supplied"
  | repeatedOption word => "the argument '" ++ word ++ "' cannot be used multiple times"
  | unexpectedArgument word => "unexpected argument '" ++ word ++ "' found"
  | missingRecipient => "the required argument '--rcpt' was not provided"
  | missingMessage => "the required argument 'MESSAGE' was not provided"

namespace CommandLine

def empty : CommandLine :=
  ⟨none, none, [], none⟩

def usage : String :=
  "Rewrite the recipients of a message\n\n" ++
    "Usage: switchyard [OPTIONS] --rcpt <RECIPIENTS> <MESSAGE>\n\n" ++
    "Arguments:\n" ++
    "  <MESSAGE>  Message to process, headers and body\n\n" ++
    "Options:\n" ++
    "  -c, --config <CONFIG>    Path to the configuration file\n" ++
    "  -s, --sender <SENDER>    Envelope sender, omit for the null sender\n" ++
    "  -r, --rcpt <RECIPIENTS>  Envelope recipient, may be given more than once\n" ++
    "  -h, --help               Print help"

inductive ValueOption
  | configuration
  | sender
  | recipient
  deriving DecidableEq, Repr

def optionNames : List (String × ValueOption) :=
  [("-c", .configuration), ("--config", .configuration), ("-s", .sender), ("--sender", .sender),
    ("-r", .recipient), ("--rcpt", .recipient)]

def setOption (command : CommandLine) (word value : String) :
    ValueOption → Except CommandLineError CommandLine
  | .configuration =>
      if command.configuration.isSome then .error (.repeatedOption word)
      else .ok { command with configuration := some value }
  | .sender =>
      if command.sender.isSome then .error (.repeatedOption word)
      else .ok { command with sender := some value }
  | .recipient => .ok { command with recipients := command.recipients ++ [value] }

/-- Takes a word that is no option. -/
def setMessage (command : CommandLine) (word : String) : Except CommandLineError CommandLine :=
  if command.message.isSome then .error (.unexpectedArgument word)
  else .ok { command with message := some word }

/-- The option that a word names together with its value. -/
def joinedOption? (word : String) : Option (ValueOption × String) :=
  match Text.cutFirst '=' word.toList with
  | some (name, value) =>
      (optionNames.lookup (String.ofList name)).map (·, String.ofList value)
  | none => none

/-- What has been read: the command so far, and an option that waits for its
value. -/
structure Progress where
  command : CommandLine
  waiting : Option (String × ValueOption)

def readWord (progress : Progress) (word : String) : Except CommandLineError Progress := do
  match progress.waiting, optionNames.lookup word, joinedOption? word with
  | some (name, option), _, _ => pure ⟨← progress.command.setOption name word option, none⟩
  | none, some option, _ => pure ⟨progress.command, some (word, option)⟩
  | none, none, some (option, value) =>
      pure ⟨← progress.command.setOption word value option, none⟩
  | none, none, none =>
      if word.startsWith "-" && word ≠ "-" then .error (.unknownOption word)
      else pure ⟨← progress.command.setMessage word, none⟩

/-- Reads a command line, which must name a recipient and a message. -/
def parse (words : List String) : Except CommandLineError (CommandLine × String) := do
  let progress ← words.foldlM readWord ⟨empty, none⟩
  match progress.waiting, progress.command.message with
  | some (name, _), _ => .error (.missingValue name)
  | none, none =>
      .error (if progress.command.recipients.isEmpty then .missingRecipient else .missingMessage)
  | none, some message =>
      if progress.command.recipients.isEmpty then .error .missingRecipient
      else pure (progress.command, message)

/-- Where a configuration is looked for that is not named. -/
def usualConfigurations : List String :=
  ["./switchyard.config.ron", "/etc/switchyard/switchyard.config.ron"]

/-- The environment variable that names a configuration. -/
def configurationVariable : String :=
  "SWITCHYARD_CONFIG"

end CommandLine

end RecipientRewriting
