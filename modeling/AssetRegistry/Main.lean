import AssetRegistry.Startup

namespace AssetRegistry

/-- What the program answers when asked how it is used. -/
def usage : String :=
  "IT asset registry and assignment service\n\n" ++
  "Usage: asset-registry [COMMAND]\n\n" ++
  "Commands:\n" ++
  "  serve    Run the HTTP API (default)\n" ++
  "  migrate  Apply pending database migrations and exit\n" ++
  "  help     Print this message or the help of the given subcommand(s)\n\n" ++
  "Options:\n" ++
  "  -h, --help     Print help\n" ++
  "  -V, --version  Print version"

/-- What the program answers to arguments that name no command. -/
def Command.Interruption.message : Command.Interruption → String
  | .help => usage
  | .version => "asset-registry 0.1.0"
  | .unknownArgument => "error: unexpected argument found"
  | .missingValue => "error: a value is required for '--port <PORT>' but none was supplied"
  | .invalidValue => "error: invalid value for '--port <PORT>'"
  | .repeatedOption => "error: the argument '--port <PORT>' cannot be used multiple times"
  | .unwantedValue => "error: unexpected value for a flag found; no more were expected"
  | .unknownCommand => "error: unrecognized subcommand"

/-- Help and version are answers; everything else is a fault of the arguments. -/
def Command.Interruption.isAnswer : Command.Interruption → Bool
  | .help => true
  | .version => true
  | _ => false

/-- What the program answers when the service can start. -/
def readyMessage (s : Settings) : Command → String
  | .serve n => "Ready to listen on 0.0.0.0:" ++ Text.ofNat (Startup.listenNumber s n).toNat
  | .migrate => "Ready to bring the tables up to date"

/-- The variables of this process that settings depend on. -/
def processEnvironment : IO Environment := do
  let values ← Settings.variableNames.mapM fun name => do return (name, ← IO.getEnv name)
  return fun name => (values.lookup name).join

/-- Answers the command line: 0 if all is well, 1 if the service cannot start, 2 if the arguments are at fault. -/
def answerCommandLine (args : List String) : IO UInt32 := do
  match Command.parse args with
  | .error interruption =>
    if interruption.isAnswer then
      IO.println interruption.message
      return 0
    else
      IO.eprintln interruption.message
      return 2
  | .ok command =>
    let command := command.getD (.serve none)
    let settings := Settings.ofEnvironment (← processEnvironment)
    let user := (← IO.getEnv "USER").getD ""
    match Startup.check user (.ofSeconds 0) settings command with
    | .ok _ =>
      IO.println (readyMessage settings command)
      return 0
    | .error e =>
      IO.eprintln ("Error: " ++ e.message)
      return 1

end AssetRegistry

def main (args : List String) : IO UInt32 := AssetRegistry.answerCommandLine args
