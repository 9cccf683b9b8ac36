import TableGateway.CommandLine.Run

/-!
# The program

The command line over files, the environment and a clock.  No transport is linked into the program,
so every attempt to connect fails; all that comes before is done.
-/

namespace TableGateway.Program

/-- A peer that nothing reaches. -/
def unreachable (endpoint : Endpoint) : Peer IO Unit where
  dial := throw (.io ("no transport to " ++ endpoint.host ++ ":" ++ toString endpoint.port.toNat))
  execute _ _ := throw (.driver .connectionClosed)
  query _ _ := throw (.driver .connectionClosed)
  disconnect _ := pure ()

/-- The bytes of a file, if it is there. -/
def fileBytes (path : String) : IO (Option (List UInt8)) := do
  try
    let bytes ← IO.FS.readBinFile path
    pure (some bytes.data.toList)
  catch _ => pure none

/-- The names of the variables that the command line reads. -/
def variableNames : List String :=
  ["MYSQL_CONNECTION_STRING", "DB_HOST", "DB_PORT", "DB_USER", "DB_PASSWORD", "DB_DATABASE"]

/-- The variables that are set, with their values. -/
def environment : IO CommandLine.Environment := do
  let found ← variableNames.filterMapM fun name => do
    pure ((← IO.getEnv name).map (name, ·))
  pure fun name => found.lookup name

/-- The page of help on the program or on a command, which is the same in full and in short. -/
def helpPage (command : Option String) (_full : Bool) : String :=
  let names : List String := match command.bind CommandLine.commandFlags? with
    | some flags => (CommandLine.connectionFlags ++ flags).map fun flag => "--" ++ flag.name
    | none => CommandLine.commands.map (·.1)
  String.join (names.map fun name => name ++ "\n")

/-- The world outside the program. -/
def world (environment : CommandLine.Environment) : CommandLine.World IO Unit where
  environment := environment
  fileBytes := fileBytes
  schemaOf? := Schema.ofText?
  helpPage := helpPage
  peer := unreachable
  clock := IO.monoNanosNow

end TableGateway.Program

/-- Run the command line and pass on its texts and its exit code. -/
def main (arguments : List String) : IO UInt32 := do
  let environment ← TableGateway.Program.environment
  let exit ← TableGateway.CommandLine.run (TableGateway.Program.world environment) arguments
  IO.print exit.output
  IO.eprint exit.errors
  pure (UInt32.ofNat exit.code)
