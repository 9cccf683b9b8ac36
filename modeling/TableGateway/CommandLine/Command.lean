import TableGateway.Benchmark
import TableGateway.CommandLine.Arguments
import TableGateway.Options

/-!
# Commands

The commands of the command line with their flags.  An `Invocation` is a command with the options
of its connection; a `Demand` is one, or a demand for help, and `Demand.parse` reads it from
arguments and environment.

Every command takes the connection flags, each of which falls back on a variable of the
environment.  A variable is read only where its flag is not given.
-/

namespace TableGateway.CommandLine

/-- The variables of an environment. -/
abbrev Environment := String → Option String

/-- A command. -/
inductive Command where
  /-- Create a table that the schema in a file declares. -/
  | define (schema table : String)
  | undefine (table : String)
  | defined (table : String)
  | find (query : QueryOptions)
  | count (query : QueryOptions) (paginate : Bool)
  | delete (table criteria : String)
  | update (table criteria sets : String)
  /-- Insert rows, under the columns that the schema in a file declares where there is one. -/
  | insert (table rows : String) (schema : Option String)
  | bench (config : Benchmark)
  deriving DecidableEq, Repr

/-- A command and where to run it. -/
structure Invocation where
  connection : ConnectionOptions
  command : Command
  deriving DecidableEq, Repr

/-! ## Flags -/

/-- A flag with a text. -/
def text (name : String) : Flag := ⟨name, .text⟩

/-- The flags of a connection. -/
def connectionFlags : List Flag :=
  [text "connection-string", text "host", ⟨"port", .port⟩, text "user", text "password",
    text "database"]

/-- The flags of a query. -/
def queryFlags : List Flag :=
  [text "table", text "criteria", text "sort", ⟨"limit", .signed⟩, ⟨"skip", .signed⟩]

/-- The commands with their flags, besides those of a connection. -/
def commands : List (String × List Flag) :=
  [("define", [⟨"schema", .path⟩, text "table"]),
   ("undefine", [text "table"]),
   ("defined", [text "table"]),
   ("find", queryFlags),
   ("count", ⟨"with-pagination", .nothing⟩ :: queryFlags),
   ("delete", [text "table", text "criteria"]),
   ("update", [text "table", text "criteria", text "set"]),
   ("insert", [text "table", text "rows", ⟨"schema", .path⟩]),
   ("bench", [text "table", ⟨"rows", .unsigned⟩, ⟨"buffer-size", .unsigned⟩,
     ⟨"keep-table", .nothing⟩])]

/-- The flags of a command besides those of its connection. -/
def commandFlags? (name : String) : Option (List Flag) :=
  commands.lookup name

/-- The criteria that mean all rows. -/
def allRows : String := "\x7b\x7d"

/-! ## Options -/

/-- The value of a flag, or else of a variable. -/
def fallback (args : Arguments) (env : Environment) (flag setting : String) : Option String :=
  (args.text? flag).orElse fun _ => env setting

/-- The options of a connection. -/
def connectionOptions (env : Environment) (args : Arguments) :
    Except UsageError ConnectionOptions := do
  let given := fallback args env
  let preset := ConnectionOptions.default
  let port ← Arguments.number? "port" port? (given "port" "DB_PORT")
  .ok {
    url := given "connection-string" "MYSQL_CONNECTION_STRING"
    host := (given "host" "DB_HOST").getD preset.host
    port := port.getD preset.port
    user := (given "user" "DB_USER").getD preset.user
    password := (given "password" "DB_PASSWORD").getD preset.password
    database := (given "database" "DB_DATABASE").getD preset.database }

/-- The options of a query. -/
def queryOptions (args : Arguments) : Except UsageError QueryOptions := do
  let table ← args.text "table"
  let limit ← Arguments.number? "limit" signed? (args.text? "limit")
  let skip ← Arguments.number? "skip" signed? (args.text? "skip")
  .ok ⟨table, (args.text? "criteria").getD allRows, args.text? "sort", limit, skip⟩

/-- The benchmark that the flags state. -/
def benchmark (args : Arguments) : Except UsageError Benchmark := do
  let preset := Benchmark.default
  let rows ← Arguments.number? "rows" unsigned? (args.text? "rows")
  let size ← Arguments.number? "buffer-size" unsigned? (args.text? "buffer-size")
  .ok ⟨(args.text? "table").getD preset.table, rows.getD preset.rows,
    size.getD preset.bufferSize, args.has "keep-table"⟩

/-! ## Reading -/

/-- The command of a name with these arguments. -/
def Command.ofArguments (name : String) (args : Arguments) : Except UsageError Command :=
  let criteria := (args.text? "criteria").getD allRows
  match name with
  | "define" => return .define (← args.text "schema") (← args.text "table")
  | "undefine" => return .undefine (← args.text "table")
  | "defined" => return .defined (← args.text "table")
  | "find" => return .find (← queryOptions args)
  | "count" => return .count (← queryOptions args) (args.has "with-pagination")
  | "delete" => return .delete (← args.text "table") criteria
  | "update" => return .update (← args.text "table") criteria (← args.text "set")
  | "insert" => return .insert (← args.text "table") (← args.text "rows") (args.text? "schema")
  | "bench" => return .bench (← benchmark args)
  | _ => .error (.unknownCommand name)

/-- What a command line asks for. -/
inductive Demand where
  /-- Help on the program or on a command, in full or in short. -/
  | help (command : Option String) (full : Bool)
  | invocation (invocation : Invocation)
  deriving DecidableEq, Repr

/-- The help that the command for help gives.  It has help on itself, and commands have no commands
of their own. -/
def helpOn : List String → Except UsageError Demand
  | [] => .ok (.help none true)
  | [name] =>
    if name = "help" ∨ (commandFlags? name).isSome then .ok (.help (some name) true)
    else .error (.unknownCommand name)
  | name :: next :: _ =>
    .error (.unknownCommand (if name = "help" ∨ (commandFlags? name).isSome then next else name))

/-- What arguments and environment ask for. -/
def Demand.parse (env : Environment) : List String → Except UsageError Demand
  | [] => .error .noCommand
  | name :: rest =>
    match Arguments.help? name, commandFlags? name with
    | some full, _ => .ok (.help none full)
    | none, none => if name = "help" then helpOn rest else .error (.unknownCommand name)
    | none, some flags => do
      match ← Arguments.parse (connectionFlags ++ flags) rest with
      | .help full => .ok (.help (some name) full)
      | .flags args => do
        let connection ← connectionOptions env args
        let command ← Command.ofArguments name args
        .ok (.invocation ⟨connection, command⟩)

/-- The connection and query options that arguments and environment state together. -/
def optionsOf (env : Environment) (arguments : List String) :
    Except UsageError (ConnectionOptions × QueryOptions) := do
  match ← Arguments.parse (connectionFlags ++ queryFlags) arguments with
  | .help full => .error (.unexpected (if full then "--help" else "-h"))
  | .flags args => do
    let connection ← connectionOptions env args
    let query ← queryOptions args
    .ok (connection, query)

/-- Help may be asked for among the flags of a command, after which nothing need be in order. -/
example : (Demand.parse (fun _ => none)
    ["find", "--limit", "-5", "--help", "--port", "x"]).toOption = some (.help "find" true) := by
  decide +kernel

end TableGateway.CommandLine
