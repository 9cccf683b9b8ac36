import TableGateway.Text.Numeral

/-!
# Command-line arguments

Arguments are flags, each given at most once: a switch stands alone (`--keep-table`), every other
flag takes the value after `=` or the next argument (`--limit=5`, `--limit 5`).

* An argument that starts with a dash is no value of its own, except for a lone dash, and for a
  negative number after a flag that admits one.
* `--` ends the flags, and nothing may follow.
* `--help`, or a dash and an `h`, asks for help.  What follows is not looked at; what comes before
  must be in order.

`Arguments.parse` reads the arguments by the flags that are known.  Every value is checked by what
its flag takes as soon as it is read, and the readers after it give values their types.
-/

namespace TableGateway.CommandLine

/-- What a flag takes. -/
inductive Takes where
  | nothing
  | text
  /-- A path, which must not be empty. -/
  | path
  | port
  /-- An unsigned integer of 64 bits. -/
  | unsigned
  /-- A signed integer of 64 bits. -/
  | signed
  deriving DecidableEq, Repr

/-- A flag. -/
structure Flag where
  name : String
  takes : Takes
  deriving DecidableEq, Repr

/-- Why arguments were refused. -/
inductive UsageError where
  | noCommand
  | unknownCommand (name : String)
  /-- A flag that is not known, or an argument that is no flag. -/
  | unexpected (argument : String)
  | repeated (flag : String)
  /-- A flag that takes a value has none. -/
  | noValue (flag : String)
  /-- A switch has a value. -/
  | extraValue (flag : String)
  | badValue (flag value : String)
  /-- A flag that must be given is not. -/
  | missing (flag : String)
  deriving DecidableEq, Repr

/-- The text of a refusal. -/
def UsageError.message : UsageError → String
  | .noCommand => "a command is required"
  | .unknownCommand name => "unrecognized command '" ++ name ++ "'"
  | .unexpected argument => "unexpected argument '" ++ argument ++ "'"
  | .repeated flag => "the flag '--" ++ flag ++ "' cannot be used more than once"
  | .noValue flag => "a value is required for '--" ++ flag ++ "'"
  | .extraValue flag => "no value is admitted for '--" ++ flag ++ "'"
  | .badValue flag value => "invalid value '" ++ value ++ "' for '--" ++ flag ++ "'"
  | .missing flag => "the flag '--" ++ flag ++ "' is required"

/-! ## Numbers -/

/-- A signed integer of 64 bits. -/
def signed? (s : String) : Option Int64 :=
  (Text.integer? Int64.minValue.toInt Int64.maxValue.toInt s).map Int64.ofInt

/-- An unsigned integer of 64 bits. -/
def unsigned? (s : String) : Option UInt64 :=
  (Text.natural? UInt64.size s).map UInt64.ofNat

/-- A port: a signed integer in the range of ports. -/
def port? (s : String) : Option UInt16 :=
  (Text.integer? 0 65535 s).map fun n => UInt16.ofNat n.toNat

/-- Whether a text is what a flag takes. -/
def Takes.accepts (s : String) : Takes → Bool
  | .nothing | .text => true
  | .path => !s.isEmpty
  | .port => (port? s).isSome
  | .unsigned => (unsigned? s).isSome
  | .signed => (signed? s).isSome

/-! ## Flags -/

/-- The flags that were given, with their values. -/
structure Arguments where
  given : List (String × String)
  deriving DecidableEq, Repr

namespace Arguments

/-- What arguments come to: flags with their values, or a request for help, in full or in short. -/
inductive Reading where
  | flags (args : Arguments)
  | help (full : Bool)
  deriving DecidableEq, Repr

/-- Whether an argument asks for help, and whether in full. -/
def help? (argument : String) : Option Bool :=
  match argument.toList with
  | '-' :: 'h' :: _ => some false
  | cs => if cs = "--help".toList then some true else none

/-- The name and, after `=`, the value of an argument that starts with two dashes. -/
def splitFlag? (argument : String) : Option (String × Option String) :=
  match argument.toList with
  | '-' :: '-' :: c :: rest =>
    let name := String.ofList ((c :: rest).takeWhile (· ≠ '='))
    match (c :: rest).dropWhile (· ≠ '=') with
    | [] => some (name, none)
    | _ :: value => some (name, some (String.ofList value))
  | _ => none

/-- Whether an argument can be the value of a flag. -/
def isValue (takes : Takes) (argument : String) : Bool :=
  match argument.toList with
  | '-' :: c :: rest => takes == .signed && (c :: rest).all Char.isDigit
  | _ => true

/-- Read the arguments after those that were given already. -/
def parseFrom (flags : List Flag) (given : List (String × String)) :
    List String → Except UsageError Reading
  | [] => .ok (.flags ⟨given⟩)
  | ["--"] => .ok (.flags ⟨given⟩)
  | argument :: rest =>
    match help? argument, splitFlag? argument with
    | some full, _ => .ok (.help full)
    | none, none => .error (.unexpected argument)
    | none, some (name, attached) =>
      match flags.find? fun flag => flag.name = name with
      | none => .error (.unexpected argument)
      | some flag =>
        if (given.lookup name).isSome then .error (.repeated name)
        else
          match flag.takes, attached, rest with
          | .nothing, none, rest => parseFrom flags ((name, "") :: given) rest
          | .nothing, some _, _ => .error (.extraValue name)
          | takes, some value, rest =>
            if takes.accepts value then parseFrom flags ((name, value) :: given) rest
            else .error (.badValue name value)
          | _, none, [] => .error (.noValue name)
          | takes, none, value :: rest =>
            if !isValue takes value then .error (.noValue name)
            else if takes.accepts value then parseFrom flags ((name, value) :: given) rest
            else .error (.badValue name value)

/-- Read the arguments. -/
def parse (flags : List Flag) (arguments : List String) : Except UsageError Reading :=
  parseFrom flags [] arguments

/-! ## Values -/

/-- Whether a flag was given. -/
def has (args : Arguments) (name : String) : Bool :=
  (args.given.lookup name).isSome

/-- The value of a flag. -/
def text? (args : Arguments) (name : String) : Option String :=
  args.given.lookup name

/-- The value of a flag that must be given. -/
def text (args : Arguments) (name : String) : Except UsageError String :=
  match args.text? name with
  | some value => .ok value
  | none => .error (.missing name)

/-- The value of a flag as a number, read by `read?`. -/
def number? {α : Type} (name : String) (read? : String → Option α) :
    Option String → Except UsageError (Option α)
  | none => .ok none
  | some value => match read? value with
    | some n => .ok (some n)
    | none => .error (.badValue name value)

end Arguments

end TableGateway.CommandLine
