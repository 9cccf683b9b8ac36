import TableGateway.Fixture
import TableGateway.Engine.Replay
import TableGateway.Engine.Script
import TableGateway.Main
import TableGateway.Proofs.Criterion
import TableGateway.Proofs.Except
import TableGateway.Proofs.Fields
import TableGateway.Proofs.Json
import TableGateway.Proofs.Text
import TableGateway.Proofs.Text.Utf8
import TableGateway.Proofs.Calendar
import TableGateway.Proofs.Sql.Predicate
import TableGateway.Proofs.Sql.Condition
import TableGateway.Proofs.Sql.EmptyGroup
import TableGateway.Proofs.Sql.RowOperation
import TableGateway.Proofs.Sql.Shape
import TableGateway.Proofs.Sql.Agreement
import TableGateway.Proofs.Sql.Insertion
import TableGateway.Proofs.Sql.Like
import TableGateway.Proofs.Cell
import TableGateway.Proofs.Cell.Temporal
import TableGateway.Proofs.Cell.Reading
import TableGateway.Proofs.Cell.Span
import TableGateway.Proofs.Cell.Row
import TableGateway.Proofs.Sql.Like.Temporal
import TableGateway.Proofs.Value.Json
import TableGateway.Proofs.Value.Document
import TableGateway.Proofs.Value.Canonical
import TableGateway.Proofs.Value.Equality
import TableGateway.Proofs.Schema.Document
import TableGateway.Proofs.Wire.Decoding
import TableGateway.Proofs.Wire.Meaning
import TableGateway.Proofs.Wire.Filter
import TableGateway.Proofs.Wire.Grammar
import TableGateway.Proofs.Wire.Encoding
import TableGateway.Proofs.Wire.Page
import TableGateway.Proofs.Wire.Sort
import TableGateway.Proofs.Sql.Selection
import TableGateway.Proofs.Sql.Creation
import TableGateway.Proofs.Sql.DeclaredInsertion
import TableGateway.Proofs.Sql.Placeholder
import TableGateway.Proofs.Engine.Session
import TableGateway.Proofs.Engine.Transcript
import TableGateway.Proofs.Benchmark
import TableGateway.Proofs.Benchmark.Accounting
import TableGateway.Proofs.Gateway
import TableGateway.Proofs.Gateway.Keys
import TableGateway.Proofs.Gateway.BoundKeys
import TableGateway.Proofs.CommandLine.Input
import TableGateway.Proofs.CommandLine.Contact
