import PredicateOracle.Capacity
import PredicateOracle.Check.Comparison
import PredicateOracle.Check.Expected
import PredicateOracle.Check.Mode
import PredicateOracle.Check.Oracle
import PredicateOracle.Check.Report
import PredicateOracle.Check.Snapshot
import PredicateOracle.CommandLine.Arguments
import PredicateOracle.CommandLine.Page
import PredicateOracle.CommandLine.Program
import PredicateOracle.CommandLine.Style
import PredicateOracle.CommandLine.Transcript
import PredicateOracle.Config.Basic
import PredicateOracle.Config.Layer
import PredicateOracle.Config.Sections
import PredicateOracle.Config.Sources
import PredicateOracle.Engine.Allowlist
import PredicateOracle.Engine.Cell
import PredicateOracle.Engine.Client
import PredicateOracle.Engine.Connection
import PredicateOracle.Engine.Row
import PredicateOracle.Engine.Script
import PredicateOracle.Engine.Session
import PredicateOracle.Fault
import PredicateOracle.File.Disk
import PredicateOracle.File.Path
import PredicateOracle.Generate.Expr
import PredicateOracle.Generate.RowSource
import PredicateOracle.Generate.Statement
import PredicateOracle.Json.Basic
import PredicateOracle.Json.Reader
import PredicateOracle.Main
import PredicateOracle.Number.Binary
import PredicateOracle.Number.Layout
import PredicateOracle.Number.Reader
import PredicateOracle.Number.Shortest
import PredicateOracle.Predicate.Compound
import PredicateOracle.Predicate.Known
import PredicateOracle.Predicate.Pool
import PredicateOracle.Proofs.Check.Allowlist
import PredicateOracle.Proofs.Check.Comparison
import PredicateOracle.Proofs.Check.Defects
import PredicateOracle.Proofs.Check.Diagnosis
import PredicateOracle.Proofs.Check.Expected
import PredicateOracle.Proofs.Check.Failures
import PredicateOracle.Proofs.Check.Faithful
import PredicateOracle.Proofs.Check.History
import PredicateOracle.Proofs.Check.Plan
import PredicateOracle.Proofs.Check.Projection
import PredicateOracle.Proofs.Check.Protocol
import PredicateOracle.Proofs.Check.Queries
import PredicateOracle.Proofs.Check.Range
import PredicateOracle.Proofs.Check.Snapshot
import PredicateOracle.Proofs.Check.Trace
import PredicateOracle.Proofs.Check.Verdict
import PredicateOracle.Proofs.CommandLine.Ending
import PredicateOracle.Proofs.CommandLine.Override
import PredicateOracle.Proofs.CommandLine.Reproduction
import PredicateOracle.Proofs.Config.Basic
import PredicateOracle.Proofs.Config.Field
import PredicateOracle.Proofs.Config.Layers
import PredicateOracle.Proofs.Engine.Catalog
import PredicateOracle.Proofs.Engine.Connection
import PredicateOracle.Proofs.Engine.Session
import PredicateOracle.Proofs.File.Path
import PredicateOracle.Proofs.Generate.Expr
import PredicateOracle.Proofs.Generate.Join
import PredicateOracle.Proofs.Generate.RowSource
import PredicateOracle.Proofs.Generate.Statement
import PredicateOracle.Proofs.Number.Binary
import PredicateOracle.Proofs.Number.Reader
import PredicateOracle.Proofs.Predicate.Completion
import PredicateOracle.Proofs.Predicate.Compound
import PredicateOracle.Proofs.Predicate.Partition
import PredicateOracle.Proofs.Predicate.Pool
import PredicateOracle.Proofs.Predicate.Shape
import PredicateOracle.Proofs.Random.Draw
import PredicateOracle.Proofs.Random.Index
import PredicateOracle.Proofs.Random.Odds
import PredicateOracle.Proofs.Run.Agenda
import PredicateOracle.Proofs.Run.Cluster
import PredicateOracle.Proofs.Run.Completion
import PredicateOracle.Proofs.Run.Counters
import PredicateOracle.Proofs.Run.Flag
import PredicateOracle.Proofs.Run.Independence
import PredicateOracle.Proofs.Run.Isolation
import PredicateOracle.Proofs.Run.Panic
import PredicateOracle.Proofs.Run.Replay
import PredicateOracle.Proofs.Run.Schedule
import PredicateOracle.Proofs.Run.Seed
import PredicateOracle.Proofs.Run.Solo
import PredicateOracle.Proofs.Run.Verdicts
import PredicateOracle.Proofs.Run.Worker
import PredicateOracle.Proofs.Setting.Congruence
import PredicateOracle.Proofs.Setting.Overlay
import PredicateOracle.Proofs.Sql.Arithmetic
import PredicateOracle.Proofs.Sql.Clauses
import PredicateOracle.Proofs.Sql.Quoted
import PredicateOracle.Proofs.Sql.Readability
import PredicateOracle.Proofs.Sql.Reader
import PredicateOracle.Proofs.Sql.Scan
import PredicateOracle.Proofs.Sql.Scope
import PredicateOracle.Proofs.Sql.Tree
import PredicateOracle.Proofs.Sql.Typing
import PredicateOracle.Proofs.Text.Occurrences
import PredicateOracle.Proofs.Truth.Order
import PredicateOracle.Proofs.Workload.Accounting
import PredicateOracle.Proofs.Workload.Author
import PredicateOracle.Proofs.Workload.Contents
import PredicateOracle.Proofs.Workload.Log
import PredicateOracle.Proofs.Workload.Maxima
import PredicateOracle.Proofs.Workload.Populate
import PredicateOracle.Proofs.Workload.TableText
import PredicateOracle.Proofs.Workload.Tables
import PredicateOracle.Random.Draw
import PredicateOracle.Random.Keystream
import PredicateOracle.Random.Stream
import PredicateOracle.Run.Summary
import PredicateOracle.Run.Worker
import PredicateOracle.Setting.Basic
import PredicateOracle.Setting.Conversion
import PredicateOracle.Setting.Entries
import PredicateOracle.Sql.DataType
import PredicateOracle.Sql.Expr
import PredicateOracle.Sql.Printer
import PredicateOracle.Sql.Schema
import PredicateOracle.Sql.Select
import PredicateOracle.Sql.Statement
import PredicateOracle.Text.Blank
import PredicateOracle.Text.Case
import PredicateOracle.Text.Glyph
import PredicateOracle.Text.Quoted
import PredicateOracle.Text.Utf8
import PredicateOracle.Toml.Node
import PredicateOracle.Toml.Printer
import PredicateOracle.Toml.Reader
import PredicateOracle.Toml.Scalar
import PredicateOracle.Toml.Text
import PredicateOracle.Truth.Basic
import PredicateOracle.Truth.Column
import PredicateOracle.Workload.Populate
