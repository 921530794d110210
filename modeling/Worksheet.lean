import Worksheet.Journal
import Worksheet.Main
import Worksheet.Proofs.Steps
import Worksheet.Proofs.Graph.Pairs
import Worksheet.Proofs.Graph.Changes
import Worksheet.Proofs.Graph.Walk
import Worksheet.Proofs.Graph.Acyclic
import Worksheet.Proofs.Graph.Path
import Worksheet.Proofs.Graph.Closing
import Worksheet.Proofs.Graph.Search
import Worksheet.Proofs.Graph.Recursion
import Worksheet.Proofs.Graph.Order
import Worksheet.Proofs.Formula.Check
import Worksheet.Proofs.Formula.Evaluation
import Worksheet.Proofs.Formula.Failure
import Worksheet.Proofs.Naming
import Worksheet.Proofs.Sheet.Contents
import Worksheet.Proofs.Sheet.Sound
import Worksheet.Proofs.Sheet.Lookup
import Worksheet.Proofs.Sheet.Current
import Worksheet.Proofs.Sheet.Affected
import Worksheet.Proofs.Sheet.Circular
import Worksheet.Proofs.Sheet.Transcript
import Worksheet.Proofs.Sheet.History
import Worksheet.Proofs.Sheet.Failure
import Worksheet.Proofs.Sheet.Loadable
import Worksheet.Proofs.Text.Runs
import Worksheet.Proofs.Text.Caseless
import Worksheet.Proofs.Number.Positional
import Worksheet.Proofs.Number.Literal
import Worksheet.Proofs.Number.Longest
import Worksheet.Proofs.Number.ReadBack
import Worksheet.Proofs.Formula.Lexeme
import Worksheet.Proofs.Formula.Spacing
import Worksheet.Proofs.Formula.Pieces
import Worksheet.Proofs.Formula.Trimming
import Worksheet.Proofs.Formula.Caseless
import Worksheet.Proofs.Formula.Canonical
import Worksheet.Proofs.Sheet.Inputs
import Worksheet.Proofs.Sheet.Coverage
import Worksheet.Proofs.Sheet.Caseless
import Worksheet.Proofs.Snapshot.Entries
import Worksheet.Proofs.Snapshot.Lines
import Worksheet.Proofs.Snapshot.Grid
import Worksheet.Proofs.Snapshot.Rewriting
import Worksheet.Proofs.Snapshot.Restore
import Worksheet.Proofs.Snapshot.Loadable
import Worksheet.Proofs.Json.Quoted
import Worksheet.Proofs.Json.Spelling
import Worksheet.Proofs.Snapshot.Json
import Worksheet.Proofs.Files.Tree
import Worksheet.Proofs.Preferences
import Worksheet.Proofs.Document
import Worksheet.Proofs.Session
import Worksheet.Proofs.Document.Reentry
import Worksheet.Proofs.Document.OneOff
import Worksheet.Proofs.CommandLine.Options
import Worksheet.Proofs.CommandLine.Run
