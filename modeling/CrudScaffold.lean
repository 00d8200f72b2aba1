import CrudScaffold.Boilerplate.Endpoint
import CrudScaffold.Boilerplate.Plain
import CrudScaffold.Boilerplate.Upload
import CrudScaffold.Boilerplate.User
import CrudScaffold.CommandLine.Arguments
import CrudScaffold.CommandLine.Log
import CrudScaffold.CommandLine.Run
import CrudScaffold.Decimal.Binary64
import CrudScaffold.Decimal.Numeral
import CrudScaffold.Decimal.Stepwise
import CrudScaffold.Decimal.Written
import CrudScaffold.Failure
import CrudScaffold.Family
import CrudScaffold.FieldSpec
import CrudScaffold.FieldSpec.Block
import CrudScaffold.FileTree
import CrudScaffold.FileTree.Disk
import CrudScaffold.FileTree.Walk
import CrudScaffold.Generation
import CrudScaffold.Main
import CrudScaffold.ModelName
import CrudScaffold.Path
import CrudScaffold.Resource
import CrudScaffold.Settings
import CrudScaffold.Settings.Environment
import CrudScaffold.Settings.Layer
import CrudScaffold.Settings.Load
import CrudScaffold.Template
import CrudScaffold.Template.Context
import CrudScaffold.Text
import CrudScaffold.Text.Alphanumeric
import CrudScaffold.Text.AlphanumericTable
import CrudScaffold.Text.Blank
import CrudScaffold.Text.Case
import CrudScaffold.Text.CaseTable
import CrudScaffold.Text.CasedTable
import CrudScaffold.Text.Digits
import CrudScaffold.Text.EscapeTable
import CrudScaffold.Text.Pattern
import CrudScaffold.Text.Quoted
import CrudScaffold.Toml
import CrudScaffold.Toml.Quotation
import CrudScaffold.Toml.Reader
import CrudScaffold.Toml.Word
import CrudScaffold.Proofs.FileTree.Simulation
import CrudScaffold.Proofs.FileTree.Landing
import CrudScaffold.Proofs.FileTree.Growth
import CrudScaffold.Proofs.FileTree.Change
import CrudScaffold.Proofs.FileTree.Disk
import CrudScaffold.Proofs.Plan
import CrudScaffold.Proofs.Generation.Phases
import CrudScaffold.Proofs.Generation.Collision
import CrudScaffold.Proofs.Generation.Frame
import CrudScaffold.Proofs.Generation.Writing
import CrudScaffold.Proofs.Generation.Overwriting
import CrudScaffold.Proofs.Generation.Completeness
import CrudScaffold.Proofs.Generation.Interruption
import CrudScaffold.Proofs.Generation.Effect
import CrudScaffold.Proofs.Path
import CrudScaffold.Proofs.Target
import CrudScaffold.Proofs.Generation.History
import CrudScaffold.Proofs.FileTree.Descent
import CrudScaffold.Proofs.FileTree.Ladder
import CrudScaffold.Proofs.Generation.Room
import CrudScaffold.Proofs.Generation.Independence
import CrudScaffold.Proofs.FileTree.Ascent
import CrudScaffold.Proofs.FileTree.Raising
import CrudScaffold.Proofs.FileTree.Naming
import CrudScaffold.Proofs.Generation.Report
import CrudScaffold.Proofs.Case
import CrudScaffold.Proofs.Case.Mapping
import CrudScaffold.Proofs.FieldSpec.Token
import CrudScaffold.Proofs.FieldSpec
import CrudScaffold.Proofs.FieldSpec.Rule
import CrudScaffold.Proofs.Schema
import CrudScaffold.Proofs.FieldSpec.Kind
import CrudScaffold.Proofs.Template.Line
import CrudScaffold.Proofs.Imports
import CrudScaffold.Proofs.Resolution
import CrudScaffold.Proofs.Settings.Layering
import CrudScaffold.Proofs.CommandLine.Switches
import CrudScaffold.Proofs.CommandLine.Refinement
import CrudScaffold.Proofs.Settings.Loading
import CrudScaffold.Proofs.Occurrence
import CrudScaffold.Proofs.Handlers
import CrudScaffold.Proofs.ModelClass
import CrudScaffold.Proofs.FieldSpec.Name
import CrudScaffold.Proofs.CommandLine.Arrangement
import CrudScaffold.Proofs.Settings.Difference
import CrudScaffold.Proofs.Settings.Root
import CrudScaffold.Proofs.Settings.Value
import CrudScaffold.Proofs.Settings.Override
import CrudScaffold.Proofs.Template.Strict
