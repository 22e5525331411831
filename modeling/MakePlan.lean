import MakePlan.Text.Blank
import MakePlan.Text.Words
import MakePlan.Text.Lines
import MakePlan.Configuration.Basic
import MakePlan.Configuration.Flag
import MakePlan.NameMap
import MakePlan.Decimal.Shortest
import MakePlan.Toml.Value
import MakePlan.Toml.Range
import MakePlan.Toml.Token
import MakePlan.Toml.Document
import MakePlan.Text.Quoted
import MakePlan.Catalog.Schema
import MakePlan.Failure
import MakePlan.Configuration.Tokens
import MakePlan.Catalog.Builtin
import MakePlan.Catalog.Loading
import MakePlan.Settings
import MakePlan.Plan
import MakePlan.Makefile.Reader
import MakePlan.Makefile.Layout
import MakePlan.Makefile.Printer
import MakePlan.Makefile.Content
import MakePlan.Run
import MakePlan.Session
import MakePlan.Main
import MakePlan.Proofs.Text.Words
import MakePlan.Proofs.Makefile.Statement
import MakePlan.Proofs.Makefile.Legible
import MakePlan.Proofs.Makefile.RoundTrip
import MakePlan.Proofs.Result
import MakePlan.Proofs.Settings
import MakePlan.Proofs.Catalog.Validation
import MakePlan.Proofs.Plan.Safety
import MakePlan.Proofs.Failure
import MakePlan.Proofs.FileSystem
import MakePlan.Proofs.Plan.Goals
import MakePlan.Proofs.Plan.Paths
import MakePlan.Proofs.Plan.TestMode
import MakePlan.Proofs.Plan.Content
import MakePlan.Proofs.Makefile.Fragment
import MakePlan.Proofs.Run.Effects
import MakePlan.Proofs.Configuration.Grammar
import MakePlan.Proofs.Configuration.Override
import MakePlan.Proofs.CommandLine
import MakePlan.Proofs.Run.Stages
import MakePlan.Proofs.Run.BuildOptions
import MakePlan.Proofs.Report
import MakePlan.Proofs.Run.DryRun
import MakePlan.Proofs.Makefile.Concatenation
import MakePlan.Proofs.Makefile.Printing
import MakePlan.Proofs.Makefile.Injectivity
import MakePlan.Proofs.Makefile.Spacing
import MakePlan.Proofs.Makefile.Folding
import MakePlan.Proofs.Makefile.Normality
import MakePlan.Proofs.Configuration.Objections
import MakePlan.Proofs.Plan.Independence
import MakePlan.Proofs.Text.ByteOrder
import MakePlan.Proofs.Catalog.Misnamed
import MakePlan.Proofs.Catalog.Shape
import MakePlan.Proofs.Catalog.ForeignKeys
import MakePlan.Proofs.Makefile.Unfolding
import MakePlan.Proofs.Text.LineEnds
import MakePlan.Proofs.Makefile.LineEnds
