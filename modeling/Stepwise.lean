import Stepwise.Main
import Stepwise.Settings.Save
import Stepwise.Proofs.Dict
import Stepwise.Proofs.Except
import Stepwise.Proofs.Run.Steps
import Stepwise.Proofs.Run.Arguments
import Stepwise.Proofs.Tool.Builtin
import Stepwise.Proofs.Run.Calls
import Stepwise.Proofs.Tool.Failure
import Stepwise.Proofs.Run.Failure
import Stepwise.Proofs.Run.Agreement
import Stepwise.Proofs.Run.Session
import Stepwise.Proofs.Plan.Dependencies
import Stepwise.Proofs.Run.DataFlow
import Stepwise.Proofs.Run.Isolation
import Stepwise.Proofs.Run.Dangling
import Stepwise.Proofs.Plan.Validation
import Stepwise.Proofs.Run.Prefix
import Stepwise.Proofs.Plan.Demands
import Stepwise.Proofs.Plan.Document
import Stepwise.Proofs.Plan.Report
import Stepwise.Proofs.Tool.Keep
import Stepwise.Proofs.Run.Completion
import Stepwise.Proofs.Run.Writes
import Stepwise.Proofs.Plan.Renumber
import Stepwise.Proofs.Run.Renumber
import Stepwise.Proofs.Plan.Exchange
import Stepwise.Proofs.Run.Exchange
import Stepwise.Proofs.Plan.Element
import Stepwise.Proofs.Run.Malformed
import Stepwise.Proofs.Plan.Reads
import Stepwise.Proofs.Run.Template
import Stepwise.Proofs.Path.Selection
import Stepwise.Proofs.Predicate
import Stepwise.Proofs.Tool.Registry
import Stepwise.Proofs.Path.Grammar
import Stepwise.Proofs.Path.Documented
import Stepwise.Proofs.Files
import Stepwise.Proofs.Settings
import Stepwise.Proofs.Pointer.Spelling
import Stepwise.Proofs.Pointer.Walk
import Stepwise.Proofs.Run.Resolution
import Stepwise.Proofs.Tool.Sort
import Stepwise.Proofs.Pointer.Digits
import Stepwise.Proofs.Decimal.Rounding
import Stepwise.Proofs.Decimal.Value
import Stepwise.Proofs.Predicate.Comparison
import Stepwise.Proofs.Predicate.Equality
import Stepwise.Proofs.Predicate.Integer
import Stepwise.Proofs.Tool.IntegerKeys
import Stepwise.Proofs.Plan.Layers
import Stepwise.Proofs.Tool.Margin
import Stepwise.Proofs.Tool.Prices
import Stepwise.Proofs.Tool.Merge
import Stepwise.Proofs.Path.Anchor
import Stepwise.Proofs.Path.Position
import Stepwise.Proofs.Plan.Edges
import Stepwise.Proofs.Run.Boundary
import Stepwise.Proofs.Run.Reload
import Stepwise.Proofs.Path.Containment
import Stepwise.Proofs.Path.Quotation
import Stepwise.Proofs.Path.Turns
