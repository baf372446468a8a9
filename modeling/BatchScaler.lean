import BatchScaler.Fault
import BatchScaler.Number.Numeral
import BatchScaler.Text.Upper
import BatchScaler.Script.Statement
import BatchScaler.Script.Help
import BatchScaler.Script.Dimensions
import BatchScaler.Script.FilterSpec
import BatchScaler.Number.Shortest
import BatchScaler.Size.Scale
import BatchScaler.Raster.Basic
import BatchScaler.Raster.Edge
import BatchScaler.Raster.Assemble
import BatchScaler.Filter.KernelPlan
import BatchScaler.Filter.PixelArt
import BatchScaler.Filter.Registry
import BatchScaler.Report.Action
import BatchScaler.Report.Logger
import BatchScaler.Report.Metrics
import BatchScaler.Report.Notice
import BatchScaler.Script.Run
import BatchScaler.Service.Rehearsal
import BatchScaler.Service.Files
import BatchScaler.Settings.Basic
import BatchScaler.Main
import BatchScaler.Proofs.Report.Outcome
import BatchScaler.Proofs.Service.Calls
import BatchScaler.Proofs.Script.Visible
import BatchScaler.Proofs.Script.Step
import BatchScaler.Proofs.Script.Execution
import BatchScaler.Proofs.Number.Grammar
import BatchScaler.Proofs.Script.Operands
import BatchScaler.Proofs.Script.Faults
import BatchScaler.Proofs.Script.Reading
import BatchScaler.Proofs.Script.Reporting
import BatchScaler.Proofs.Filter.Resolution
import BatchScaler.Proofs.Script.Provenance
import BatchScaler.Proofs.Script.Composition
import BatchScaler.Proofs.Script.Noninterference
import BatchScaler.Proofs.Script.Stopping
import BatchScaler.Proofs.Script.Repetition
import BatchScaler.Proofs.Number.Rounding
import BatchScaler.Proofs.Size.Doubles
import BatchScaler.Proofs.Raster.Assembly
import BatchScaler.Proofs.Raster.Coverage
import BatchScaler.Proofs.Filter.Steps
import BatchScaler.Proofs.Filter.TargetSize
import BatchScaler.Proofs.Filter.PublishedRules
import BatchScaler.Proofs.Filter.Surroundings
import BatchScaler.Proofs.Picture.Applied
import BatchScaler.Proofs.Size.Resolution
import BatchScaler.Proofs.Filter.Resampling
import BatchScaler.Proofs.Picture.Refusals
import BatchScaler.Proofs.Filter.IntegerScaling
import BatchScaler.Proofs.Picture.Enlargement
import BatchScaler.Proofs.Script.Accounting
import BatchScaler.Proofs.Picture.PixelArt
import BatchScaler.Proofs.Filter.Recolouring
import BatchScaler.Proofs.Picture.Recolouring
import BatchScaler.Proofs.Script.Colours
import BatchScaler.Proofs.Size.Proportion
import BatchScaler.Proofs.Script.ResizedSize
import BatchScaler.Proofs.Filter.Padding
import BatchScaler.Proofs.Report.Results
import BatchScaler.Proofs.Settings.Nesting
import BatchScaler.Proofs.Settings.Fallback
import BatchScaler.Proofs.Text.Parts
import BatchScaler.Proofs.Storage.Paths
import BatchScaler.Proofs.Storage.Writing
import BatchScaler.Proofs.Picture.Layout
import BatchScaler.Proofs.Service.Files
import BatchScaler.Proofs.Script.Invariants
import BatchScaler.Proofs.Script.Layout
import BatchScaler.Proofs.Report.Logging
import BatchScaler.Proofs.Picture.OneColour
import BatchScaler.Proofs.Script.OwnSize
import BatchScaler.Proofs.Filter.Placement
import BatchScaler.Proofs.Filter.Fitting
import BatchScaler.Proofs.Picture.Placement
import BatchScaler.Proofs.Picture.Centres
import BatchScaler.Proofs.Size.OpenAxis
import BatchScaler.Proofs.Script.OperandGrammar
import BatchScaler.Proofs.Text.Upper
import BatchScaler.Proofs.Filter.Lookup
import BatchScaler.Proofs.Script.Saving
import BatchScaler.Proofs.Script.Tokens
import BatchScaler.Proofs.Program.Options
