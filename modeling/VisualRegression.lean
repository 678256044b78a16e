import VisualRegression.Base64
import VisualRegression.BaselineKey
import VisualRegression.Capture.Composer
import VisualRegression.Capture.Cut
import VisualRegression.Capture.Fault
import VisualRegression.Capture.Plan
import VisualRegression.Capture.PlanCache
import VisualRegression.Capture.Scaling
import VisualRegression.Capture.Stitcher
import VisualRegression.Check.Action
import VisualRegression.Check.Basic
import VisualRegression.Check.Batch
import VisualRegression.Check.Configuration
import VisualRegression.Check.Engine
import VisualRegression.Check.Fault
import VisualRegression.Check.Locator
import VisualRegression.Check.Program
import VisualRegression.Check.Resolver
import VisualRegression.Check.Result
import VisualRegression.Check.Step
import VisualRegression.CommandLine.Footprint
import VisualRegression.CommandLine.Help
import VisualRegression.CommandLine.Invocation
import VisualRegression.CommandLine.Outcome
import VisualRegression.CommandLine.Settings
import VisualRegression.Config.PolicyFile
import VisualRegression.Decimal.Literal
import VisualRegression.Decimal.Shortest
import VisualRegression.Decimal.Style
import VisualRegression.Difference
import VisualRegression.FileSystem.Basic
import VisualRegression.FileSystem.Change
import VisualRegression.FileSystem.Extension
import VisualRegression.FileSystem.Fault
import VisualRegression.FileSystem.Path
import VisualRegression.IgnoreKind
import VisualRegression.Image.Basic
import VisualRegression.Image.Codec
import VisualRegression.Instant
import VisualRegression.Json.Decode
import VisualRegression.Json.Reader
import VisualRegression.Json.Value
import VisualRegression.Json.Writer
import VisualRegression.Main
import VisualRegression.Mask
import VisualRegression.Ordered.Map
import VisualRegression.Ordered.Set
import VisualRegression.Png.BitStream
import VisualRegression.Png.Checksum
import VisualRegression.Png.Chunk
import VisualRegression.Png.Codec
import VisualRegression.Png.Header
import VisualRegression.Png.Huffman
import VisualRegression.Png.Inflate
import VisualRegression.Png.Pass
import VisualRegression.Png.Sample
import VisualRegression.Png.Scanline
import VisualRegression.Policy
import VisualRegression.Proofs.Base64
import VisualRegression.Proofs.Batch.Agreement
import VisualRegression.Proofs.Batch.Interleaving
import VisualRegression.Proofs.Batch.Outcome
import VisualRegression.Proofs.Calendar
import VisualRegression.Proofs.Capture.Assembly
import VisualRegression.Proofs.Capture.CacheHistory
import VisualRegression.Proofs.Capture.Coherence
import VisualRegression.Proofs.Capture.Composer
import VisualRegression.Proofs.Capture.FullPage
import VisualRegression.Proofs.Capture.Scaling
import VisualRegression.Proofs.Capture.Stacking
import VisualRegression.Proofs.Capture.Viewport
import VisualRegression.Proofs.Check.Alike
import VisualRegression.Proofs.Check.Course
import VisualRegression.Proofs.Check.Defaults
import VisualRegression.Proofs.Check.Ending
import VisualRegression.Proofs.Check.IgnoreSources
import VisualRegression.Proofs.Check.Ignored
import VisualRegression.Proofs.Check.Labels
import VisualRegression.Proofs.Check.Lookups
import VisualRegression.Proofs.Check.PartyFaults
import VisualRegression.Proofs.Check.Requests
import VisualRegression.Proofs.Check.Stability
import VisualRegression.Proofs.Check.StoreUse
import VisualRegression.Proofs.Check.Verdict
import VisualRegression.Proofs.Check.WellFormed
import VisualRegression.Proofs.Decimal.Digits
import VisualRegression.Proofs.Difference.Count
import VisualRegression.Proofs.Difference.Extent
import VisualRegression.Proofs.Difference.Outcome
import VisualRegression.Proofs.Difference.Relations
import VisualRegression.Proofs.Difference.Share
import VisualRegression.Proofs.Failing
import VisualRegression.Proofs.FileSystem.Confinement
import VisualRegression.Proofs.FileSystem.Effect
import VisualRegression.Proofs.FileSystem.Growth
import VisualRegression.Proofs.FileSystem.Making
import VisualRegression.Proofs.FileSystem.Naming
import VisualRegression.Proofs.FileSystem.Operation
import VisualRegression.Proofs.FileSystem.Walk
import VisualRegression.Proofs.FileSystem.Writable
import VisualRegression.Proofs.Image
import VisualRegression.Proofs.Instant
import VisualRegression.Proofs.Json.Integer
import VisualRegression.Proofs.Json.Number
import VisualRegression.Proofs.Json.Plain
import VisualRegression.Proofs.Json.Sorted
import VisualRegression.Proofs.Json.Text
import VisualRegression.Proofs.Mask.Covered
import VisualRegression.Proofs.Mask.Filling
import VisualRegression.Proofs.Mask.Neutral
import VisualRegression.Proofs.Mask.Snapshots
import VisualRegression.Proofs.Ordered.Canonical
import VisualRegression.Proofs.Ordered.Map
import VisualRegression.Proofs.Ordered.Set
import VisualRegression.Proofs.Png.Codec
import VisualRegression.Proofs.Png.Fuel
import VisualRegression.Proofs.Png.Inflate
import VisualRegression.Proofs.Png.Rows
import VisualRegression.Proofs.Raster.Assembly
import VisualRegression.Proofs.Raster.Basic
import VisualRegression.Proofs.Raster.Comparison
import VisualRegression.Proofs.Raster.Drawing
import VisualRegression.Proofs.Raster.Masking
import VisualRegression.Proofs.Raster.Pipeline
import VisualRegression.Proofs.Raster.Sampling
import VisualRegression.Proofs.Raster.Stacking
import VisualRegression.Proofs.Rect.Clip
import VisualRegression.Proofs.Rect.Text
import VisualRegression.Proofs.Run.Course
import VisualRegression.Proofs.Run.Disk
import VisualRegression.Proofs.Run.FirstImage
import VisualRegression.Proofs.Run.Frame
import VisualRegression.Proofs.Run.Labels
import VisualRegression.Proofs.Run.Outcome
import VisualRegression.Proofs.Run.OutputPaths
import VisualRegression.Proofs.Run.Published
import VisualRegression.Proofs.Run.Publishing
import VisualRegression.Proofs.Run.Report
import VisualRegression.Proofs.Run.ReportText
import VisualRegression.Proofs.Run.Ways
import VisualRegression.Proofs.Run.Whole
import VisualRegression.Proofs.Store.Calls
import VisualRegression.Proofs.Store.Directory
import VisualRegression.Proofs.Store.History
import VisualRegression.Proofs.Store.Lasting
import VisualRegression.Proofs.Store.Memory
import VisualRegression.Proofs.Store.Names
import VisualRegression.Proofs.Store.Refinement
import VisualRegression.Proofs.Store.Saving
import VisualRegression.Proofs.Text.Grammar
import VisualRegression.Proofs.Wire.Faithful
import VisualRegression.Proofs.Wire.Survival
import VisualRegression.Rect.Basic
import VisualRegression.Rect.Text
import VisualRegression.Run.Attachment
import VisualRegression.Run.Basic
import VisualRegression.Run.FileCapture
import VisualRegression.Run.Request
import VisualRegression.Run.SoftAssert
import VisualRegression.Store.Basic
import VisualRegression.Store.Directory
import VisualRegression.Text.Blank
import VisualRegression.Text.Fields
import VisualRegression.Text.Numeral
import VisualRegression.Text.Quoted
import VisualRegression.Text.Standalone
import VisualRegression.Wire.Locator
import VisualRegression.Wire.Policy
import VisualRegression.Wire.Rect
import VisualRegression.Wire.Report
import VisualRegression.Yaml.Cursor
import VisualRegression.Yaml.Document
import VisualRegression.Yaml.Scalar
import VisualRegression.Yaml.Token
import VisualRegression.Yaml.Tokens
import VisualRegression.Yaml.Value
