import RasterTensor.Catalogue
import RasterTensor.Main
import RasterTensor.Tensor.Memory
import RasterTensor.Proofs.Files.Frame
import RasterTensor.Proofs.Files.Directories
import RasterTensor.Proofs.Files.PathText
import RasterTensor.Proofs.Steps
import RasterTensor.Proofs.Tensor.Creation
import RasterTensor.Proofs.Tensor.Strides
import RasterTensor.Proofs.Conversion.Stages
import RasterTensor.Proofs.Conversion.Atomicity
import RasterTensor.Proofs.Tensor.Elements
import RasterTensor.Proofs.Outcomes
import RasterTensor.Proofs.Tensor.Offers
import RasterTensor.Proofs.Tensor.Chunks
import RasterTensor.Proofs.Tensor.Indexing
import RasterTensor.Proofs.Tensor.Images
import RasterTensor.Proofs.Settings
import RasterTensor.Proofs.Tensor.Reading
import RasterTensor.Proofs.Tensor.Sizes
import RasterTensor.Proofs.Tensor.Resizing
import RasterTensor.Proofs.Tensor.Weights
import RasterTensor.Proofs.Tensor.Interpolation
import RasterTensor.Proofs.Tensor.Channels
import RasterTensor.Proofs.Conversion.ReadBack
import RasterTensor.Proofs.Report
import RasterTensor.Proofs.CommandLine.Effective
import RasterTensor.Proofs.CommandLine.Ends
import RasterTensor.Proofs.CommandLine.Outputs
import RasterTensor.Proofs.Conversion.Course
import RasterTensor.Proofs.Conversion.Exclusion
import RasterTensor.Proofs.Conversion.Announcements
import RasterTensor.Proofs.Binary.Nearest
import RasterTensor.Proofs.Binary.Intervals
import RasterTensor.Proofs.Binary.Floors
import RasterTensor.Proofs.Binary.Rounding
import RasterTensor.Proofs.Normalization.Samples
import RasterTensor.Proofs.Normalization.Finalizers
import RasterTensor.Proofs.Normalization.Pointwise
import RasterTensor.Proofs.Normalization.Layouts
import RasterTensor.Proofs.Conversion.Lossless
import RasterTensor.Proofs.Decimal.Numerals
import RasterTensor.Proofs.Document.Rearranged
import RasterTensor.Proofs.Document.Writable
import RasterTensor.Proofs.Settings.Keys
import RasterTensor.Proofs.Settings.Order
import RasterTensor.Proofs.Settings.RoundTrip
import RasterTensor.Proofs.Settings.Refusals
import RasterTensor.Proofs.CommandLine.Precedence
import RasterTensor.Proofs.Files.Alike
import RasterTensor.Proofs.Lockstep
import RasterTensor.Proofs.Conversion.Alike
import RasterTensor.Proofs.CommandLine.Split
import RasterTensor.Proofs.Text.Plain
import RasterTensor.Proofs.Json.Strings
import RasterTensor.Proofs.Json.Sorting
import RasterTensor.Proofs.Json.Numbers
import RasterTensor.Proofs.Json.Members
import RasterTensor.Proofs.Json.Nesting
import RasterTensor.Proofs.Json.RoundTrip
import RasterTensor.Proofs.Raster.Size
import RasterTensor.Proofs.Raster.Integers
import RasterTensor.Proofs.Report.Contents
import RasterTensor.Proofs.Report.Reload
import RasterTensor.Proofs.Report.Sidecar
import RasterTensor.Proofs.CommandLine.Sidecar
import RasterTensor.Proofs.Tensor.Storing
import RasterTensor.Proofs.Raster.Outcome
import RasterTensor.Proofs.Settings.Files
import RasterTensor.Proofs.Text.Trimming
import RasterTensor.Proofs.Text.LetterCase
import RasterTensor.Proofs.Choice.Spelling
import RasterTensor.Proofs.Binary.Integers
import RasterTensor.Proofs.Decimal.Grammar
import RasterTensor.Proofs.Settings.Dimensions
import RasterTensor.Proofs.Binary.Patterns
import RasterTensor.Proofs.Binary.Limits
import RasterTensor.Proofs.Normalization.Entries
import RasterTensor.Proofs.Normalization.Arguments
import RasterTensor.Proofs.Normalization.Deviation
import RasterTensor.Proofs.Normalization.Scales
