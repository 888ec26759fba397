import SealedRun.Arguments
import SealedRun.Artifacts
import SealedRun.Chain
import SealedRun.CommandLine
import SealedRun.Config
import SealedRun.Constraints
import SealedRun.Context.Cursor
import SealedRun.Context.Schema
import SealedRun.Continuation
import SealedRun.Error
import SealedRun.Failure
import SealedRun.Files
import SealedRun.Guest.Basic
import SealedRun.Guest.Io
import SealedRun.Guest.Script
import SealedRun.Host
import SealedRun.HostOp
import SealedRun.Json.Document
import SealedRun.Json.Literal
import SealedRun.Json.Reader
import SealedRun.Main
import SealedRun.Memory
import SealedRun.Numeral
import SealedRun.Path
import SealedRun.Pattern.Basic
import SealedRun.Pattern.Class
import SealedRun.Pattern.Reader
import SealedRun.Phantom.Registry
import SealedRun.Phantom.Sandbox
import SealedRun.Position
import SealedRun.Program
import SealedRun.Programs.BatchInput
import SealedRun.Programs.BinarySearch
import SealedRun.Programs.ContextSum
import SealedRun.Programs.Factors
import SealedRun.Programs.Fibonacci
import SealedRun.Programs.PhantomSearch
import SealedRun.Programs.Shelf
import SealedRun.Segment.Basic
import SealedRun.Segment.Document
import SealedRun.Sha256
import SealedRun.State
import SealedRun.Tape
import SealedRun.Text.Blank
import SealedRun.Text.CaseFold
import SealedRun.Text.Category
import SealedRun.Text.CharSet
import SealedRun.Text.Property
import SealedRun.Text.Quoted
import SealedRun.Text.Script
import SealedRun.Text.Utf8
import SealedRun.Trace
import SealedRun.Wire.Codec
import SealedRun.Wire.Domain
import SealedRun.Wire.Shape
import SealedRun.Word
import SealedRun.Proofs.Run.Gate
import SealedRun.Proofs.Run.Step
import SealedRun.Proofs.Context.Cursor
import SealedRun.Proofs.Run.FirstError
import SealedRun.Proofs.Segment.Projection
import SealedRun.Proofs.Chain.Linked
import SealedRun.Proofs.Continuation.History
import SealedRun.Proofs.Phantom.Transparency
import SealedRun.Proofs.Run.Refusal
import SealedRun.Proofs.Phantom.Isolation
import SealedRun.Proofs.Phantom.Designation
import SealedRun.Proofs.Input.Consumption
import SealedRun.Proofs.Memory.Consistency
import SealedRun.Proofs.Chain.Accepted
import SealedRun.Proofs.Wire.Lawful
import SealedRun.Proofs.Trace.Bytes
import SealedRun.Proofs.Trace.Collision
import SealedRun.Proofs.Chain.Tampering
import SealedRun.Proofs.Chain.Splicing
import SealedRun.Proofs.Context.Handover
import SealedRun.Proofs.Context.Discipline
import SealedRun.Proofs.Continuation.Provision
import SealedRun.Proofs.Wire.Layout
import SealedRun.Proofs.Wire.Packing
import SealedRun.Proofs.Input.Reading
import SealedRun.Proofs.Input.Bulk
import SealedRun.Proofs.Guest.Decoding
import SealedRun.Proofs.Guest.Framing
import SealedRun.Proofs.Input.Secrecy
import SealedRun.Proofs.Json.Literals
import SealedRun.Proofs.Json.Rendered
import SealedRun.Proofs.Json.Fields
import SealedRun.Proofs.Files.Places
import SealedRun.Proofs.Segment.Lossless
import SealedRun.Proofs.Files.Directories
import SealedRun.Proofs.Continuation.Splitting
import SealedRun.Proofs.CommandLine.Effects
import SealedRun.Proofs.CommandLine.Agreement
import SealedRun.Proofs.Arguments.Digits
import SealedRun.Proofs.Arguments.Grammar
import SealedRun.Proofs.Guest.Storing
import SealedRun.Proofs.Phantom.Loading
import SealedRun.Proofs.Programs.LowerBound
import SealedRun.Proofs.Programs.CheckedSearch
import SealedRun.Proofs.Continuation.Alone
import SealedRun.Proofs.Programs.HiddenFactors
import SealedRun.Proofs.Programs.ExactNumbers
import SealedRun.Proofs.Programs.DoubledSums
import SealedRun.Proofs.Guest.Lookups
import SealedRun.Proofs.Programs.Halving
import SealedRun.Proofs.Programs.AnyMemory
import SealedRun.Proofs.CommandLine.Inputs
import SealedRun.Proofs.Files.Words
import SealedRun.Proofs.Guest.AddressLimit
import SealedRun.Proofs.Trace.Checkpoints
