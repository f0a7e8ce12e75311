import RockchipVaapi.Bs.Calls
import RockchipVaapi.Bs.Nal
import RockchipVaapi.Bs.Writer
import RockchipVaapi.Buffer.Coded
import RockchipVaapi.Buffer.Create
import RockchipVaapi.Config.Attributes
import RockchipVaapi.Config.Contract
import RockchipVaapi.Config.Profiles
import RockchipVaapi.Decode.AccessUnit
import RockchipVaapi.Decode.Backpressure
import RockchipVaapi.Decode.Buffers
import RockchipVaapi.Decode.FieldPairs
import RockchipVaapi.Decode.Fifo
import RockchipVaapi.Decode.Outstanding
import RockchipVaapi.Decode.Packet
import RockchipVaapi.Decode.Polling
import RockchipVaapi.Decode.Pool
import RockchipVaapi.Decode.RouteLedger
import RockchipVaapi.Decode.ScalingLists
import RockchipVaapi.Decode.SequenceHeaders
import RockchipVaapi.Decode.Steps
import RockchipVaapi.Decode.System
import RockchipVaapi.Decode.Teardown
import RockchipVaapi.Decode.TokenRouting
import RockchipVaapi.Decode.Verdict
import RockchipVaapi.Decode.WorkerMove
import RockchipVaapi.Driver.Calls
import RockchipVaapi.Driver.Conserved
import RockchipVaapi.Driver.Objects
import RockchipVaapi.Driver.Rules
import RockchipVaapi.Driver.Worker
import RockchipVaapi.Encoder.Encode
import RockchipVaapi.Encoder.Parameters
import RockchipVaapi.Encoder.Rejected
import RockchipVaapi.Encoder.Slices
import RockchipVaapi.H264.EndPicture
import RockchipVaapi.H264.Job
import RockchipVaapi.H264.Level
import RockchipVaapi.H264.ParameterSets
import RockchipVaapi.H264.RoundTrip
import RockchipVaapi.H264.Syntax
import RockchipVaapi.Hevc.BitReader
import RockchipVaapi.Hevc.Checked
import RockchipVaapi.Hevc.Emulation
import RockchipVaapi.Hevc.ExpGolomb
import RockchipVaapi.Hevc.Job
import RockchipVaapi.Hevc.LongTerm
import RockchipVaapi.Hevc.ParameterSets
import RockchipVaapi.Hevc.RoundTrip
import RockchipVaapi.Hevc.Rps
import RockchipVaapi.Hevc.SequenceBytes
import RockchipVaapi.Hevc.ShortTerm
import RockchipVaapi.Hevc.SliceData
import RockchipVaapi.Hevc.SliceIdentity
import RockchipVaapi.Hevc.SliceRewrite
import RockchipVaapi.Hevc.SliceRewriteProofs
import RockchipVaapi.Hevc.SliceSafety
import RockchipVaapi.Hevc.SliceSyntax
import RockchipVaapi.Hevc.SliceWriter
import RockchipVaapi.Hevc.Syntax
import RockchipVaapi.Hevc.Tiles
import RockchipVaapi.Hevc.Va
import RockchipVaapi.Misc.Bits
import RockchipVaapi.Misc.Bounds
import RockchipVaapi.Misc.ByteStream
import RockchipVaapi.Misc.Custody
import RockchipVaapi.Misc.Cuts
import RockchipVaapi.Misc.FreshMap
import RockchipVaapi.Misc.Grammar
import RockchipVaapi.Misc.Guarded
import RockchipVaapi.Misc.Ledger
import RockchipVaapi.Misc.Memory
import RockchipVaapi.Misc.Planes
import RockchipVaapi.Misc.References.Changes
import RockchipVaapi.Misc.References.Effects
import RockchipVaapi.Misc.References.Program
import RockchipVaapi.Misc.References.Sane
import RockchipVaapi.Misc.References.Soundness
import RockchipVaapi.Misc.References.World
import RockchipVaapi.Misc.Scan
import RockchipVaapi.Misc.SyntaxReader
import RockchipVaapi.Misc.Table
import RockchipVaapi.Misc.Transition
import RockchipVaapi.ObjectHeap.FreeList
import RockchipVaapi.ObjectHeap.Heap
import RockchipVaapi.ObjectHeap.Lifetime
import RockchipVaapi.ObjectHeap.Refinement
import RockchipVaapi.Picture.Isolation
import RockchipVaapi.Picture.Lifetime
import RockchipVaapi.Picture.State
import RockchipVaapi.Surface.AllOrNothing
import RockchipVaapi.Surface.Assign
import RockchipVaapi.Surface.Attributes
import RockchipVaapi.Surface.Convert
import RockchipVaapi.Surface.Create
import RockchipVaapi.Surface.CreateSurfaces
import RockchipVaapi.Surface.Derived
import RockchipVaapi.Surface.DerivedCurrent
import RockchipVaapi.Surface.DerivedWindow
import RockchipVaapi.Surface.Enclose
import RockchipVaapi.Surface.Export
import RockchipVaapi.Surface.ExportCache
import RockchipVaapi.Surface.Handles
import RockchipVaapi.Surface.Image
import RockchipVaapi.Surface.ImageBounds
import RockchipVaapi.Surface.ImageChecked
import RockchipVaapi.Surface.ImageRoundTrip
import RockchipVaapi.Surface.ImageTransfer
import RockchipVaapi.Surface.Inside
import RockchipVaapi.Surface.Layout
import RockchipVaapi.Surface.Normalize
import RockchipVaapi.Surface.Placeholder
import RockchipVaapi.Surface.Stable
import RockchipVaapi.Surface.State
import RockchipVaapi.Surface.System
import RockchipVaapi.Vp9.Checked
import RockchipVaapi.Vp9.Grammar
import RockchipVaapi.Vp9.Header
import RockchipVaapi.Vp9.Hidden
import RockchipVaapi.Vp9.Job
import RockchipVaapi.Surface.EncoderInput
