import Peraviz.Dmx.ArtNetReceiver
import Peraviz.Dmx.Mailbox.Protocol
import Peraviz.Presentation.AsyncPipeline.Protocol
import Peraviz.Runtime.Codec.RoundTrip
import Peraviz.Runtime.Core.Impl
import Peraviz.Runtime.Frame.Lemmas
import Peraviz.Runtime.Plan.Schedule
import Peraviz.Runtime.Coherence.Core
import Peraviz.Runtime.Codec.Safety
import Peraviz.Runtime.Install.Safety
import Peraviz.Runtime.Replay.Runs
import Peraviz.Runtime.Async.Retirement
import Peraviz.Gdtf.Safety
import Peraviz.Presentation.Setup.RenderGroups
import Peraviz.Mvrxchange.PacketStream
import Peraviz.Runtime.Shutter.Phase
import Peraviz.Runtime.Shutter.Random
import Peraviz.Runtime.Shutter.Layout
import Peraviz.Presentation.ShutterPlayback.Atomic
import Peraviz.Gdtf.GeometryPaths
import Peraviz.Presentation.RenderState.Deltas
import Peraviz.Runtime.Motion.Continuity
import Peraviz.Runtime.Order.Runs
import Peraviz.Dmx.ArtNetSequenceTracker
import Peraviz.Gdtf.DmxValue.Grammar
import Peraviz.Gdtf.ModeMaster.Graph
import Peraviz.Gdtf.ModeMaster.Agreement
import Peraviz.Presentation.RenderState.Replay
import Peraviz.Presentation.Setup.Enclosure
import Peraviz.Runtime.Shutter.Transport
import Peraviz.Chain.Basic
import Peraviz.Checked.OptionFold
import Peraviz.Dmx.ChangeTracking
import Peraviz.Gdtf.ActivationClosure
import Peraviz.Gdtf.AssetCache
import Peraviz.Gdtf.AttributeGrammar
import Peraviz.Gdtf.AttributeNormalization
import Peraviz.Gdtf.FunctionRanges
import Peraviz.Gdtf.GeometryIds
import Peraviz.Gdtf.GeometryTemplates
import Peraviz.Gdtf.GeometryTermination
import Peraviz.Gdtf.InstanceRoutes
import Peraviz.Gdtf.PatchAddresses
import Peraviz.Dmx.Binding.ChannelSets
import Peraviz.Dmx.Binding.GoboSets
import Peraviz.Dmx.Binding.Impl
import Peraviz.Dmx.Binding.Indices
import Peraviz.Dmx.Binding.Offsets
import Peraviz.Dmx.Binding.SetOrder
import Peraviz.Dmx.Binding.Validity
import Peraviz.Dmx.Decoder.Impl
import Peraviz.Dmx.Decoder.Rows
import Peraviz.Dmx.Decoder.Staleness
import Peraviz.Mvrxchange.CommitTable
import Peraviz.Mvrxchange.JsonRoundTrip
import Peraviz.Mvrxchange.LatestRevision
import Peraviz.Mvrxchange.ServiceName
import Peraviz.Project.Archive
import Peraviz.Chunked.Basic
import Peraviz.Cyclic.Basic
import Peraviz.Dmx.LatencyHistogram
import Peraviz.Gdtf.ArchivePaths
import Peraviz.Gdtf.ExtractionPaths
import Peraviz.Labels.Basic
import Peraviz.Mesh3ds.Validated
import Peraviz.Mesh3ds.Objects
import Peraviz.Mvrxchange.LocalStation
import Peraviz.Presentation.GoboTopology.Impl
import Peraviz.Presentation.GoboTopology.Simplify
import Peraviz.Presentation.GoboTopology.Topology
import Peraviz.Runtime.DirtyStorage
import Peraviz.Runtime.WorkerPool.Coverage
import Peraviz.Runtime.Packed.Domains
import Peraviz.Runtime.Packed.Properties
import Peraviz.Runtime.Packed.Runs
import Peraviz.Dmx.Mailbox.Arrival
import Peraviz.Runtime.Async.Arrival
import Peraviz.Runtime.Prefetch.Cache
import Peraviz.Runtime.Prefetch.Colors
import Peraviz.Runtime.Prefetch.Runs
import Peraviz.Packing.Basic
import Peraviz.Runtime.Frame.Accepted
import Peraviz.Runtime.Frame.Sections
import Peraviz.Runtime.Schema.Emission
import Peraviz.Runtime.Schema.Runs
import Peraviz.Presentation.RenderState.Transport
import Peraviz.Presentation.RendererCaches.Impl
import Peraviz.Presentation.RendererCaches.Lenses
import Peraviz.Presentation.RendererCaches.Shown
