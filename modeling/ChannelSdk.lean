import ChannelSdk.Lib.CircularWindow
import ChannelSdk.Lib.CheckedMemory
import ChannelSdk.Lib.CheckedFold
import ChannelSdk.Lib.CheckedOutcome
import ChannelSdk.Lib.CheckedOrder
import ChannelSdk.Lib.FirstEntries
import ChannelSdk.Lib.TransitionMachine
import ChannelSdk.Lib.StableQuery
import ChannelSdk.Lib.JsonText
import ChannelSdk.Lib.JsonGrammar
import ChannelSdk.Lib.ObjectCache
import ChannelSdk.Lib.WhileLoop
import ChannelSdk.CycleBuffer
import ChannelSdk.CycleBufferFifo
import ChannelSdk.CycleBufferRuns
import ChannelSdk.FramedReads
import ChannelSdk.FramedSafety
import ChannelSdk.FramedRuns
import ChannelSdk.ClientConnection
import ChannelSdk.ClientConnectionRuns
import ChannelSdk.ReceiveZero
import ChannelSdk.BufferedConnection
import ChannelSdk.ReceiveBounds
import ChannelSdk.BuildAgreement
import ChannelSdk.GrowthSafety
import ChannelSdk.NarrowedLengths
import ChannelSdk.WorkQueue
import ChannelSdk.WorkQueueRuns
import ChannelSdk.WorkQueueCompletions
import ChannelSdk.IoChannelServant
import ChannelSdk.AsyncServant
import ChannelSdk.ServantVariants
import ChannelSdk.ServantAgreement
import ChannelSdk.SyncClient
import ChannelSdk.SendDelivery
import ChannelSdk.SendTimeout
import ChannelSdk.JsonDocument
import ChannelSdk.ChannelConfig
import ChannelSdk.ParserLoops
import ChannelSdk.LoadedConfig
import ChannelSdk.DocumentTypes
import ChannelSdk.NodeTopology
import ChannelSdk.TopologyDuality
import ChannelSdk.TaskClosure
import ChannelSdk.Event
import ChannelSdk.NodeLookup
import ChannelSdk.LoadedRoles
import ChannelSdk.LoadOutcome
import ChannelSdk.LoadedInvariant
import ChannelSdk.DocumentOrder
import ChannelSdk.ServerRecords
import ChannelSdk.FullMesh
import ChannelSdk.ConfigQueries
import ChannelSdk.PolicyText
import ChannelSdk.RapidJsonReader
import ChannelSdk.RapidJsonBounds
import ChannelSdk.RapidJsonTokens
import ChannelSdk.RapidJsonGrammar
import ChannelSdk.ConfigFile
import ChannelSdk.ConfigText
import ChannelSdk.Endpoints
import ChannelSdk.ServantIdentity
import ChannelSdk.EndpointAgreement
import ChannelSdk.ViaNetIo
import ChannelSdk.IoChannelImpl
import ChannelSdk.ChannelViews
import ChannelSdk.ChannelViewRuns
import ChannelSdk.InitBarrier
import ChannelSdk.InitBarrierFlags
import ChannelSdk.InitBarrierRuns
import ChannelSdk.InitPing
import ChannelSdk.Lib.KeyedLog
import ChannelSdk.Lib.Simulation
import ChannelSdk.NodeSession
import ChannelSdk.InitSettled
import ChannelSdk.SessionInit
import ChannelSdk.SessionDelivery
import ChannelSdk.Lib.SharedStore
import ChannelSdk.SharedReceive
import ChannelSdk.InitFailures
import ChannelSdk.RingThreads
import ChannelSdk.RapidJsonSoundness
import ChannelSdk.ConfigAcceptance
import ChannelSdk.IceStreams
import ChannelSdk.Marshalling
import ChannelSdk.Lib.BlockLedger
import ChannelSdk.ViewBlocks
import ChannelSdk.Lib.TimedStore
import ChannelSdk.TimedReceive
import ChannelSdk.Lib.MachineFamily
import ChannelSdk.WorkQueueCalls
import ChannelSdk.ServerLife
import ChannelSdk.ServerRequests
import ChannelSdk.ServerTeardown
import ChannelSdk.Lib.GuardedDigits
import ChannelSdk.RapidJsonNumberScan
import ChannelSdk.RapidJsonNumberSafety
import ChannelSdk.RapidJsonIntegers
import ChannelSdk.RapidJsonDecimals
import ChannelSdk.IntegerSettings
