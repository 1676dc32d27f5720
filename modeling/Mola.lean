import Mola.Runs
import Mola.Places
import Mola.Chains
import Mola.Mailbox
import Mola.MailboxContents
import Mola.MailboxRuns
import Mola.Tallies
import Mola.Scheduling
import Mola.SchedulingRuns
import Mola.Routing
import Mola.ByteOrder
import Mola.Messages
import Mola.Gateway
import Mola.Rings
import Mola.WorkSteal
import Mola.WorkStealFacts
import Mola.WorkStealRuns
import Mola.Tickets
import Mola.Requests
import Mola.Ledger
import Mola.Continuations
import Mola.ContinuationLaws
import Mola.ContinuationOutputs
import Mola.ContinuationRoots
import Mola.RequestViews
import Mola.RequestIds
import Mola.RequestSteps
import Mola.RequestTurns
import Mola.RequestRuns
import Mola.NestedReplies
import Mola.GatherRuns
import Mola.RequestOrigins
import Mola.RequestNetwork
import Mola.AsyncLocks
import Mola.DistributedLock
import Mola.DistributedLockRuns
import Mola.Dispatch
import Mola.RequestDispatch
import Mola.StartUp
import Mola.WorkStealCounts
import Mola.WorkerPool
import Mola.WorkerPoolRuns
import Mola.StreamHandler
import Mola.StreamHandlerRuns
import Mola.FiberSteps
import Mola.FiberRuns
import Mola.FiberEvents
import Mola.FiberEventRuns
import Mola.NodeTable
import Mola.NodeTableRuns
import Mola.DelayPool
import Mola.DelayedDispatch
import Mola.DelayedDispatchRuns
import Mola.JenkinsHash
import Mola.HashTable
import Mola.HashTableRuns
import Mola.KeyValueStore
import Mola.KeyValueStoreRuns
import Mola.ModuleIds
import Mola.Handshakes
import Mola.ClientConn
import Mola.ClientReplies
import Mola.ClientReceivers
import Mola.ClientIdentity
import Mola.ConcurrentLinkedQueue
import Mola.ConcurrentLinkedQueueFacts
import Mola.ConcurrentLinkedQueueRuns
import Mola.JenkinsHashBranches
import Mola.Sends
import Mola.UndeployedModules
import Mola.FailedScatters
import Mola.MailboxClose
import Mola.FiberExits
import Mola.ActorExits
import Mola.CachedNodes
import Mola.CurrentFibers
import Mola.Decimals
import Mola.LoadBalance
import Mola.LockPaths
import Mola.NodeIds
import Mola.NodeRecords
import Mola.OptionFiles
import Mola.OptionTokens
import Mola.Residues
import Mola.SavedContexts
import Mola.Timers
import Mola.Generators
import Mola.VictimSelection
import Mola.Numerals
import Mola.HostNames
import Mola.Streams
import Mola.HeadBody
import Mola.PackageSizes
