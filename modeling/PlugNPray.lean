import PlugNPray.LogicalView
import PlugNPray.Pairing
import PlugNPray.WholeMessages
import PlugNPray.Stacks
import PlugNPray.Scheduler
import PlugNPray.Handlers
import PlugNPray.ReadyQueues
import PlugNPray.References
import PlugNPray.Moves
import PlugNPray.Priorities
import PlugNPray.Tokens
import PlugNPray.Shutdown
import PlugNPray.IoRequests
import PlugNPray.Resumption
import PlugNPray.MutexOwners
import PlugNPray.MutexPriorities
import PlugNPray.Refusals
import PlugNPray.SegmentIds
import PlugNPray.Restorations
import PlugNPray.Aborts
import PlugNPray.Waiting
import PlugNPray.StickRequests
import PlugNPray.ScriptLoader
import PlugNPray.StdinLines
import PlugNPray.Instructions
import PlugNPray.BlockCounts
import PlugNPray.StickRoutes
import PlugNPray.Interrupts
import PlugNPray.QuantumTimers
import PlugNPray.CpuRequests
import PlugNPray.RunningQuanta
import PlugNPray.LockWakeUps
import PlugNPray.ProcessLists
import PlugNPray.FlatAccess
import PlugNPray.PhysicalCalls
import PlugNPray.Preemption
import PlugNPray.SwapAgreement
import PlugNPray.CompactionLock
import PlugNPray.ReadyOrder
import PlugNPray.SwapSocket
import PlugNPray.CpuPlaces
import PlugNPray.CpuAccounts
import PlugNPray.StoppedCpus
import PlugNPray.ExactPriorities
