import Liteio.Library.MachineInt
import Liteio.Library.FiniteMap
import Liteio.Library.Runs
import Liteio.Library.Optimistic
import Liteio.Library.ObjectStore
import Liteio.Library.Strconv
import Liteio.Library.InverseIndex
import Liteio.Api.Objects
import Liteio.State.Node
import Liteio.State.Ledger
import Liteio.State.Store
import Liteio.State.Index
import Liteio.State.FreeCache
import Liteio.State.Room
import Liteio.State.Consumed
import Liteio.Scheduler.Filter
import Liteio.Library.Sorting
import Liteio.Library.Traverse
import Liteio.Library.Shards
import Liteio.Scheduler.Fit
import Liteio.Scheduler.Schedule
import Liteio.Scheduler.Choice
import Liteio.Scheduler.HostNode
import Liteio.Scheduler.Winners
import Liteio.Scheduler.Optimal
import Liteio.Scheduler.Interleaving
import Liteio.Handler.Events
import Liteio.Handler.Site
import Liteio.Handler.Placement
import Liteio.Handler.NodeOrders
import Liteio.Handler.Restart
import Liteio.Handler.Leak
import Liteio.VolumeGroup.Sched
import Liteio.VolumeGroup.Complete
import Liteio.VolumeGroup.Entries
import Liteio.VolumeGroup.Fits
import Liteio.VolumeGroup.Ranges
import Liteio.VolumeGroup.Conserved
import Liteio.VolumeGroup.Covered
import Liteio.VolumeGroup.LocalLine
import Liteio.VolumeGroup.Pinned
import Liteio.VolumeGroup.Reconcile
import Liteio.VolumeGroup.Linked
import Liteio.VolumeGroup.Ready
import Liteio.VolumeGroup.Rollback
import Liteio.Nvme.Subsystems
import Liteio.Migration.Objects
import Liteio.Migration.Reconcile
import Liteio.Migration.Protocol
import Liteio.Migration.Safety
import Liteio.Migration.Cleaning
import Liteio.Migration.Placement
import Liteio.Migration.Finished
import Liteio.Spdk.Migrate
import Liteio.Snapshot.Sync
import Liteio.Snapshot.Protocol
import Liteio.Snapshot.Exclusion
import Liteio.Snapshot.Merge
import Liteio.Csi.Create
import Liteio.Plugin.Phases
import Liteio.Plugin.Held
import Liteio.Plugin.Panics
import Liteio.Plugin.Restore
import Liteio.Plugin.Patches
import Liteio.Plugin.Trace
import Liteio.Plugin.Return
import Liteio.Library.Worker
import Liteio.Library.Programs
import Liteio.Agent.Volume
import Liteio.Agent.Engine
import Liteio.Agent.Retry
import Liteio.Snapshot.Restore
import Liteio.Agent.Passes
import Liteio.Agent.Expand
import Liteio.Spdk.Targets
import Liteio.Agent.Access
import Liteio.Agent.Hosts
import Liteio.Agent.Served
import Liteio.Agent.Published
import Liteio.Agent.Pool
import Liteio.Agent.Watcher
import Liteio.Reconciler.Volume
import Liteio.Reconciler.Charged
import Liteio.Reconciler.Orphans
import Liteio.Reconciler.PoolDeletion
import Liteio.Reconciler.LockPool
import Liteio.Reconciler.PoolConditions
import Liteio.Reconciler.PoolPass
import Liteio.Reconciler.PoolRemoval
import Liteio.Reconciler.NilFields
import Liteio.Reconciler.LocalCapacity
import Liteio.Reconciler.DeadNodes
import Liteio.Reconciler.PoolSpec
import Liteio.Scheduler.Limits
import Liteio.Scheduler.LocalShare
import Liteio.Scheduler.Replica
import Liteio.Spdk.Ports
import Liteio.Spdk.NextID
import Liteio.Spdk.JsonRpc
import Liteio.Spdk.Retries
import Liteio.Spdk.Starved
import Liteio.Spdk.Stats
import Liteio.Agent.Metrics
import Liteio.Csi.Client
import Liteio.Csi.Capacity
import Liteio.Csi.Retries
import Liteio.Csi.Released
import Liteio.Library.Requests
import Liteio.Csi.Node
import Liteio.Csi.Devices
import Liteio.Csi.Clone
import Liteio.Csi.Expansion
import Liteio.Library.Orm
import Liteio.Library.Strings
import Liteio.Library.Tally
import Liteio.Library.Collect
import Liteio.SyncMeta.Tables
import Liteio.SyncMeta.Syncer
import Liteio.SyncMeta.Marks
import Liteio.SyncMeta.Others
import Liteio.Lvm.Listing
import Liteio.Agent.Runnables
import Liteio.Agent.RunnableSafety
import Liteio.Library.Ownership
import Liteio.Library.WorkQueue
import Liteio.Agent.Loops
import Liteio.Reconciler.Plugable
import Liteio.Library.Meets
import Liteio.DataControl.Agent
import Liteio.DataControl.Protocol
import Liteio.DataControl.Converges
import Liteio.Reconciler.Provisioning
import Liteio.Reconciler.Converges
import Liteio.Reconciler.Removal
import Liteio.Migration.Converges
