import StorageManager.Lib.Machine
import StorageManager.Lib.CString
import StorageManager.Lib.Slots
import StorageManager.Lib.Bytes
import StorageManager.Lib.Shell
import StorageManager.Lib.Files
import StorageManager.Daemon.Workers
import StorageManager.Daemon.WorkerSteps
import StorageManager.Daemon.WorkerRaces
import StorageManager.Daemon.WorkerSlots
import StorageManager.Daemon.PidFile
import StorageManager.Daemon.PidProtocol
import StorageManager.Daemon.Startup
import StorageManager.Ipc.Messages
import StorageManager.Ipc.Server
import StorageManager.Ipc.Protocol
import StorageManager.Backup.Catalogue
import StorageManager.Backup.Engine
import StorageManager.Backup.Restore
import StorageManager.Backup.Runs
import StorageManager.Kernel.Stats
import StorageManager.Kernel.StatsRaces
import StorageManager.Daemon.Lifecycle
import StorageManager.Backup.Retention
import StorageManager.Backup.Selection
import StorageManager.Backup.Readers
import StorageManager.Scripts.AutoBackup
import StorageManager.Lib.Scan
import StorageManager.Common
import StorageManager.Volumes.Physical
import StorageManager.Volumes.Filesystems
import StorageManager.Lib.ShellLine
import StorageManager.Lib.ShellWeight
import StorageManager.CommandLines
import StorageManager.Memory.Swap
import StorageManager.Memory.Meminfo
import StorageManager.Memory.SwapList
import StorageManager.Monitor.Performance
import StorageManager.Monitor.Diskstats
import StorageManager.Monitor.Conservation
import StorageManager.Monitor.Continuous
import StorageManager.Monitor.History
import StorageManager.Security.Audit
import StorageManager.Security.Attributes
import StorageManager.Volumes.Arrays
import StorageManager.Cli.Main
import StorageManager.Backup.Snapshot
import StorageManager.Lib.Columns
import StorageManager.Volumes.RaidStatus
import StorageManager.Volumes.RaidMembers
import StorageManager.Volumes.DeviceLists
import StorageManager.Volumes.Listings
import StorageManager.Scripts.HealthCheck
import StorageManager.Kernel.Commands
import StorageManager.Daemon.PidCycle
import StorageManager.Daemon.WorkerCopies
import StorageManager.Security.Acl
import StorageManager.Security.AclRuns
import StorageManager.Security.LuksRuns
import StorageManager.Security.AuditReader
import StorageManager.Tuning.Profile
import StorageManager.Scripts.DiskCheck
import StorageManager.Scripts.Verify
import StorageManager.Volumes.Mounts
import StorageManager.Ipc.Exchange
import StorageManager.Lib.Fair
import StorageManager.Ipc.JobQueue
import StorageManager.Backup.Scheduler
import StorageManager.Daemon.Termination
import StorageManager.Daemon.RunningChildren
import StorageManager.Daemon.MainLoop
import StorageManager.Daemon.Shutdown
import StorageManager.Ipc.Connections
import StorageManager.Lib.Script
import StorageManager.Scripts.BackupMain
import StorageManager.Scripts.SetupLoops
import StorageManager.Scripts.HealthMain
import StorageManager.Monitor.Pipeline
import StorageManager.Volumes.Administration
import StorageManager.Volumes.RaidList
