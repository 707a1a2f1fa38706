import Nemor.Lib.Effectful
import Nemor.Lib.Linking
import Nemor.Lib.Log
import Nemor.Lib.MachineNumbers
import Nemor.Lib.CheckedCounters
import Nemor.Lib.OrderedMap
import Nemor.Lib.Grouping
import Nemor.Lib.Procedure
import Nemor.Lib.Fallible
import Nemor.Lib.Framing
import Nemor.Lib.Machine
import Nemor.Lib.Median
import Nemor.Lib.Extremum
import Nemor.Lib.Interval
import Nemor.Lib.Interleaving
import Nemor.Lib.Streaming
import Nemor.Lib.Table
import Nemor.Lib.KeyedTable
import Nemor.Lib.Polling
import Nemor.Lib.Bracket
import Nemor.Lib.Shuffle
import Nemor.Lib.KeyedLines
import Nemor.Lib.FoldedLines
import Nemor.Lib.Latest
import Nemor.Lib.SortedSet
import Nemor.Lib.Expiry
import Nemor.Lib.Aggregate
import Nemor.Lib.Walk
import Nemor.Lib.UnixPath
import Nemor.Lib.Text
import Nemor.Lib.Replacing
import Nemor.Lib.JsonDocument
import Nemor.Lib.MemberOrder
import Nemor.Lib.Fields
import Nemor.Lib.Rotation
import Nemor.Lib.Rendering
import Nemor.Lib.CutText
import Nemor.Lib.JsonText
import Nemor.Lib.Binary64
import Nemor.Lib.Decimals
import Nemor.Lib.RoundingError
import Nemor.Actuator.Types
import Nemor.Actuator.Kernel
import Nemor.Actuator.World
import Nemor.Actuator.Transaction
import Nemor.Actuator.Effect
import Nemor.Actuator.Durability
import Nemor.Actuator.Recovery
import Nemor.Actuator.SnapshotStore
import Nemor.Actuator.RoundTrip
import Nemor.Actuator.Verification
import Nemor.Policy.Input
import Nemor.Policy.Transition
import Nemor.Policy.Engine
import Nemor.Policy.Hysteresis
import Nemor.Policy.RecoveryPath
import Nemor.Policy.Planning
import Nemor.Policy.Clock
import Nemor.Policy.Escalation
import Nemor.Policy.Severity
import Nemor.Common.Config
import Nemor.Actuator.Budget
import Nemor.Actuator.Confinement
import Nemor.Ksm.Controller
import Nemor.Ksm.Recovery
import Nemor.Ksm.Smaps
import Nemor.Ksm.Scope
import Nemor.Ksm.MergeableScope
import Nemor.Ksm.Eligibility
import Nemor.Damon.Windows
import Nemor.Damon.Zones
import Nemor.Damon.Backing
import Nemor.Damon.Trace
import Nemor.Damon.Export
import Nemor.Damos.Plan
import Nemor.Damos.Residency
import Nemor.Damos.Shadow
import Nemor.Damos.RoundTrip
import Nemor.Zram.Backend
import Nemor.Zram.Transaction
import Nemor.Zram.Invariant
import Nemor.Zram.NoSwapLoss
import Nemor.Zram.Atomicity
import Nemor.Zram.CrashRecovery
import Nemor.Zram.RollbackReport
import Nemor.Zram.Selection
import Nemor.Tiering.BootV6.Types
import Nemor.Tiering.BootV6.Manifest
import Nemor.Tiering.BootV6.Transaction
import Nemor.Tiering.BootV6.Lifecycle
import Nemor.Tiering.BootV6.Discipline
import Nemor.Tiering.BootV6.HealthyHost
import Nemor.Tiering.BootV6.Completion
import Nemor.Tiering.BootV6.Entry
import Nemor.Tiering.BootV6.CleanupGate
import Nemor.Tiering.BootV6.WriteAhead
import Nemor.Tiering.BootV6.Seal
import Nemor.Tiering.BootV6.ApplyAtomicity
import Nemor.Tiering.Swapfile.Transaction
import Nemor.Tiering.Swapfile.Linux
import Nemor.Tiering.Swapfile.Kernel
import Nemor.Tiering.Swapfile.Baseline
import Nemor.Tiering.Swapfile.Failures
import Nemor.Tiering.Swapfile.Retry
import Nemor.Tiering.Swapfile.Creation
import Nemor.Tiering.Swapfile.Planning
import Nemor.Tiering.Topology
import Nemor.Tiering.WriteBudget
import Nemor.Tiering.Recommendation
import Nemor.Classifier.Stabilizer
import Nemor.Classifier.Identity
import Nemor.Classifier.Process
import Nemor.Classifier.Ancestry
import Nemor.Classifier.Launcher
import Nemor.Classifier.Workload
import Nemor.Storage.PolicyLog
import Nemor.Storage.Catalog
import Nemor.Storage.Schema
import Nemor.Storage.Migration
import Nemor.Pressure.Worker
import Nemor.Capacity.Evidence
import Nemor.Capacity.Evaluate
import Nemor.Capacity.Figures
import Nemor.Capacity.Benchmark
import Nemor.Capacity.SearchEnvelope
import Nemor.Capacity.Orchestration
import Nemor.Capacity.Compatibility
import Nemor.Capacity.RequiredComponents
import Nemor.Capacity.Host
import Nemor.Capacity.Reconcile
import Nemor.Capacity.Target
import Nemor.Capacity.Composition
import Nemor.Capacity.Calls
import Nemor.Capacity.Custody
import Nemor.Capacity.ReconcileScope
import Nemor.Capacity.Boundary
import Nemor.Capacity.CommandProtocol
import Nemor.Capacity.ExternalValidation
import Nemor.Capacity.PrerequisiteStatus
import Nemor.Pressure.Plan
import Nemor.Pressure.Evidence
import Nemor.Pressure.Simulation
import Nemor.Pressure.Experiment
import Nemor.Pressure.Store
import Nemor.Pressure.HoldSampling
import Nemor.Pressure.LevelVerdict
import Nemor.Pressure.Refinement
import Nemor.Pressure.RunOrder
import Nemor.Performance.Evidence
import Nemor.Performance.Overhead
import Nemor.Performance.InspectionConfig
import Nemor.Performance.Experiment
import Nemor.Performance.CapacitySearch
import Nemor.Performance.SourceState
import Nemor.Harness.Gates
import Nemor.Harness.Live
import Nemor.Observer.Plan
import Nemor.Harness.RunNames
import Nemor.Harness.ValidatorReport
import Nemor.Observer.Start
import Nemor.Observer.AllOrNothing
import Nemor.Observer.Settling
import Nemor.Observer.Absence
import Nemor.Daemon.SamplingLoop
import Nemor.Collector.Source
import Nemor.Collector.ProcessStat
import Nemor.Collector.Meminfo
import Nemor.Collector.ProcessFields
import Nemor.Collector.Vmstat
import Nemor.Collector.Psi
import Nemor.Collector.Swaps
import Nemor.Collector.SystemSample
import Nemor.Daemon.Measurements
import Nemor.Collector.DerivedMetrics
import Nemor.Collector.Process
import Nemor.Collector.SmapsBudget
import Nemor.Storage.Telemetry
import Nemor.Storage.TelemetryHistory
import Nemor.Storage.TelemetryReport
import Nemor.Storage.WorkloadReport
import Nemor.Daemon.Service
import Nemor.Ksm.External
