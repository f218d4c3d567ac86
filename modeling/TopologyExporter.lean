import TopologyExporter.GoMap
import TopologyExporter.GoPanic
import TopologyExporter.GoInt
import TopologyExporter.GoString
import TopologyExporter.PodResources
import TopologyExporter.Topology
import TopologyExporter.Counters
import TopologyExporter.NumaLocality
import TopologyExporter.Monitor
import TopologyExporter.Refresh
import TopologyExporter.Scan
import TopologyExporter.Fingerprint
import TopologyExporter.NodeIDs
import TopologyExporter.GoTime
import TopologyExporter.Observer
import TopologyExporter.TerminalPods
import TopologyExporter.Middleware
import TopologyExporter.Interaction
import TopologyExporter.MergePatch
import TopologyExporter.NRT
import TopologyExporter.ApiServer
import TopologyExporter.Updater
import TopologyExporter.Staleness
import TopologyExporter.PatchRefinement
import TopologyExporter.ForeignWrites
import TopologyExporter.EventSource
import TopologyExporter.RateLimiter
import TopologyExporter.Shutdown
import TopologyExporter.ConditionInjector
import TopologyExporter.Oneshot
import TopologyExporter.ZoneOrder
import TopologyExporter.FailedRefresh
import TopologyExporter.Sysinfo
import TopologyExporter.Assignments
import TopologyExporter.ProgArgs
import TopologyExporter.SysfsRoot
import TopologyExporter.ConfigFiles
import TopologyExporter.ConfigDump
import TopologyExporter.LoadArgs
import TopologyExporter.Precedence
import TopologyExporter.PublishedNode
import TopologyExporter.ConsistentPods
import TopologyExporter.MemoryTotals
import TopologyExporter.ZoneFigures
import TopologyExporter.AllowedPaths
import TopologyExporter.DispatchFrame
import TopologyExporter.NotifyFiles
import TopologyExporter.OwnerReferences
import TopologyExporter.TopologyManager
import TopologyExporter.CloneArgs
import TopologyExporter.CPUMap
import TopologyExporter.MemorySizes
import TopologyExporter.ContainerIdents
import TopologyExporter.SharedPool
import TopologyExporter.Meminfo
import TopologyExporter.Histories
import TopologyExporter.Exporter
import TopologyExporter.ExporterSafety
import TopologyExporter.ExporterProgress
import TopologyExporter.MonitorRuns
import TopologyExporter.PublishedScan
import TopologyExporter.SysfsTree
import TopologyExporter.DumpFile
import TopologyExporter.ScanRace
import TopologyExporter.Execute
import TopologyExporter.ConfigOverlay
import TopologyExporter.Pipeline
import TopologyExporter.OwnObject
