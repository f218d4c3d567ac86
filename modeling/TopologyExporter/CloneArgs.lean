/-
TopologyExporter/CloneArgs.lean

The `Clone` methods of the arguments, as they are written: one per struct, field by
field.

`ProgArgs.clone` is what they come to together.  Here each method has its own
definition, so that a field that is left out shows, and `cloneByMethods_eq` connects
the two.  Slices and maps are copied element by element; the map of excluded resources
is ranged over, and the order makes no difference (`cloneResourceExclude_eq`).

Two methods do not return what they are given: that of the updater's arguments leaves
out a field, and that of a container identity turns nil into an identity.
`clone_args_iff` says that these are all the differences.
-/
import TopologyExporter.ProgArgs

namespace TopologyExporter

open GoMap

/-! ### The methods -/

/-- `GlobalArgs.Clone`. -/
def GlobalArgs.clone (args : GlobalArgs) : GlobalArgs where
  kubeConfig := args.kubeConfig
  debug := args.debug
  verbose := args.verbose

/-- `ResourceExclude.Clone`. -/
def cloneResourceExclude (ord : RangeOrder String (List String)) (re : ResourceExclude) :
    ResourceExclude :=
  (ord.range re).foldl (fun ret e => ret.insert e.1 ([] ++ e.2)) ∅

/-- `podexclude.List.Clone`. -/
def clonePodExclude (items : List PodExcludeItem) : List PodExcludeItem := [] ++ items

/-- `resourcemonitor.Args.Clone`. -/
def MonitorConfig.clone (ord : RangeOrder String (List String)) (args : MonitorConfig) :
    MonitorConfig where
  «namespace» := args.namespace
  sysfsRoot := args.sysfsRoot
  resourceExclude := cloneResourceExclude ord args.resourceExclude
  refreshNodeResources := args.refreshNodeResources
  podSetFingerprint := args.podSetFingerprint
  podSetFingerprintMethod := args.podSetFingerprintMethod
  exposeTiming := args.exposeTiming
  podSetFingerprintStatusFile := args.podSetFingerprintStatusFile
  podExclude := clonePodExclude args.podExclude
  excludeTerminalPods := args.excludeTerminalPods

/-- `metricssrv.TLSConfig.Clone`. -/
def TLSConfig.clone (conf : TLSConfig) : TLSConfig where
  certsDir := conf.certsDir
  certFile := conf.certFile
  keyFile := conf.keyFile
  wantCliAuth := conf.wantCliAuth
  minTLSVersion := conf.minTLSVersion
  cipherSuites := conf.cipherSuites

/-- `resourcetopologyexporter.Args.Clone`. -/
def ExporterConfig.clone (args : ExporterConfig) : ExporterConfig where
  referenceContainer := ContainerIdent.clone args.referenceContainer
  topologyManagerPolicy := args.topologyManagerPolicy
  topologyManagerScope := args.topologyManagerScope
  kubeletConfigFile := args.kubeletConfigFile
  podResourcesSocketPath := args.podResourcesSocketPath
  sleepInterval := args.sleepInterval
  podReadinessEnable := args.podReadinessEnable
  notifyFilePath := args.notifyFilePath
  maxEventsPerTimeUnit := args.maxEventsPerTimeUnit
  timeUnitToLimitEvents := args.timeUnitToLimitEvents
  addNRTOwnerEnable := args.addNRTOwnerEnable
  metricsMode := args.metricsMode
  metricsPort := args.metricsPort
  metricsAddress := args.metricsAddress
  metricsTLSCfg := args.metricsTLSCfg.clone

/-- `ProgArgs.Clone`, by the methods above; `ord` is the order in which the map of
excluded resources is copied. -/
def ProgArgs.cloneByMethods (ord : RangeOrder String (List String)) (pa : ProgArgs) :
    ProgArgs where
  global := pa.global.clone
  nrtUpdater := pa.nrtUpdater.clone
  resourceMonitor := pa.resourceMonitor.clone ord
  rte := pa.rte.clone
  version := pa.version
  dumpConfig := pa.dumpConfig

/-! ### What they return -/

/-- The copy of the map is the map, whatever the order. -/
theorem cloneResourceExclude_eq (ord : RangeOrder String (List String)) (re : ResourceExclude) :
    cloneResourceExclude ord re = re := by
  apply Finmap.ext_lookup
  intro key
  rw [cloneResourceExclude, lookup_foldl_insert (ord.enumerates re) fun vals => [] ++ vals]
  exact Option.map_id_apply

/-- The methods together are `ProgArgs.clone`. -/
theorem cloneByMethods_eq (ord : RangeOrder String (List String)) (p : ProgArgs) :
    p.cloneByMethods ord = p.clone := by
  have hmonitor : p.resourceMonitor.clone ord = p.resourceMonitor := by
    rw [MonitorConfig.clone, cloneResourceExclude_eq]
    rfl
  rw [ProgArgs.cloneByMethods, hmonitor]
  rfl

theorem clone_updater_iff (args : UpdaterConfig) :
    args.clone = args ↔ args.kubeConfig = "" := by
  constructor
  · intro h
    exact (congrArg UpdaterConfig.kubeConfig h).symm
  · intro h
    rw [UpdaterConfig.clone, ← h]

theorem clone_ident_iff (ci : Option ContainerIdent) :
    ContainerIdent.clone ci = ci ↔ ci ≠ none := by
  cases ci with
  | none => exact ⟨fun h => (Option.some_ne_none _ h).elim, fun h => absurd rfl h⟩
  | some ci => exact ⟨fun _ => Option.some_ne_none ci, fun _ => rfl⟩

/-- **When cloning loses nothing.**  A clone is equal to the arguments in every field,
unless the updater has a kubeconfig path or there is no reference container. -/
theorem clone_args_iff (ord : RangeOrder String (List String)) (p : ProgArgs) :
    p.cloneByMethods ord = p
      ↔ p.nrtUpdater.kubeConfig = "" ∧ p.rte.referenceContainer ≠ none := by
  rw [cloneByMethods_eq, ← clone_updater_iff, ← clone_ident_iff]
  constructor
  · intro h
    exact ⟨congrArg ProgArgs.nrtUpdater h, congrArg (fun q => q.rte.referenceContainer) h⟩
  · rintro ⟨hupdater, hident⟩
    rw [ProgArgs.clone, hupdater, hident]

/-- Arguments with a kubeconfig path for the updater, and all else as the zero value. -/
def kubeConfigArgs : ProgArgs := ProgArgs.zero.set .updaterKubeConfig "/etc/kubeconfig"

/-- The path is lost, and a reference container without a name appears. -/
theorem clone_loses_kubeConfig :
    kubeConfigArgs.nrtUpdater.kubeConfig = "/etc/kubeconfig"
      ∧ kubeConfigArgs.rte.referenceContainer = none
      ∧ (kubeConfigArgs.cloneByMethods (sortedOrder String _)).nrtUpdater.kubeConfig = ""
      ∧ (kubeConfigArgs.cloneByMethods (sortedOrder String _)).rte.referenceContainer
        = some ⟨"", "", ""⟩ :=
  ⟨rfl, rfl, rfl, rfl⟩

end TopologyExporter
