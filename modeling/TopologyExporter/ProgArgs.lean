/-
TopologyExporter/ProgArgs.lean

The configuration of the program: the structs of `config.go` and of the packages that
it collects the arguments of.

Flags and configuration files both bind variables: they hold a pointer to a field next
to the name of a flag or the key of a file.  `Setting` lists the fields that are bound
by either; `ProgArgs.get` and `ProgArgs.set` read and write through the pointer.  A
`Setting` has one of four types, as in the type switch of `configMap.Value`.
-/
import TopologyExporter.Assignments
import TopologyExporter.Middleware
import TopologyExporter.Updater

namespace TopologyExporter

open GoMap GoString Assignments

/-! ### The structs -/

/-- `GlobalArgs`. -/
structure GlobalArgs where
  kubeConfig : String
  debug : Bool
  verbose : Int

/-- `nrtupdater.Args`. -/
structure UpdaterConfig extends NRTUpdaterArgs where
  kubeConfig : String

/-- `resourcemonitor.Args`. -/
structure MonitorConfig extends MonitorArgs where
  sysfsRoot : String
  resourceExclude : ResourceExclude
  refreshNodeResources : Bool
  exposeTiming : Bool
  podSetFingerprintStatusFile : String
  podExclude : List PodExcludeItem
  excludeTerminalPods : Bool

/-- `metricssrv.TLSConfig`. -/
structure TLSConfig where
  certsDir : String
  certFile : String
  keyFile : String
  wantCliAuth : Bool
  minTLSVersion : String
  cipherSuites : String

/-- `resourcetopologyexporter.Args`.  Durations are in nanoseconds. -/
structure ExporterConfig where
  referenceContainer : Option ContainerIdent
  topologyManagerPolicy : String
  topologyManagerScope : String
  kubeletConfigFile : String
  podResourcesSocketPath : String
  sleepInterval : Int
  podReadinessEnable : Bool
  notifyFilePath : String
  maxEventsPerTimeUnit : Int
  timeUnitToLimitEvents : Int
  addNRTOwnerEnable : Bool
  metricsMode : String
  metricsPort : Int
  metricsAddress : String
  metricsTLSCfg : TLSConfig

/-- `ProgArgs`. -/
structure ProgArgs where
  global : GlobalArgs
  nrtUpdater : UpdaterConfig
  resourceMonitor : MonitorConfig
  rte : ExporterConfig
  version : Bool
  dumpConfig : String

/-! ### Settings -/

/-- The types of variables that can be bound. -/
inductive Kind
  | string
  | int
  | bool
  | duration
  deriving DecidableEq, Repr

abbrev Kind.Val : Kind → Type
  | .string => String
  | .int => Int
  | .bool => Bool
  | .duration => Int

instance : (k : Kind) → DecidableEq k.Val
  | .string => inferInstanceAs (DecidableEq String)
  | .int => inferInstanceAs (DecidableEq Int)
  | .bool => inferInstanceAs (DecidableEq Bool)
  | .duration => inferInstanceAs (DecidableEq Int)

/-- The zero value of a type. -/
def Kind.zero : (k : Kind) → k.Val
  | .string => ""
  | .int => (0 : Int)
  | .bool => false
  | .duration => (0 : Int)

/-- The fields that flags or files bind, in the order of the structs. -/
inductive Setting
  | kubeConfig
  | debug
  | verbose
  | noPublish
  | oneshot
  | hostname
  | updaterKubeConfig
  | patchMode
  | patchResync
  | watchNamespace
  | sysfsRoot
  | refreshNodeResources
  | podSetFingerprint
  | podSetFingerprintMethod
  | exposeTiming
  | podSetFingerprintStatusFile
  | excludeTerminalPods
  | topologyManagerPolicy
  | topologyManagerScope
  | kubeletConfigFile
  | podResourcesSocketPath
  | sleepInterval
  | podReadinessEnable
  | notifyFilePath
  | maxEventsPerTimeUnit
  | timeUnitToLimitEvents
  | addNRTOwnerEnable
  | metricsMode
  | metricsPort
  | metricsAddress
  | certsDir
  | certFile
  | keyFile
  | wantCliAuth
  | minTLSVersion
  | cipherSuites
  | version
  | dumpConfig
  deriving DecidableEq, Repr

namespace Setting

/-- The type of a field. -/
@[reducible] def kind : Setting → Kind
  | debug | noPublish | oneshot | patchMode | refreshNodeResources | podSetFingerprint
  | exposeTiming | excludeTerminalPods | podReadinessEnable | addNRTOwnerEnable | wantCliAuth
  | version => .bool
  | verbose | patchResync | maxEventsPerTimeUnit | metricsPort => .int
  | sleepInterval | timeUnitToLimitEvents => .duration
  | kubeConfig | hostname | updaterKubeConfig | watchNamespace | sysfsRoot
  | podSetFingerprintMethod | podSetFingerprintStatusFile | topologyManagerPolicy
  | topologyManagerScope | kubeletConfigFile | podResourcesSocketPath | notifyFilePath | metricsMode
  | metricsAddress | certsDir | certFile | keyFile | minTLSVersion | cipherSuites
  | dumpConfig => .string

abbrev Val (s : Setting) : Type := s.kind.Val

end Setting

namespace ProgArgs

/-- The field that a setting points to. -/
def get (p : ProgArgs) : (s : Setting) → s.Val
  | .kubeConfig => p.global.kubeConfig
  | .debug => p.global.debug
  | .verbose => p.global.verbose
  | .noPublish => p.nrtUpdater.noPublish
  | .oneshot => p.nrtUpdater.oneshot
  | .hostname => p.nrtUpdater.hostname
  | .updaterKubeConfig => p.nrtUpdater.kubeConfig
  | .patchMode => p.nrtUpdater.patchMode
  | .patchResync => p.nrtUpdater.patchResync
  | .watchNamespace => p.resourceMonitor.namespace
  | .sysfsRoot => p.resourceMonitor.sysfsRoot
  | .refreshNodeResources => p.resourceMonitor.refreshNodeResources
  | .podSetFingerprint => p.resourceMonitor.podSetFingerprint
  | .podSetFingerprintMethod => p.resourceMonitor.podSetFingerprintMethod
  | .exposeTiming => p.resourceMonitor.exposeTiming
  | .podSetFingerprintStatusFile => p.resourceMonitor.podSetFingerprintStatusFile
  | .excludeTerminalPods => p.resourceMonitor.excludeTerminalPods
  | .topologyManagerPolicy => p.rte.topologyManagerPolicy
  | .topologyManagerScope => p.rte.topologyManagerScope
  | .kubeletConfigFile => p.rte.kubeletConfigFile
  | .podResourcesSocketPath => p.rte.podResourcesSocketPath
  | .sleepInterval => p.rte.sleepInterval
  | .podReadinessEnable => p.rte.podReadinessEnable
  | .notifyFilePath => p.rte.notifyFilePath
  | .maxEventsPerTimeUnit => p.rte.maxEventsPerTimeUnit
  | .timeUnitToLimitEvents => p.rte.timeUnitToLimitEvents
  | .addNRTOwnerEnable => p.rte.addNRTOwnerEnable
  | .metricsMode => p.rte.metricsMode
  | .metricsPort => p.rte.metricsPort
  | .metricsAddress => p.rte.metricsAddress
  | .certsDir => p.rte.metricsTLSCfg.certsDir
  | .certFile => p.rte.metricsTLSCfg.certFile
  | .keyFile => p.rte.metricsTLSCfg.keyFile
  | .wantCliAuth => p.rte.metricsTLSCfg.wantCliAuth
  | .minTLSVersion => p.rte.metricsTLSCfg.minTLSVersion
  | .cipherSuites => p.rte.metricsTLSCfg.cipherSuites
  | .version => p.version
  | .dumpConfig => p.dumpConfig

/-- `p` with the bound fields as `f` has them. -/
def withSettings (p : ProgArgs) (f : (s : Setting) → s.Val) : ProgArgs where
  global :=
    { kubeConfig := f .kubeConfig, debug := f .debug, verbose := f .verbose }
  nrtUpdater :=
    { noPublish := f .noPublish, oneshot := f .oneshot, hostname := f .hostname
      patchMode := f .patchMode, patchResync := f .patchResync
      kubeConfig := f .updaterKubeConfig }
  resourceMonitor :=
    { p.resourceMonitor with
      «namespace» := f .watchNamespace
      podSetFingerprint := f .podSetFingerprint
      podSetFingerprintMethod := f .podSetFingerprintMethod
      sysfsRoot := f .sysfsRoot
      refreshNodeResources := f .refreshNodeResources
      exposeTiming := f .exposeTiming
      podSetFingerprintStatusFile := f .podSetFingerprintStatusFile
      excludeTerminalPods := f .excludeTerminalPods }
  rte :=
    { referenceContainer := p.rte.referenceContainer
      topologyManagerPolicy := f .topologyManagerPolicy
      topologyManagerScope := f .topologyManagerScope
      kubeletConfigFile := f .kubeletConfigFile
      podResourcesSocketPath := f .podResourcesSocketPath
      sleepInterval := f .sleepInterval
      podReadinessEnable := f .podReadinessEnable
      notifyFilePath := f .notifyFilePath
      maxEventsPerTimeUnit := f .maxEventsPerTimeUnit
      timeUnitToLimitEvents := f .timeUnitToLimitEvents
      addNRTOwnerEnable := f .addNRTOwnerEnable
      metricsMode := f .metricsMode
      metricsPort := f .metricsPort
      metricsAddress := f .metricsAddress
      metricsTLSCfg :=
        { certsDir := f .certsDir, certFile := f .certFile, keyFile := f .keyFile
          wantCliAuth := f .wantCliAuth, minTLSVersion := f .minTLSVersion
          cipherSuites := f .cipherSuites } }
  version := f .version
  dumpConfig := f .dumpConfig

/-- `*out = v`, for the pointer to a field. -/
def set (p : ProgArgs) (s : Setting) (v : s.Val) : ProgArgs :=
  p.withSettings (Function.update p.get s v)

/-- One such assignment after the other. -/
def assign (p : ProgArgs) (l : List (Assignment Setting.Val)) : ProgArgs :=
  p.withSettings (run p.get l)

@[simp] theorem get_withSettings (p : ProgArgs) (f : (s : Setting) → s.Val) (s : Setting) :
    (p.withSettings f).get s = f s := by
  cases s <;> rfl

@[simp] theorem get_set_self (p : ProgArgs) (s : Setting) (v : s.Val) : (p.set s v).get s = v := by
  rw [set, get_withSettings, Function.update_self]

theorem get_set_of_ne (p : ProgArgs) {s s' : Setting} (v : s.Val) (h : s' ≠ s) :
    (p.set s v).get s' = p.get s' := by
  rw [set, get_withSettings, Function.update_of_ne h]

/-- **Each field holds the last value assigned to it.** -/
theorem get_assign (p : ProgArgs) (l : List (Assignment Setting.Val)) (s : Setting) :
    (p.assign l).get s = (last l s).getD (p.get s) := by
  rw [assign, get_withSettings, run_apply]

/-- `pArgs.RTE.ReferenceContainer = refCnt`. -/
def setReferenceContainer (p : ProgArgs) (refCnt : Option ContainerIdent) : ProgArgs :=
  { p with rte := { p.rte with referenceContainer := refCnt } }

@[simp] theorem get_setReferenceContainer (p : ProgArgs) (refCnt : Option ContainerIdent)
    (s : Setting) : (p.setReferenceContainer refCnt).get s = p.get s := by
  cases s <;> rfl

/-- A field that is zero is set; the zero value stands for a field that is not set yet. -/
def fillEmpty (p : ProgArgs) (s : Setting) (v : s.Val) : ProgArgs :=
  if p.get s = s.kind.zero then p.set s v else p

theorem get_fillEmpty_self (p : ProgArgs) (s : Setting) (v : s.Val) :
    (p.fillEmpty s v).get s = orElse s.kind.zero (p.get s) v := by
  rw [fillEmpty, orElse]
  split_ifs with h
  · exact get_set_self p s v
  · rfl

theorem get_fillEmpty_of_ne (p : ProgArgs) {s s' : Setting} (v : s.Val) (h : s' ≠ s) :
    (p.fillEmpty s v).get s' = p.get s' := by
  rw [fillEmpty]
  split_ifs
  · exact get_set_of_ne p v h
  · rfl

end ProgArgs

/-! ### Container identities -/

namespace ContainerIdent

/-- `ContainerIdent.String`. -/
def string : Option ContainerIdent → String
  | none => ""
  | some ci => ci.namespace ++ "/" ++ ci.podName ++ "/" ++ ci.containerName

/-- `ContainerIdent.IsEmpty`. -/
def isEmpty : Option ContainerIdent → Bool
  | none => true
  | some ci => ci.namespace = "" || ci.podName = "" || ci.containerName = ""

/-- `ContainerIdent.Clone`: the clone of a nil pointer is not nil. -/
def clone : Option ContainerIdent → Option ContainerIdent
  | none => some ⟨"", "", ""⟩
  | some ci => some ci

/-- `ContainerIdentFromString`. -/
def ofString (ident : String) : Except String (Option ContainerIdent) :=
  if ident = "" then .ok none
  else
    match split ident '/' with
    | [ns, podName, containerName] =>
        .ok (some ⟨trimSpace ns, trimSpace podName, trimSpace containerName⟩)
    | _ => .error ("malformed ident: " ++ quote ident)

end ContainerIdent

/-! ### Defaults and clones -/

/-- The zero value of `ProgArgs`. -/
def ProgArgs.zero : ProgArgs where
  global := ⟨"", false, 0⟩
  nrtUpdater := ⟨⟨false, false, "", false, 0⟩, ""⟩
  resourceMonitor := ⟨⟨"", false, ""⟩, "", ∅, false, false, "", [], false⟩
  rte := ⟨none, "", "", "", "", 0, false, "", 0, 0, false, "", 0, "", ⟨"", "", "", false, "", ""⟩⟩
  version := false
  dumpConfig := ""

/-- `NewDefaultTLSConfig`. -/
def newDefaultTLSConfig : TLSConfig := ⟨"/etc/secrets/rte", "tls.crt", "tls.key", false, "", ""⟩

/-- `SetDefaults`; the fingerprint method is a constant of the fingerprint library. -/
def setDefaults (methodWithExclusiveResources : String) (p : ProgArgs) : ProgArgs :=
  { p with
    global := { p.global with verbose := 2 }
    nrtUpdater := { p.nrtUpdater with patchMode := true, patchResync := 10 }
    resourceMonitor :=
      { p.resourceMonitor with
        sysfsRoot := "/sys"
        podSetFingerprint := true
        podSetFingerprintMethod := methodWithExclusiveResources }
    rte :=
      { p.rte with
        sleepInterval := 60 * 1000000000
        kubeletConfigFile := "/podresources/config.yaml"
        podResourcesSocketPath := "unix:///podresources/kubelet.sock"
        podReadinessEnable := true
        addNRTOwnerEnable := true
        metricsMode := "disabled"
        metricsPort := 2112
        metricsAddress := "0.0.0.0"
        metricsTLSCfg := newDefaultTLSConfig
        maxEventsPerTimeUnit := 1
        timeUnitToLimitEvents := 1000000000 } }

/-- `nrtupdater.Args.Clone`, which leaves out the kubeconfig path. -/
def UpdaterConfig.clone (args : UpdaterConfig) : UpdaterConfig where
  noPublish := args.noPublish
  oneshot := args.oneshot
  hostname := args.hostname
  patchMode := args.patchMode
  patchResync := args.patchResync
  kubeConfig := ""

/-- `ProgArgs.Clone`.  The other structs are copied field by field, and the maps and
slices of the monitor's arguments element by element. -/
def ProgArgs.clone (pa : ProgArgs) : ProgArgs where
  global := pa.global
  nrtUpdater := pa.nrtUpdater.clone
  resourceMonitor := pa.resourceMonitor
  rte := { pa.rte with referenceContainer := ContainerIdent.clone pa.rte.referenceContainer }
  version := pa.version
  dumpConfig := pa.dumpConfig

end TopologyExporter
