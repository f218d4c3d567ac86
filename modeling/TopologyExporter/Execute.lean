/-
TopologyExporter/Execute.lean

How the exporter is set up (`resourcetopologyexporter.go`), and what its arguments
mean for its runs.

`Execute` takes its steps in order and returns the first error; nothing has been sent
on a channel by then, because the event source is started last.  If there is none, the
goroutines run as in Exporter.  What is known of any exporter then becomes a statement
about the arguments: without an interval no report is periodic, and a reactive report
after the first one needs an event that names the notification file
(`execute_reports_have_causes`).  With neither, one report is all there is.
-/
import TopologyExporter.ExporterSafety
import TopologyExporter.NotifyFiles
import TopologyExporter.PublishedNode
import TopologyExporter.TopologyManager

namespace TopologyExporter

open GoMap GoPanic Goroutines

/-! ### The parts -/

/-- What `Execute` meets: files, environment, and the answers of the calls it makes. -/
structure ExecuteHost (ρ : Type) where
  kubelet : KubeletFiles
  system : System
  nodes : Except String (List Node)
  newWatcher : Option String
  notifyFS : NotifyFS
  topology : Except String MachineTopology
  mem : Except String MemoryResourceCounters
  alloc : Except String AllocatableResourcesResponse
  orders : RefreshOrders
  now : Int
  world : World
  pod : PodWorld ρ

variable {ρ : Type} (host : ExecuteHost ρ)

/-- `DisabledNodeGetter`. -/
def disabledNodeGetter : NodeGetter := fun _ => .error .notConfigured

/-- `CachedNodeGetter`: of nodes with one name the last one is kept. -/
def cachedNodeGetter (nodes : List Node) : NodeGetter := fun nodeName =>
  let cache := nodes.foldl (fun cache node => cache.insert node.name node) (∅ : GoMap String Node)
  match cache.lookup nodeName with
  | some node => .ok node
  | none => .error (.other ("node " ++ nodeName ++ " Not Found"))

/-- The node getter that `Execute` chooses. -/
def chooseNodeGetter (rteArgs : ExporterConfig) : Except String NodeGetter :=
  if rteArgs.addNRTOwnerEnable then
    match host.nodes with
    | .error err =>
        .error ("Cannot enable 'add-nrt-owner'. unable to get node list information: " ++ err)
    | .ok nodes => .ok (cachedNodeGetter nodes)
  else .ok disabledNodeGetter

/-- `NewConditionInjector`, if readiness is to be reported. -/
def chooseConditionInjector (rteArgs : ExporterConfig) : Except String ConditionInjector :=
  if rteArgs.podReadinessEnable then
    if host.system.lookupEnv "REFERENCE_NAMESPACE" = none then
      .error "the env REFERENCE_NAMESPACE doesn't exist"
    else if host.system.lookupEnv "REFERENCE_POD_NAME" = none then
      .error "the env REFERENCE_POD_NAME doesn't exist"
    else .ok newConditionInjector
  else .ok newConditionInjector

/-- `SetInterval`: the source afterwards and the error, if any. -/
def setInterval (es : UnlimitedEventSource) (interval : Int) :
    UnlimitedEventSource × Option String :=
  if interval < 0 then (es, some ("interval cannot be negative: " ++ GoTime.format interval))
  else if 0 < es.sleepInterval then
    (es, some "interval already set, and only one time-based source supported")
  else ({ es with sleepInterval := interval }, none)

/-- `createEventSource`: the source, and whether a limiter is put around it. -/
def createEventSource (rteArgs : ExporterConfig) : Except String (UnlimitedEventSource × Bool) :=
  match host.newWatcher with
  | some err => .error ("failed to create the watcher: " ++ err)
  | none =>
      match setInterval ⟨0, []⟩ rteArgs.sleepInterval with
      | (_, some err) => .error err
      | (es, none) =>
          match addFile host.notifyFS es rteArgs.notifyFilePath with
          | (_, some err) => .error err
          | (es, none) =>
              .ok (es, decide (0 < rteArgs.maxEventsPerTimeUnit ∧ 0 < rteArgs.timeUnitToLimitEvents))

/-- The monitor that the observer scans with.  The wait for the informer's caches has no limit,
so it does not fail. -/
def startObserver (args : MonitorConfig) : Except Panic (Except String ResourceMonitor) := do
  let created ← match host.topology with
    | .error err => pure (.error err)
    | .ok topo => newResourceObserver host.system host.orders host.mem host.alloc topo args
  match created with
  | .error err => pure (.error ("failed to initialize ResourceMonitor: " ++ err))
  | .ok resMon => pure (.ok resMon)

/-- `Execute`, up to the start of the event source: the goroutines and the monitor that the
observer scans with. -/
def execute (lib : PatchLibrary) (nrtUpdaterArgs : NRTUpdaterArgs) (monitorArgs : MonitorConfig)
    (rteArgs : ExporterConfig) : Except Panic (Except String (Exporter ρ × ResourceMonitor)) :=
  let prepared : Except String (TMConfig × NodeGetter × ConditionInjector × UnlimitedEventSource × Bool) := do
    let tmConf ← getTopologyManagerSettings host.kubelet rteArgs
    let nodeGetter ← chooseNodeGetter host rteArgs
    let condIn ← chooseConditionInjector host rteArgs
    let (source, limited) ← createEventSource host rteArgs
    pure (tmConf, nodeGetter, condIn, source, limited)
  match prepared with
  | .error err => pure (.error err)
  | .ok (tmConf, nodeGetter, condIn, source, limited) => do
      match ← startObserver host monitorArgs with
      | .error err => pure (.error err)
      | .ok resMon =>
          pure (.ok ({
            source := source
            limited := limited
            exposeTiming := monitorArgs.exposeTiming
            podReadiness := rteArgs.podReadinessEnable
            lastWakeup := host.now
            te := newNRTUpdater lib nrtUpdaterArgs tmConf
            world := host.world
            nodeGetter := nodeGetter
            ci := condIn
            pod := host.pod }, resMon))

variable {host}

/-! ### The event source -/

/-- The source that is created has the interval and the file of the arguments. -/
theorem createEventSource_ok {rteArgs : ExporterConfig} {es : UnlimitedEventSource} {limited : Bool}
    (h : createEventSource host rteArgs = .ok (es, limited)) :
    0 ≤ rteArgs.sleepInterval ∧ es.sleepInterval = rteArgs.sleepInterval
      ∧ es.filters
        = (if rteArgs.notifyFilePath = "" then [] else [rteArgs.notifyFilePath]).map fileFilter := by
  rcases hwatcher : host.newWatcher with - | err
  · by_cases hneg : rteArgs.sleepInterval < 0
    · simp [createEventSource, hwatcher, setInterval, hneg] at h
    · have hset : setInterval ⟨0, []⟩ rteArgs.sleepInterval = (⟨rteArgs.sleepInterval, []⟩, none) := by
        rw [setInterval, if_neg hneg, if_neg (lt_irrefl 0)]
      simp only [createEventSource, hwatcher, hset] at h
      refine ⟨not_lt.mp hneg, ?_⟩
      by_cases hpath : rteArgs.notifyFilePath = ""
      · rw [addFile, if_pos hpath] at h
        obtain ⟨rfl, -⟩ := Prod.mk.inj (Except.ok.inj h)
        exact ⟨rfl, by rw [if_pos hpath, List.map_nil]⟩
      · rw [addFile, if_neg hpath] at h
        rcases hensure : ensureNotifyFilePath host.notifyFS rteArgs.notifyFilePath with - | err
        · rw [hensure] at h
          obtain ⟨rfl, -⟩ := Prod.mk.inj (Except.ok.inj h)
          exact ⟨rfl, by rw [if_neg hpath]; rfl⟩
        · rw [hensure] at h
          cases h
  · simp [createEventSource, hwatcher] at h

/-- An exporter that is started has such a source. -/
theorem execute_source {lib : PatchLibrary} {nrtUpdaterArgs : NRTUpdaterArgs}
    {monitorArgs : MonitorConfig} {rteArgs : ExporterConfig} {x : Exporter ρ} {resMon : ResourceMonitor}
    (h : execute host lib nrtUpdaterArgs monitorArgs rteArgs = .ok (.ok (x, resMon))) :
    createEventSource host rteArgs = .ok (x.source, x.limited) := by
  rcases htm : getTopologyManagerSettings host.kubelet rteArgs with err | tmConf
  · rw [execute, htm] at h
    cases h
  rcases hgetter : chooseNodeGetter host rteArgs with err | nodeGetter
  · rw [execute, htm, hgetter] at h
    cases h
  rcases hcond : chooseConditionInjector host rteArgs with err | condIn
  · rw [execute, htm, hgetter, hcond] at h
    cases h
  rcases hsource : createEventSource host rteArgs with err | ⟨source, limited⟩
  · rw [execute, htm, hgetter, hcond, hsource] at h
    cases h
  rw [execute, htm, hgetter, hcond, hsource] at h
  change startObserver host monitorArgs >>= _ = _ at h
  obtain ⟨created, -, h⟩ := bind_eq_ok_iff.mp h
  rcases created with err | resMon'
  · cases h
  · cases h
    rfl

/-- A source without an interval gets no tick. -/
theorem source_gets_no_tick {es : UnlimitedEventSource} {h : List (Comm EventChan.Val)} {l : SourceLoc}
    (goes : Goes es.run .stamping h l) (hzero : es.sleepInterval = 0) : gotOn .timeEvents h = [] := by
  induction goes with
  | start => rfl
  | send _ _ ih => simpa using ih
  | recv _ hrecv v ih =>
      cases source_takes hrecv with
      | tick hl =>
          have hpos := interval_pos_of_tick hrecv
          omega
      | now hl => simpa using ih
      | file hl => simpa using ih
      | watchError hl => simpa using ih
      | stop hl => simpa using ih
  | default _ _ _ ih => exact ih

theorem ticks_eq_nil {x : Exporter ρ} {tr : List ExporterAct} {s : ExporterState x}
    (run : Run x.net (.initial x.net) tr s) (hzero : x.source.sleepInterval = 0) : ticks tr = [] := by
  obtain ⟨h, hhistory, goes⟩ := source_history run
  rw [ticks, hhistory, ← source_gets_no_tick goes hzero]
  exact gotOn_along event_injective _ _

/-! ### The exporter that is started -/

/-- The event is a change of the notification file, under the name that was configured. -/
def FsEvent.Notifies (event : FsEvent) (notifyFilePath : String) : Prop :=
  notifyFilePath ≠ "" ∧ event.name = notifyFilePath ∧ event.Touches

instance (event : FsEvent) (notifyFilePath : String) : Decidable (event.Notifies notifyFilePath) :=
  inferInstanceAs (Decidable (_ ∧ _ ∧ _))

/-- **What the arguments mean.**  Let `Execute` start the exporter.  In every run it reports
periodically only with an interval, and then at most once for each tick; and reactively at most
once, and once more for each change of the notification file. -/
theorem execute_reports_have_causes {lib : PatchLibrary} {nrtUpdaterArgs : NRTUpdaterArgs}
    {monitorArgs : MonitorConfig} {rteArgs : ExporterConfig} {x : Exporter ρ}
    {resMon : ResourceMonitor}
    (hexecute : execute host lib nrtUpdaterArgs monitorArgs rteArgs = .ok (.ok (x, resMon)))
    {tr : List ExporterAct} {s : ExporterState x} (run : Run x.net (.initial x.net) tr s)
    (hpanic : ∀ p, s.loc .observer ≠ .panicked p) :
    (reported tr).countP (fun info => info.timer)
        ≤ (if 0 < rteArgs.sleepInterval then (ticks tr).length else 0)
      ∧ (reported tr).countP (fun info => !info.timer)
        ≤ 1 + (fileChanges tr).countP fun event => event.Notifies rteArgs.notifyFilePath := by
  obtain ⟨hnonneg, hinterval, hfilters⟩ := createEventSource_ok (execute_source hexecute)
  obtain ⟨hperiodic, hreactive⟩ := reports_have_causes x run hpanic
  have hnotifies : ∀ event, anyFilter x.source.filters event
      = decide (event.Notifies rteArgs.notifyFilePath) := by
    intro event
    rw [Bool.eq_iff_iff, hfilters, anyFilter_fileFilter_iff, decide_eq_true_iff, FsEvent.Notifies]
    by_cases hpath : rteArgs.notifyFilePath = "" <;> simp [hpath]
  constructor
  · split_ifs with hpos
    · exact hperiodic
    · have hzero : x.source.sleepInterval = 0 := by omega
      rwa [ticks_eq_nil run hzero] at hperiodic
  · rwa [funext hnotifies] at hreactive

/-- A machine on which everything is found. -/
def quietHost : ExecuteHost Unit where
  kubelet := ⟨fun _ => .error "no such file", fun _ => .error "no kubelet"⟩
  system := ⟨fun _ => none, .ok "worker", 0, fun path => .ok path, fun _ => .error .notExist,
    fun _ => .error .notExist⟩
  nodes := .ok []
  newWatcher := none
  notifyFS := freshNotifyFS
  topology := .ok ⟨[⟨0, [⟨[0, 1]⟩], [10]⟩]⟩
  mem := .ok ∅
  alloc := .ok ⟨[], [0, 1], []⟩
  orders := .sorted
  now := 0
  world := editedWorld
  pod := flakyWorld

/-- Arguments with neither an interval nor a notification file. -/
def onceArgs : ExporterConfig :=
  { ProgArgs.zero.rte with topologyManagerPolicy := "none", topologyManagerScope := "pod" }

/-- What `Execute` starts on that machine with those arguments. -/
def onceExporter : Exporter Unit where
  source := ⟨0, []⟩
  limited := false
  exposeTiming := false
  podReadiness := false
  lastWakeup := 0
  te := newNRTUpdater threeWayLibrary resyncArgs ⟨"none", "pod"⟩
  world := editedWorld
  nodeGetter := disabledNodeGetter
  ci := newConditionInjector
  pod := flakyWorld

/-- It makes its one report. -/
theorem execute_reports_have_causes_once :
    ∃ resMon, execute quietHost threeWayLibrary resyncArgs ProgArgs.zero.resourceMonitor onceArgs
        = .ok (.ok (onceExporter, resMon))
      ∧ ∃ tr s, Run onceExporter.net (.initial onceExporter.net) tr s ∧ (reported tr).length = 1
        ∧ (reported tr).countP (fun info => info.timer)
          ≤ (if 0 < onceArgs.sleepInterval then (ticks tr).length else 0)
        ∧ (reported tr).countP (fun info => !info.timer)
          ≤ 1 + (fileChanges tr).countP fun event => event.Notifies onceArgs.notifyFilePath := by
  obtain ⟨resMon, hexecute⟩ : ∃ resMon, execute quietHost threeWayLibrary resyncArgs
      ProgArgs.zero.resourceMonitor onceArgs = .ok (.ok (onceExporter, resMon)) := ⟨_, rfl⟩
  have start : Run onceExporter.net (.initial onceExporter.net) [] (.initial onceExporter.net) := .nil
  have run := (((start.snoc (Exporter.step_stamp rfl 5)).snoc (Exporter.step_hand rfl rfl rfl)).snoc
    (Exporter.step_scan rfl emptyScan)).snoc (Exporter.step_info rfl rfl)
  exact ⟨resMon, hexecute, _, _, run, rfl,
    execute_reports_have_causes hexecute run (fun p h => by cases h)⟩

end TopologyExporter
