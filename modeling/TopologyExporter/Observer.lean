/-
TopologyExporter/Observer.lean

The observer loop of `resourceobserver.go`: it scans on every event and reports
the outcome to the updater (`infoChan`) and to the pod readiness gate
(`condChan`).

The loop is a recursive function on the sequence of what its `select` receives.
The outcome of a scan is one that `Scan` can have (`ScanOutcome`).  What goes
out on the two channels is the result, in order.

`run_reports_iff` compares the loop with what it should report.  The annotation
map is written to before the error of the scan is looked at, so with
`exposeTiming` a failed scan ends the loop in a panic.
-/
import TopologyExporter.Scan
import TopologyExporter.GoTime

namespace TopologyExporter

open GoMap GoPanic

/-! ### Events, conditions, infos -/

/-- `notification.Event`; times and durations are in nanoseconds. -/
structure Event where
  timestamp : Int
  timerInterval : Int
  deriving DecidableEq, Repr

/-- `IsTimer`. -/
def Event.isTimer (ev : Event) : Bool := 0 < ev.timerInterval

/-- `nrtupdater.MonitorInfo`. -/
structure MonitorInfo where
  timer : Bool
  zones : Option (List Zone)
  attributes : List AttributeInfo
  annotations : Option (GoMap String String)

/-- `RTEConditionType`. -/
inductive RTEConditionType
  | podresourcesFetched
  | nodeTopologyUpdated
  deriving DecidableEq, Repr

/-- `v1.ConditionStatus`, as far as it is used. -/
inductive ConditionStatus
  | conditionTrue
  | conditionFalse
  deriving DecidableEq, Repr

/-- `v1.PodCondition`. -/
structure PodCondition where
  type : RTEConditionType
  status : ConditionStatus
  reason : String
  message : String
  deriving DecidableEq, Repr

/-- The reason and the message of a failed condition. -/
def failureText : RTEConditionType → String × String
  | .podresourcesFetched => ("ScanFailed", "failed to scan pod resources")
  | .nodeTopologyUpdated => ("UpdateFailed", "failed to update noderesourcetopology object")

/-- `SetCondition`: what is sent.  Without a channel nothing is. -/
def setCondition (condChan : Bool) (condType : RTEConditionType) (condStatus : ConditionStatus) :
    List PodCondition :=
  if condChan then
    match condStatus with
    | .conditionTrue => [⟨condType, condStatus, "", ""⟩]
    | .conditionFalse => [⟨condType, condStatus, (failureText condType).1, (failureText condType).2⟩]
  else []

/-! ### The loop -/

/-- `k8sannotations.SleepDuration`. -/
def sleepDuration : String := "k8stopoawareschedwg/sleep-duration"

/-- `k8sannotations.UpdateInterval`. -/
def updateInterval : String := "k8stopoawareschedwg/update-interval"

/-- `clampTime`. -/
def clampTime (t : Int) : Int := if t < 0 then 0 else t

/-- What `Scan` may return: an annotation map on success, the empty response on
failure. -/
structure ScanOutcome where
  res : ScanResponse
  err : Option String
  success : err = none → res.annotations ≠ none
  failure : err ≠ none → res = .zero

theorem scan_success {pfp : PodFingerprint} {ord : ScanOrders} {rm : ResourceMonitor}
    {excludeList : ResourceExclude} {resp : Except String (List PodResources)}
    (h : (scan pfp ord rm excludeList resp).2 = none) :
    (scan pfp ord rm excludeList resp).1.annotations ≠ none := by
  rcases resp with err | podRes
  · cases h
  · rcases hfp : scanFingerprint pfp rm podRes with - | pfpSign
    · simp [scan, hfp]
    · simp [scan, hfp]

theorem scan_failure {pfp : PodFingerprint} {ord : ScanOrders} {rm : ResourceMonitor}
    {excludeList : ResourceExclude} {resp : Except String (List PodResources)}
    (h : (scan pfp ord rm excludeList resp).2 ≠ none) :
    (scan pfp ord rm excludeList resp).1 = .zero := by
  rcases resp with err | podRes
  · rfl
  · exact absurd (scan_zones pfp ord rm excludeList podRes).2 h

/-- The outcome of the monitor's scan. -/
def ScanOutcome.ofScan (pfp : PodFingerprint) (ord : ScanOrders) (rm : ResourceMonitor)
    (excludeList : ResourceExclude) (resp : Except String (List PodResources)) : ScanOutcome where
  res := (scan pfp ord rm excludeList resp).1
  err := (scan pfp ord rm excludeList resp).2
  success := scan_success
  failure := scan_failure

/-- What the `select` of the loop receives. -/
inductive ObserverInput
  | event (ev : Event) (scanRes : ScanOutcome)
  | stop

/-- What the loop sends. -/
inductive ObserverOutput
  | info (monInfo : MonitorInfo)
  | cond (condition : PodCondition)

/-- The two timing annotations, written into the map as it comes. -/
def exposeTimes (annotations : Option (GoMap String String)) (tsWakeupDiff : Int) (ev : Event) :
    Except Panic (Option (GoMap String String)) := do
  let annotations ← assign annotations sleepDuration
    (GoTime.format (clampTime (GoTime.round tsWakeupDiff GoTime.second)))
  let annotations ← assign (some annotations) updateInterval
    (GoTime.format (clampTime ev.timerInterval))
  pure (some annotations)

/-- The body of the event case. -/
def handleEvent (exposeTiming condChan : Bool) (lastWakeup : Int) (ev : Event)
    (scanRes : ScanOutcome) : Except Panic (List ObserverOutput) := do
  let tsWakeupDiff := GoTime.sub ev.timestamp lastWakeup
  let annotations ←
    if exposeTiming then exposeTimes scanRes.res.annotations tsWakeupDiff ev
    else pure scanRes.res.annotations
  match scanRes.err with
  | some _ =>
      pure ((setCondition condChan .podresourcesFetched .conditionFalse).map .cond)
  | none =>
      pure (.info { timer := ev.isTimer, zones := scanRes.res.zones,
                    attributes := scanRes.res.attributes, annotations := annotations }
        :: (setCondition condChan .podresourcesFetched .conditionTrue).map .cond)

/-- `ResourceObserver.Run`, from the time of the last wakeup on. -/
def ResourceObserver.run (exposeTiming condChan : Bool) :
    Int → List ObserverInput → Except Panic (List ObserverOutput)
  | _, [] => pure []
  | _, .stop :: _ => pure []
  | lastWakeup, .event ev scanRes :: inputs => do
      let sent ← handleEvent exposeTiming condChan lastWakeup ev scanRes
      let later ← run exposeTiming condChan ev.timestamp inputs
      pure (sent ++ later)

/-! ### What the loop should report -/

/-- The annotations of a scan, with the two timing annotations on demand. -/
def reportedAnnotations (exposeTiming : Bool) (lastWakeup : Int) (ev : Event)
    (annotations : Option (GoMap String String)) : Option (GoMap String String) :=
  if exposeTiming then
    annotations.map fun annotations =>
      (annotations.insert sleepDuration (GoTime.format (clampTime
        (GoTime.round (GoTime.sub ev.timestamp lastWakeup) GoTime.second)))).insert
          updateInterval (GoTime.format (clampTime ev.timerInterval))
  else annotations

/-- The report on one event: a successful scan is published and the condition
is true; a failed one is not published and the condition is false. -/
def report (exposeTiming condChan : Bool) (lastWakeup : Int) (ev : Event)
    (scanRes : ScanOutcome) : List ObserverOutput :=
  match scanRes.err with
  | none =>
      .info { timer := ev.isTimer, zones := scanRes.res.zones,
              attributes := scanRes.res.attributes,
              annotations := reportedAnnotations exposeTiming lastWakeup ev
                scanRes.res.annotations }
        :: (setCondition condChan .podresourcesFetched .conditionTrue).map .cond
  | some _ => (setCondition condChan .podresourcesFetched .conditionFalse).map .cond

/-- The events up to the first stop, each with the outcome of its scan. -/
def handledEvents : List ObserverInput → List (Event × ScanOutcome)
  | [] => []
  | .stop :: _ => []
  | .event ev scanRes :: inputs => (ev, scanRes) :: handledEvents inputs

/-- The reports on a sequence of events, in order. -/
def reports (exposeTiming condChan : Bool) :
    Int → List (Event × ScanOutcome) → List ObserverOutput
  | _, [] => []
  | lastWakeup, (ev, scanRes) :: events =>
      report exposeTiming condChan lastWakeup ev scanRes
        ++ reports exposeTiming condChan ev.timestamp events

/-! ### One event -/

theorem exposeTimes_some (annotations : GoMap String String) (lastWakeup : Int) (ev : Event) :
    exposeTimes (some annotations) (GoTime.sub ev.timestamp lastWakeup) ev
      = .ok (reportedAnnotations true lastWakeup ev (some annotations)) := rfl

theorem handleEvent_report {exposeTiming : Bool} {scanRes : ScanOutcome}
    (h : exposeTiming = false ∨ scanRes.err = none) (condChan : Bool) (lastWakeup : Int)
    (ev : Event) :
    handleEvent exposeTiming condChan lastWakeup ev scanRes
      = .ok (report exposeTiming condChan lastWakeup ev scanRes) := by
  rcases exposeTiming with - | -
  · -- no timing: the annotations go out as the scan returned them
    rcases herr : scanRes.err with - | err
    · simp [handleEvent, report, reportedAnnotations, herr]
      rfl
    · simp [handleEvent, report, herr]
      rfl
  · have herr : scanRes.err = none := h.resolve_left (by simp)
    obtain ⟨annotations, hann⟩ := Option.ne_none_iff_exists'.mp (scanRes.success herr)
    simp only [handleEvent, report, herr, hann, if_true, exposeTimes_some]
    rfl

/-- The annotation map of a failed scan is nil. -/
theorem handleEvent_panics {scanRes : ScanOutcome} (h : scanRes.err ≠ none) (condChan : Bool)
    (lastWakeup : Int) (ev : Event) :
    handleEvent true condChan lastWakeup ev scanRes = .error .nilMapWrite := by
  simp only [handleEvent, scanRes.failure h, if_true]
  rfl

/-! ### Whole runs -/

/-- A loop that meets no fatal event sends its reports. -/
theorem run_ok {exposeTiming : Bool} {inputs : List ObserverInput}
    (h : exposeTiming = false ∨ ∀ e ∈ handledEvents inputs, e.2.err = none) (condChan : Bool)
    (lastWakeup : Int) :
    ResourceObserver.run exposeTiming condChan lastWakeup inputs
      = .ok (reports exposeTiming condChan lastWakeup (handledEvents inputs)) := by
  induction inputs generalizing lastWakeup with
  | nil => rfl
  | cons input inputs ih =>
      rcases input with ⟨ev, scanRes⟩ | -
      · have hfirst : exposeTiming = false ∨ scanRes.err = none :=
          h.imp_right fun hall => hall (ev, scanRes) (by simp [handledEvents])
        have hlater := ih (h.imp_right fun hall e he => hall e (by simp [handledEvents, he]))
          ev.timestamp
        rw [ResourceObserver.run, handleEvent_report hfirst, hlater]
        rfl
      · rfl

/-- With timing exposed, the first failed scan is fatal. -/
theorem run_panics {inputs : List ObserverInput}
    (h : ∃ e ∈ handledEvents inputs, e.2.err ≠ none) (condChan : Bool) (lastWakeup : Int) :
    ResourceObserver.run true condChan lastWakeup inputs = .error .nilMapWrite := by
  induction inputs generalizing lastWakeup with
  | nil =>
      obtain ⟨e, he, -⟩ := h
      cases he
  | cons input inputs ih =>
      rcases input with ⟨ev, scanRes⟩ | -
      · rcases herr : scanRes.err with - | err
        · -- this scan succeeded, so the failed one comes later
          have hlater : ∃ e ∈ handledEvents inputs, e.2.err ≠ none := by
            obtain ⟨e, he, hne⟩ := h
            rcases List.mem_cons.mp he with rfl | hmem
            · exact absurd herr hne
            · exact ⟨e, hmem, hne⟩
          rw [ResourceObserver.run, handleEvent_report (.inr herr), ih hlater]
          rfl
        · rw [ResourceObserver.run, handleEvent_panics (by rw [herr]; simp)]
          rfl
      · obtain ⟨e, he, -⟩ := h
        cases he

/-- **The loop reports every scan iff timing is not exposed or no scan fails.** -/
theorem run_reports_iff (exposeTiming condChan : Bool) (lastWakeup : Int)
    (inputs : List ObserverInput) :
    ResourceObserver.run exposeTiming condChan lastWakeup inputs
        = .ok (reports exposeTiming condChan lastWakeup (handledEvents inputs))
      ↔ exposeTiming = false ∨ ∀ e ∈ handledEvents inputs, e.2.err = none := by
  constructor
  · intro hrun
    rcases exposeTiming with - | -
    · exact .inl rfl
    · refine .inr fun e he => ?_
      by_contra hne
      rw [run_panics ⟨e, he, hne⟩] at hrun
      cases hrun
  · intro h
    exact run_ok h condChan lastWakeup

/-- One timer event during a kubelet outage, with timing exposed. -/
theorem run_outage_panics :
    ResourceObserver.run true true 0
        [.event ⟨60 * GoTime.second, 60 * GoTime.second⟩ (.ofScan namesFingerprint .sorted
          (initialMonitor "worker" ⟨"", false, ""⟩ twoNodeTopology) ∅
          (.error "connection refused"))]
      = .error .nilMapWrite := rfl

end TopologyExporter
