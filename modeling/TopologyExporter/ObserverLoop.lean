/-
TopologyExporter/ObserverLoop.lean

The observer as a goroutine.

`Execute` starts three goroutines behind the events: the observer, which scans on every
event, the updater, which publishes what the observer hands over, and the injector of
pod conditions, which both of them tell how it went.  This file has the channels
between them and the observer, given by its program points; `Scan` and `time.Now()`
answer on channels that lead outside.

`observer_goes` is about its own history: it reports as `ResourceObserver.run` does,
and what it has not sent yet can be read off its program point.
-/
import TopologyExporter.Histories
import TopologyExporter.EventSource
import TopologyExporter.ConditionInjector

namespace TopologyExporter

open Goroutines

/-! ### Channels -/

/-- The channels of the exporter: those of the event source, `infoChan`, `condChan`,
and the channels of `Stop` and of the context.  `scan` and `clock` are the answers of
`Scan` and of the `time.Now()` in a condition. -/
inductive ExporterChan
  | event (c : EventChan)
  | scan
  | clock
  | infoChan
  | condChan
  | stopObserver
  | stopUpdater
  | ctxDone
  deriving DecidableEq, Repr

/-- A condition on its way to the pod, with the time it was made at. -/
structure TimedCondition where
  condition : PodCondition
  lastTransitionTime : Int
  deriving DecidableEq, Repr

/-- What a channel carries. -/
abbrev ExporterChan.Val : ExporterChan → Type
  | .event c => c.Val
  | .scan => ScanOutcome
  | .clock => Int
  | .infoChan => MonitorInfo
  | .condChan => TimedCondition
  | .stopObserver | .stopUpdater | .ctxDone => Unit

/-- The names of the condition types. -/
def RTEConditionType.name : RTEConditionType → String
  | .podresourcesFetched => "PodresourcesFetched"
  | .nodeTopologyUpdated => "NodeTopologyUpdated"

/-- `v1.ConditionTrue` and `v1.ConditionFalse`. -/
def ConditionStatus.name : ConditionStatus → String
  | .conditionTrue => "True"
  | .conditionFalse => "False"

/-- The condition as the injector finds it in the channel. -/
def TimedCondition.toStatus (c : TimedCondition) : StatusCondition where
  type := c.condition.type.name
  status := c.condition.status.name
  reason := c.condition.reason
  message := c.condition.message
  lastTransitionTime := c.lastTransitionTime

/-! ### The observer -/

/-- The program points of `ResourceObserver.Run`. -/
inductive ObserverLoc
  | select (lastWakeup : Int)
  | scanning (lastWakeup : Int) (ev : Event)
  | handing (monInfo : MonitorInfo) (lastWakeup : Int)
  | stamping (condition : PodCondition) (lastWakeup : Int)
  | setting (condition : TimedCondition) (lastWakeup : Int)
  | panicked (p : Panic)
  | returned

namespace ObserverLoc

/-- `SetCondition` at the end of the event case: without a channel there is nothing
to do. -/
def setCondition (condChan : Bool) (condStatus : ConditionStatus) (lastWakeup : Int) : ObserverLoc :=
  match TopologyExporter.setCondition condChan .podresourcesFetched condStatus with
  | [] => .select lastWakeup
  | condition :: _ => .stamping condition lastWakeup

/-- The annotations of the info, with the times of the event on demand. -/
def annotate (exposeTiming : Bool) (lastWakeup : Int) (ev : Event) (scanRes : ScanOutcome) :
    Except Panic (Option (GoMap String String)) :=
  if exposeTiming then
    exposeTimes scanRes.res.annotations (GoTime.sub ev.timestamp lastWakeup) ev
  else pure scanRes.res.annotations

/-- The rest of the event case, once the scan has returned. -/
def scanned (exposeTiming condChan : Bool) (lastWakeup : Int) (ev : Event) (scanRes : ScanOutcome) :
    ObserverLoc :=
  match annotate exposeTiming lastWakeup ev scanRes with
  | .error p => .panicked p
  | .ok annotations =>
      match scanRes.err with
      | some _ => setCondition condChan .conditionFalse ev.timestamp
      | none =>
          .handing { timer := ev.isTimer, zones := scanRes.res.zones,
                     attributes := scanRes.res.attributes, annotations := annotations } ev.timestamp

end ObserverLoc

/-- The receive on `eventsChan`: the channel of the limiter if there is one, else that
of the source. -/
def recvEvent {L : Type} (limited : Bool) (k : Event → L) : Case ExporterChan.Val L :=
  if limited then .recv (.event .outCh) k else .recv (.event .inCh) k

/-- `ResourceObserver.Run`. -/
def observer (limited exposeTiming condChan : Bool) :
    ObserverLoc → Option (Select ExporterChan.Val ObserverLoc)
  | .select lastWakeup => some
      ⟨[recvEvent limited (.scanning lastWakeup), .recv .stopObserver fun _ => .returned], none⟩
  | .scanning lastWakeup ev => some
      ⟨[.recv .scan fun scanRes => .scanned exposeTiming condChan lastWakeup ev scanRes], none⟩
  | .handing monInfo lastWakeup => some
      ⟨[.send .infoChan monInfo (.setCondition condChan .conditionTrue lastWakeup)], none⟩
  | .stamping condition lastWakeup => some
      ⟨[.recv .clock fun now => .setting ⟨condition, now⟩ lastWakeup], none⟩
  | .setting condition lastWakeup => some ⟨[.send .condChan condition (.select lastWakeup)], none⟩
  | .panicked _ => none
  | .returned => none

/-- What the observer sends, and where it goes on. -/
inductive ObserverSends (condChan : Bool) (l : ObserverLoc) :
    (c : ExporterChan) → c.Val → ObserverLoc → Prop
  | hand (monInfo : MonitorInfo) (lastWakeup : Int) (hl : l = .handing monInfo lastWakeup) :
      ObserverSends condChan l .infoChan monInfo (.setCondition condChan .conditionTrue lastWakeup)
  | set (condition : TimedCondition) (lastWakeup : Int) (hl : l = .setting condition lastWakeup) :
      ObserverSends condChan l .condChan condition (.select lastWakeup)

/-- What the observer receives, and where it goes on. -/
inductive ObserverTakes (limited exposeTiming condChan : Bool) (l : ObserverLoc) :
    (c : ExporterChan) → (c.Val → ObserverLoc) → Prop
  | limitedEvent (lastWakeup : Int) (hl : l = .select lastWakeup) (hlimited : limited = true) :
      ObserverTakes limited exposeTiming condChan l (.event .outCh) (.scanning lastWakeup)
  | event (lastWakeup : Int) (hl : l = .select lastWakeup) (hlimited : limited = false) :
      ObserverTakes limited exposeTiming condChan l (.event .inCh) (.scanning lastWakeup)
  | stop (lastWakeup : Int) (hl : l = .select lastWakeup) :
      ObserverTakes limited exposeTiming condChan l .stopObserver fun _ => .returned
  | scan (lastWakeup : Int) (ev : Event) (hl : l = .scanning lastWakeup ev) :
      ObserverTakes limited exposeTiming condChan l .scan
        fun scanRes => .scanned exposeTiming condChan lastWakeup ev scanRes
  | clock (condition : PodCondition) (lastWakeup : Int) (hl : l = .stamping condition lastWakeup) :
      ObserverTakes limited exposeTiming condChan l .clock
        fun now => .setting ⟨condition, now⟩ lastWakeup

section Observer

variable {limited exposeTiming condChan : Bool} {l next : ObserverLoc}

theorem observer_sends {c : ExporterChan} {v : c.Val}
    (hsend : Offered (observer limited exposeTiming condChan) l (.send c v next)) :
    ObserverSends condChan l c v next := by
  obtain ⟨sel, hcode, hcase⟩ := hsend
  cases l with
  | select lastWakeup =>
      cases hcode
      cases limited <;> simp [recvEvent] at hcase
  | scanning lastWakeup ev => cases hcode; simp at hcase
  | handing monInfo lastWakeup =>
      cases hcode
      cases List.mem_singleton.mp hcase
      exact .hand monInfo lastWakeup rfl
  | stamping condition lastWakeup => cases hcode; simp at hcase
  | setting condition lastWakeup =>
      cases hcode
      cases List.mem_singleton.mp hcase
      exact .set condition lastWakeup rfl
  | panicked p => cases hcode
  | returned => cases hcode

theorem observer_takes {c : ExporterChan} {k : c.Val → ObserverLoc}
    (hrecv : Offered (observer limited exposeTiming condChan) l (.recv c k)) :
    ObserverTakes limited exposeTiming condChan l c k := by
  obtain ⟨sel, hcode, hcase⟩ := hrecv
  cases l with
  | select lastWakeup =>
      cases hcode
      rcases List.mem_cons.mp hcase with hcase | hcase
      · cases limited with
        | true => cases hcase; exact .limitedEvent lastWakeup rfl rfl
        | false => cases hcase; exact .event lastWakeup rfl rfl
      · cases List.mem_singleton.mp hcase
        exact .stop lastWakeup rfl
  | scanning lastWakeup ev =>
      cases hcode
      cases List.mem_singleton.mp hcase
      exact .scan lastWakeup ev rfl
  | handing monInfo lastWakeup => cases hcode; simp at hcase
  | stamping condition lastWakeup =>
      cases hcode
      cases List.mem_singleton.mp hcase
      exact .clock condition lastWakeup rfl
  | setting condition lastWakeup => cases hcode; simp at hcase
  | panicked p => cases hcode
  | returned => cases hcode

theorem observer_default {sel : Select ExporterChan.Val ObserverLoc}
    (hcode : observer limited exposeTiming condChan l = some sel) : sel.default = none := by
  cases l <;> cases hcode <;> rfl

end Observer

/-! ### What the observer has done -/

/-- The events that a goroutine has received on `eventsChan`. -/
def eventsTaken (limited : Bool) (h : List (Comm ExporterChan.Val)) : List Event :=
  if limited then gotOn (.event .outCh) h else gotOn (.event .inCh) h

/-- What the observer has sent, on either channel. -/
def observerOutputs (h : List (Comm ExporterChan.Val)) : List ObserverOutput :=
  h.filterMap fun
    | .sent .infoChan monInfo => some (.info monInfo)
    | .sent .condChan c => some (.cond c.condition)
    | _ => none

/-- What the event case still has to send. -/
def ObserverLoc.owed (condChan : Bool) : ObserverLoc → List ObserverOutput
  | .handing monInfo _ =>
      .info monInfo
        :: (TopologyExporter.setCondition condChan .podresourcesFetched .conditionTrue).map .cond
  | .stamping condition _ => [.cond condition]
  | .setting condition _ => [.cond condition.condition]
  | _ => []

/-- The wakeup that the next event is compared with. -/
def ObserverLoc.lastWakeup : ObserverLoc → Int
  | .select lastWakeup | .scanning lastWakeup _ | .handing _ lastWakeup | .stamping _ lastWakeup
  | .setting _ lastWakeup => lastWakeup
  | .panicked _ | .returned => 0

/-- The event whose scan has not returned. -/
def ObserverLoc.scansFor : ObserverLoc → List Event
  | .scanning _ ev => [ev]
  | _ => []

/-- The loop is still going. -/
def ObserverLoc.Runs : ObserverLoc → Prop
  | .panicked _ | .returned => False
  | _ => True

section Observer

variable {limited exposeTiming condChan : Bool}

theorem owed_setCondition (condChan : Bool) (condStatus : ConditionStatus) (lastWakeup : Int) :
    ((ObserverLoc.setCondition condChan condStatus lastWakeup).owed condChan
        = (setCondition condChan .podresourcesFetched condStatus).map .cond)
      ∧ (ObserverLoc.setCondition condChan condStatus lastWakeup).lastWakeup = lastWakeup
      ∧ (ObserverLoc.setCondition condChan condStatus lastWakeup).scansFor = []
      ∧ (ObserverLoc.setCondition condChan condStatus lastWakeup).Runs := by
  cases condChan <;> cases condStatus <;> exact ⟨rfl, rfl, rfl, trivial⟩

/-- Where the loop goes after a scan agrees with `handleEvent`. -/
theorem handleEvent_scanned (exposeTiming condChan : Bool) (lastWakeup : Int) (ev : Event) (scanRes : ScanOutcome) :
    (∃ p, ObserverLoc.scanned exposeTiming condChan lastWakeup ev scanRes = .panicked p
        ∧ handleEvent exposeTiming condChan lastWakeup ev scanRes = .error p)
      ∨ handleEvent exposeTiming condChan lastWakeup ev scanRes
          = .ok ((ObserverLoc.scanned exposeTiming condChan lastWakeup ev scanRes).owed condChan)
        ∧ (ObserverLoc.scanned exposeTiming condChan lastWakeup ev scanRes).lastWakeup = ev.timestamp
        ∧ (ObserverLoc.scanned exposeTiming condChan lastWakeup ev scanRes).scansFor = []
        ∧ (ObserverLoc.scanned exposeTiming condChan lastWakeup ev scanRes).Runs := by
  have hhandle : handleEvent exposeTiming condChan lastWakeup ev scanRes
      = ObserverLoc.annotate exposeTiming lastWakeup ev scanRes >>= fun annotations =>
        match scanRes.err with
        | some _ => pure ((setCondition condChan .podresourcesFetched .conditionFalse).map .cond)
        | none => pure (.info { timer := ev.isTimer, zones := scanRes.res.zones,
                                attributes := scanRes.res.attributes, annotations := annotations }
            :: (setCondition condChan .podresourcesFetched .conditionTrue).map .cond) := by
    cases exposeTiming <;> rfl
  rw [hhandle, ObserverLoc.scanned]
  rcases ObserverLoc.annotate exposeTiming lastWakeup ev scanRes with p | annotations
  · exact .inl ⟨p, rfl, rfl⟩
  · right
    rcases scanRes.err with - | err
    · exact ⟨rfl, rfl, rfl, trivial⟩
    · obtain ⟨howed, hrest⟩ := owed_setCondition condChan .conditionFalse ev.timestamp
      exact ⟨congrArg Except.ok howed.symm, hrest⟩

/-- What the observer has done so far, against the loop of the model: for the scans
that have returned, the loop has sent what was sent and what is owed, and goes on from
the last wakeup; if the observer has panicked, so has the loop. -/
structure ObserverTrack (limited exposeTiming condChan : Bool) (start : Int)
    (h : List (Comm ExporterChan.Val)) (l : ObserverLoc) (done : List (Event × ScanOutcome)) :
    Prop where
  events : eventsTaken limited h = done.map Prod.fst ++ l.scansFor
  scans : gotOn .scan h = done.map Prod.snd
  runs : l.Runs → ∀ later,
    ResourceObserver.run exposeTiming condChan start
        (done.map (fun e => ObserverInput.event e.1 e.2) ++ later)
      = (fun out => observerOutputs h ++ l.owed condChan ++ out) <$>
          ResourceObserver.run exposeTiming condChan l.lastWakeup later
  panics : ∀ p, l = .panicked p → ∀ later,
    ResourceObserver.run exposeTiming condChan start
        (done.map (fun e => ObserverInput.event e.1 e.2) ++ later) = .error p

theorem observerOutputs_snoc (h : List (Comm ExporterChan.Val)) (e : Comm ExporterChan.Val) :
    observerOutputs (h ++ [e]) = observerOutputs h ++ observerOutputs [e] := List.filterMap_append

theorem eventsTaken_snoc_sent (h : List (Comm ExporterChan.Val)) (c : ExporterChan) (v : c.Val) :
    eventsTaken limited (h ++ [.sent c v]) = eventsTaken limited h := by
  simp [eventsTaken]

variable {start : Int} {h : List (Comm ExporterChan.Val)} {l next : ObserverLoc}
  {done : List (Event × ScanOutcome)}

/-- What is sent was owed. -/
theorem ObserverTrack.send (track : ObserverTrack limited exposeTiming condChan start h l done)
    {c : ExporterChan} {v : c.Val} (hsend : ObserverSends condChan l c v next) :
    ObserverTrack limited exposeTiming condChan start (h ++ [.sent c v]) next done := by
  -- the owed output moves to those sent, and the rest stays as it is
  have hkeep : ∀ out, l.scansFor = [] → l.Runs → next.scansFor = [] → next.Runs →
      next.lastWakeup = l.lastWakeup → observerOutputs [.sent c v] = [out] →
      l.owed condChan = out :: next.owed condChan →
      ObserverTrack limited exposeTiming condChan start (h ++ [.sent c v]) next done := by
    intro out hscans hl hscans' hruns hwakeup hout howed
    refine ⟨?_, ?_, fun _ later => ?_, ?_⟩
    · rw [eventsTaken_snoc_sent, track.events, hscans, hscans']
    · rw [gotOn_snoc_sent, track.scans]
    · rw [track.runs hl, observerOutputs_snoc, hout, howed, hwakeup]
      simp
    · rintro p rfl
      exact hruns.elim
  cases hsend with
  | hand monInfo lastWakeup hl =>
      subst hl
      obtain ⟨howed, hwakeup, hscans, hruns⟩ := owed_setCondition condChan .conditionTrue lastWakeup
      exact hkeep (.info monInfo) rfl trivial hscans hruns hwakeup rfl (by rw [howed]; rfl)
  | set condition lastWakeup hl =>
      subst hl
      exact hkeep (.cond condition.condition) rfl trivial rfl trivial rfl rfl rfl

/-- A receive that neither ends a scan nor starts one. -/
theorem ObserverTrack.keep (track : ObserverTrack limited exposeTiming condChan start h l done)
    {c : ExporterChan} {v : c.Val} (hscan : c ≠ .scan)
    (hevents : eventsTaken limited (h ++ [.got c v]) = done.map Prod.fst ++ next.scansFor)
    (hl : l.Runs) (hwakeup : next.Runs → next.lastWakeup = l.lastWakeup)
    (howed : next.owed condChan = l.owed condChan) (hpanic : ∀ p, next ≠ .panicked p) :
    ObserverTrack limited exposeTiming condChan start (h ++ [.got c v]) next done where
  events := hevents
  scans := by rw [gotOn_snoc_of_ne hscan, track.scans]
  runs := by
    intro hnext later
    have hout : observerOutputs (h ++ [.got c v]) = observerOutputs h := by
      simp [observerOutputs]
    rw [track.runs hl, hout, howed, hwakeup hnext]
  panics := fun p hp => (hpanic p hp).elim

/-- The loop reads one more event and its scan. -/
theorem ObserverTrack.scan {lastWakeup : Int} {ev : Event}
    (track : ObserverTrack limited exposeTiming condChan start h (.scanning lastWakeup ev) done)
    (scanRes : ScanOutcome) :
    ObserverTrack limited exposeTiming condChan start (h ++ [.got .scan scanRes])
      (.scanned exposeTiming condChan lastWakeup ev scanRes) (done ++ [(ev, scanRes)]) := by
  have hevents : eventsTaken limited (h ++ [.got .scan scanRes]) = eventsTaken limited h := by
    simp [eventsTaken]
  have hout : observerOutputs (h ++ [.got .scan scanRes]) = observerOutputs h := by
    simp [observerOutputs]
  have hrun : ∀ later, ResourceObserver.run exposeTiming condChan start
        ((done ++ [(ev, scanRes)]).map (fun e => ObserverInput.event e.1 e.2) ++ later)
      = (fun out => observerOutputs h ++ out) <$> (do
          let sent ← handleEvent exposeTiming condChan lastWakeup ev scanRes
          let later ← ResourceObserver.run exposeTiming condChan ev.timestamp later
          pure (sent ++ later)) := by
    intro later
    rw [List.map_append, List.append_assoc]
    refine (track.runs trivial _).trans ?_
    simp [ObserverLoc.owed, ObserverLoc.lastWakeup, ResourceObserver.run]
  have hscans : gotOn .scan (h ++ [.got .scan scanRes]) = (done ++ [(ev, scanRes)]).map Prod.snd := by
    rw [gotOn_snoc_self, track.scans, List.map_append]
    rfl
  have hfst : eventsTaken limited h = (done ++ [(ev, scanRes)]).map Prod.fst := by
    rw [track.events, List.map_append]
    rfl
  rcases handleEvent_scanned exposeTiming condChan lastWakeup ev scanRes with
    ⟨p, hloc, hpanic⟩ | ⟨hok, hwakeup, hnone, hruns⟩
  · rw [hloc]
    refine ⟨?_, hscans, fun h => h.elim, ?_⟩
    · rw [hevents, hfst]
      exact (List.append_nil _).symm
    · rintro p' hp' later
      cases hp'
      rw [hrun, hpanic]
      rfl
  · refine ⟨by rw [hevents, hfst, hnone, List.append_nil], hscans, fun _ later => ?_, ?_⟩
    · rw [hrun, hok, hout, hwakeup]
      rcases ResourceObserver.run exposeTiming condChan ev.timestamp later with p | out
      · rfl
      · simp only [bind, Except.bind, pure, Except.pure, Functor.map, Except.map, List.append_assoc]
    · rintro p hp
      rw [hp] at hruns
      exact hruns.elim

/-- **The observer goes through its events as the loop of the model does.** -/
theorem observer_goes
    (goes : Goes (observer limited exposeTiming condChan) (.select start) h l) :
    ∃ done, ObserverTrack limited exposeTiming condChan start h l done := by
  induction goes with
  | start =>
      refine ⟨[], ⟨by simp [eventsTaken, ObserverLoc.scansFor], rfl, ?_, by simp⟩⟩
      intro _ later
      simp [observerOutputs, ObserverLoc.owed, ObserverLoc.lastWakeup]
  | send _ hsend ih =>
      obtain ⟨done, track⟩ := ih
      exact ⟨done, track.send (observer_sends hsend)⟩
  | recv _ hrecv v ih =>
      obtain ⟨done, track⟩ := ih
      have hevents := track.events
      cases observer_takes hrecv with
      | limitedEvent lastWakeup hl hlimited =>
          subst hl hlimited
          refine ⟨done, track.keep (by simp) ?_ trivial (fun _ => rfl) rfl (by simp)⟩
          simpa [eventsTaken, ObserverLoc.scansFor] using hevents
      | event lastWakeup hl hlimited =>
          subst hl hlimited
          refine ⟨done, track.keep (by simp) ?_ trivial (fun _ => rfl) rfl (by simp)⟩
          simpa [eventsTaken, ObserverLoc.scansFor] using hevents
      | stop lastWakeup hl =>
          subst hl
          refine ⟨done, track.keep (by simp) ?_ trivial (fun h => h.elim) rfl (by simp)⟩
          simpa [eventsTaken, ObserverLoc.scansFor] using hevents
      | scan lastWakeup ev hl =>
          subst hl
          exact ⟨_, track.scan v⟩
      | clock condition lastWakeup hl =>
          subst hl
          refine ⟨done, track.keep (by simp) ?_ trivial (fun _ => rfl) rfl (by simp)⟩
          simpa [eventsTaken, ObserverLoc.scansFor] using hevents
  | default _ hcode hdefault ih =>
      rw [observer_default hcode] at hdefault
      cases hdefault

theorem handledEvents_map (done : List (Event × ScanOutcome)) :
    handledEvents (done.map fun e => .event e.1 e.2) = done := by
  induction done with
  | nil => rfl
  | cons e done ih => exact congrArg (List.cons e) ih

/-- While the observer runs, it has sent or owes exactly the reports on its scans. -/
theorem ObserverTrack.reports_eq (track : ObserverTrack limited exposeTiming condChan start h l done)
    (hl : l.Runs) :
    reports exposeTiming condChan start done = observerOutputs h ++ l.owed condChan := by
  have hrun := track.runs hl []
  rw [List.append_nil, ResourceObserver.run] at hrun
  by_cases hfatal : exposeTiming = false ∨ ∀ e ∈ done, e.2.err = none
  · rw [run_ok (by rwa [handledEvents_map]), handledEvents_map] at hrun
    simpa [pure, Except.pure, Functor.map, Except.map] using hrun
  · -- a failed scan would have ended the loop
    obtain ⟨htiming, hfailed⟩ := not_or.mp hfatal
    push Not at hfailed
    rw [Bool.not_eq_false] at htiming
    subst htiming
    rw [run_panics (by rwa [handledEvents_map])] at hrun
    cases hrun

/-- The observer returns on a stop only. -/
theorem observer_keeps_running
    (goes : Goes (observer limited exposeTiming condChan) (.select start) h l)
    (hstop : gotOn .stopObserver h = []) : l ≠ .returned := by
  cases goes with
  | start => simp
  | send _ hsend =>
      cases observer_sends hsend with
      | hand monInfo lastWakeup => cases condChan <;> simp [ObserverLoc.setCondition, setCondition]
      | set => simp
  | recv _ hrecv v =>
      cases observer_takes hrecv with
      | limitedEvent => simp
      | event => simp
      | stop => simp at hstop
      | scan lastWakeup ev =>
          intro (hreturned : ObserverLoc.scanned exposeTiming condChan lastWakeup ev v = .returned)
          rcases handleEvent_scanned exposeTiming condChan lastWakeup ev v with
            ⟨p, hloc, -⟩ | ⟨-, -, -, hruns⟩
          · cases hloc.symm.trans hreturned
          · rw [hreturned] at hruns
            exact hruns
      | clock => simp
  | default _ hcode hdefault =>
      rw [observer_default hcode] at hdefault
      cases hdefault

theorem ObserverLoc.runs_of_ne (hreturned : l ≠ .returned) (hpanic : ∀ p, l ≠ .panicked p) : l.Runs := by
  cases l with
  | panicked p => exact (hpanic p rfl).elim
  | returned => exact (hreturned rfl).elim
  | select | scanning | handing | stamping | setting => trivial

end Observer

end TopologyExporter
