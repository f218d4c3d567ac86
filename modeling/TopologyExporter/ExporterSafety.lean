/-
TopologyExporter/ExporterSafety.lean

The exporter does what its loops do one after the other.

In every interleaving of the goroutines, the events that are scanned are events of the
source, in their order; the updater handles the infos of the successful scans, in
their order, and the API server is as a session with these infos leaves it; the pod is
as a session with the conditions leaves it.  What has been scanned and not yet
published is at most one info in each hand (`exporter_in_step`).
-/
import TopologyExporter.Exporter

namespace TopologyExporter

open Goroutines Interaction

variable {ρ : Type} {x : Exporter ρ} {tr : List ExporterAct} {s : ExporterState x}

/-! ### The infos and the conditions -/

/-- The infos among what the observer has to send. -/
def infosOf (out : List ObserverOutput) : List MonitorInfo :=
  out.filterMap fun
    | .info monInfo => some monInfo
    | .cond _ => none

/-- The conditions among what the observer has to send. -/
def conditionsOf (out : List ObserverOutput) : List PodCondition :=
  out.filterMap fun
    | .info _ => none
    | .cond condition => some condition

theorem infosOf_observerOutputs (h : List (Comm ExporterChan.Val)) :
    infosOf (observerOutputs h) = sentOn .infoChan h := by
  rw [infosOf, observerOutputs, List.filterMap_filterMap]
  refine List.filterMap_congr fun e _ => ?_
  cases e with
  | got c v => rfl
  | sent c v => cases c <;> rfl

theorem conditionsOf_observerOutputs (h : List (Comm ExporterChan.Val)) :
    conditionsOf (observerOutputs h) = (sentOn .condChan h).map TimedCondition.condition := by
  rw [conditionsOf, observerOutputs, List.filterMap_filterMap, sentOn, List.map_filterMap]
  refine List.filterMap_congr fun e _ => ?_
  cases e with
  | got c v => rfl
  | sent c v => cases c <;> rfl

theorem type_of_mem_setCondition {condChan : Bool} {condType : RTEConditionType}
    {condStatus : ConditionStatus} {c : PodCondition} (hc : c ∈ setCondition condChan condType condStatus) :
    condChan = true ∧ c.type = condType := by
  cases condChan <;> cases condStatus <;> simp_all [setCondition]

theorem conditionsOf_append (out out' : List ObserverOutput) :
    conditionsOf (out ++ out') = conditionsOf out ++ conditionsOf out' := List.filterMap_append

theorem conditionsOf_map_cond (conditions : List PodCondition) :
    conditionsOf (conditions.map .cond) = conditions := by
  rw [conditionsOf, List.filterMap_map]
  exact List.filterMap_some

/-- The observer sets one type of condition, and only if there is an injector. -/
theorem type_of_mem_reports {exposeTiming condChan : Bool} {start : Int}
    {done : List (Event × ScanOutcome)} {c : PodCondition}
    (hc : c ∈ conditionsOf (reports exposeTiming condChan start done)) :
    condChan = true ∧ c.type = .podresourcesFetched := by
  induction done generalizing start with
  | nil => cases hc
  | cons e done ih =>
      rw [reports, conditionsOf_append] at hc
      rcases List.mem_append.mp hc with hc | hc
      · have hcond : ∃ condStatus, c ∈ setCondition condChan .podresourcesFetched condStatus := by
          rcases herr : e.2.err with - | err
          · rw [report, herr] at hc
            refine ⟨.conditionTrue, ?_⟩
            rw [← conditionsOf_map_cond (setCondition condChan .podresourcesFetched .conditionTrue)]
            exact hc
          · rw [report, herr, conditionsOf_map_cond] at hc
            exact ⟨_, hc⟩
        obtain ⟨condStatus, hcond⟩ := hcond
        exact type_of_mem_setCondition hcond
      · exact ih hc

/-- The updater sets the other type. -/
theorem type_of_mem_roundConditions {condChan : Bool} {r : ReportRound} {c : PodCondition}
    (hc : c ∈ roundConditions condChan r) : condChan = true ∧ c.type = .nodeTopologyUpdated := by
  rw [roundConditions] at hc
  split at hc
  · cases hc
  · exact type_of_mem_setCondition hc

/-- The condition was set by the observer. -/
def TimedCondition.isFetched (c : TimedCondition) : Bool := c.condition.type = .podresourcesFetched

/-! ### The channels behind the observer -/

/-- The updater gets the infos as the observer sends them. -/
theorem infos_received (run : Run x.net (.initial x.net) tr s) :
    gotOn .infoChan (history .updater tr) = sentOn .infoChan (history .observer tr) := by
  have hlaw := run.received (c := .infoChan) (p := .observer) (q := .updater) rfl
    (onlySender (by decide)) (onlyReceiver (by cases x.limited <;> decide))
  rwa [run.buf_eq_nil rfl, List.append_nil] at hlaw

section Conditions

variable {done : List (Event × ScanOutcome)} {published : List MonitorInfo}

/-- Only the observer and the updater send conditions, each of its own type. -/
theorem isFetched_of_mem_sentOn (run : Run x.net (.initial x.net) tr s)
    (hobserver : ObserverTrack x.limited x.exposeTiming x.podReadiness x.lastWakeup
      (history .observer tr) (s.loc .observer) done)
    (hruns : ObserverLoc.Runs (s.loc .observer))
    (hupdater : UpdaterTrack x.podReadiness x.nodeGetter x.te x.world (history .updater tr)
      (s.loc .updater) published)
    (q : ExporterParty) {c : TimedCondition} (hc : c ∈ sentOn .condChan (history q tr)) :
    q = .observer ∧ c.isFetched = true ∨ q = .updater ∧ c.isFetched = false := by
  have hcond := List.mem_map_of_mem (f := TimedCondition.condition) hc
  obtain ⟨l, n, hsend⟩ := (run.goes q).offered_of_mem_sentOn hc
  have hgiven := givenBy_of_offered hsend
  cases q with
  | observer =>
      refine .inl ⟨rfl, ?_⟩
      rw [← conditionsOf_observerOutputs] at hcond
      have hmem : c.condition ∈ conditionsOf (reports x.exposeTiming x.podReadiness x.lastWakeup done) := by
        rw [hobserver.reports_eq hruns, conditionsOf_append]
        exact List.mem_append_left _ hcond
      simp [TimedCondition.isFetched, (type_of_mem_reports hmem).2]
  | updater =>
      refine .inr ⟨rfl, ?_⟩
      have hmem := List.mem_append_left (UpdaterLoc.owed (s.loc .updater)) hcond
      rw [hupdater.conditions] at hmem
      obtain ⟨r, -, hr⟩ := List.mem_flatMap.mp hmem
      simp [TimedCondition.isFetched, (type_of_mem_roundConditions hr).2]
  | source => cases hgiven
  | receiver => cases hgiven
  | sender => cases hgiven
  | injector => cases hgiven

end Conditions

/-- The injector, if there is one, goes through a session with the pod. -/
theorem injector_history (run : Run x.net (.initial x.net) tr s) :
    ∃ injected, gotOn .condChan (history .injector tr) = injected ++ InjectorLoc.injects (s.loc .injector)
      ∧ InjectorLoc.reached (s.loc .injector)
        = reached ConditionInjector.inject PodWorld.serve x.ci x.pod
            (injected.map TimedCondition.toStatus) := by
  have goes := run.goes .injector
  rcases hready : x.podReadiness with - | -
  · have hnone : ∀ l, x.net.code .injector l = none := by
      intro l
      exact if_neg (by simp [hready])
    obtain ⟨hhistory, hloc⟩ := goes.of_no_code hnone
    rw [hhistory, hloc]
    exact ⟨[], rfl, rfl⟩
  · have hcode : x.net.code .injector = injector := by
      funext l
      exact if_pos hready
    rw [hcode] at goes
    exact injector_goes goes

/-! ### The account of a run -/

/-- Where everything is that the exporter has read: the scans that have returned, the
infos whose update has returned, the conditions whose `Inject` has returned, and what is
in the hands of the goroutines. -/
structure Account (x : Exporter ρ) (tr : List ExporterAct) (s : ExporterState x)
    (scanned : List (Event × ScanOutcome)) (published : List MonitorInfo)
    (injected : List TimedCondition) : Prop where
  events : observed x tr = scanned.map Prod.fst ++ ObserverLoc.scansFor (s.loc .observer)
  scans : gotOn .scan (history .observer tr) = scanned.map Prod.snd
  infos : infosOf (reports x.exposeTiming x.podReadiness x.lastWakeup scanned)
    = published ++ UpdaterLoc.updates (s.loc .updater)
      ++ infosOf (ObserverLoc.owed x.podReadiness (s.loc .observer))
  fetched : conditionsOf (reports x.exposeTiming x.podReadiness x.lastWakeup scanned)
    = ((injected ++ InjectorLoc.injects (s.loc .injector)).filter TimedCondition.isFetched).map
        TimedCondition.condition
      ++ conditionsOf (ObserverLoc.owed x.podReadiness (s.loc .observer))
  updated : (session NRTUpdater.report World.serve x.te x.world
      (published.map fun info => ⟨info, x.nodeGetter⟩)).flatMap (roundConditions x.podReadiness)
    = ((injected ++ InjectorLoc.injects (s.loc .injector)).filter fun c => !c.isFetched).map
        TimedCondition.condition
      ++ UpdaterLoc.owed (s.loc .updater)
  updater : UpdaterLoc.reached (s.loc .updater)
    = reached NRTUpdater.report World.serve x.te x.world (published.map fun info => ⟨info, x.nodeGetter⟩)
  injector : InjectorLoc.reached (s.loc .injector)
    = reached ConditionInjector.inject PodWorld.serve x.ci x.pod (injected.map TimedCondition.toStatus)

theorem infosOf_append (out out' : List ObserverOutput) :
    infosOf (out ++ out') = infosOf out ++ infosOf out' := List.filterMap_append

/-- Every run has an account, as long as the observer has not panicked. -/
theorem exists_account (run : Run x.net (.initial x.net) tr s)
    (hruns : ObserverLoc.Runs (s.loc .observer)) :
    ∃ scanned published injected, Account x tr s scanned published injected := by
  obtain ⟨scanned, hobserver⟩ := observer_goes (run.goes .observer)
  obtain ⟨published, hupdater⟩ := updater_goes (run.goes .updater)
  obtain ⟨injected, hinjected, hinjector⟩ := injector_history run
  have hreports := hobserver.reports_eq hruns
  have htypes := fun q {c} => isFetched_of_mem_sentOn run hobserver hruns hupdater q (c := c)
  have hreceiver : OnlyReceiver x.net .injector .condChan :=
    onlyReceiver (by cases x.limited <;> decide)
  refine ⟨scanned, published, injected, hobserver.events, hobserver.scans, ?_, ?_, ?_,
    hupdater.reached, hinjector⟩
  · rw [hreports, infosOf_append, infosOf_observerOutputs, ← infos_received run, hupdater.infos]
  · have hlaw := run.received_from (p := .observer) rfl hreceiver (P := TimedCondition.isFetched) (by
      intro q c hc
      rcases htypes q hc with ⟨rfl, h⟩ | ⟨rfl, h⟩
      · simp [h]
      · simp [h])
    rw [run.buf_eq_nil rfl, List.append_nil, hinjected] at hlaw
    rw [hreports, conditionsOf_append, conditionsOf_observerOutputs, ← hlaw]
  · have hlaw := run.received_from (p := .updater) rfl hreceiver (P := fun c => !c.isFetched) (by
      intro q c hc
      rcases htypes q hc with ⟨rfl, h⟩ | ⟨rfl, h⟩
      · simp [h]
      · simp [h])
    rw [run.buf_eq_nil rfl, List.append_nil, hinjected] at hlaw
    rw [← hupdater.conditions, ← hlaw]

/-! ### In step -/

/-- Nobody sends on the channel. -/
theorem unused_of_givenBy {c : ExporterChan} (h : ∀ q ∈ ExporterParty.all, c.givenBy q = false) :
    ∀ q l v n, ¬ Offered (x.net.code q) l (.send c v n) := by
  intro q l v n hsend
  cases (h q q.mem_all).symm.trans (givenBy_of_offered hsend)

theorem observer_runs (run : Run x.net (.initial x.net) tr s)
    (hpanic : ∀ p, s.loc .observer ≠ .panicked p) : ObserverLoc.Runs (s.loc .observer) := by
  refine ObserverLoc.runs_of_ne ?_ hpanic
  exact observer_keeps_running (run.goes .observer) (run.gotOn_eq_nil_of_unused rfl
    (onlyReceiver (by cases x.limited <;> decide)) (unused_of_givenBy (by decide)))

theorem length_owed_le (condChan : Bool) (l : ObserverLoc) :
    (infosOf (l.owed condChan)).length ≤ 1 ∧ (conditionsOf (l.owed condChan)).length ≤ 1 := by
  cases l with
  | handing monInfo lastWakeup =>
      cases condChan <;> simp [ObserverLoc.owed, setCondition, infosOf, conditionsOf]
  | select | scanning | panicked | returned => exact ⟨Nat.zero_le _, Nat.zero_le _⟩
  | stamping | setting => exact ⟨Nat.zero_le _, le_rfl⟩

theorem UpdaterLoc.length_updates_le (l : UpdaterLoc) : l.updates.length ≤ 1 ∧ l.owed.length ≤ 1 := by
  cases l <;> simp [UpdaterLoc.updates, UpdaterLoc.owed]

theorem InjectorLoc.length_injects_le (l : InjectorLoc ρ) : l.injects.length ≤ 1 := by
  cases l <;> simp [InjectorLoc.injects]

/-- `done` is all of `due`, but for a few at the end. -/
def UpTo {α : Type} (n : Nat) (done due : List α) : Prop := done <+: due ∧ due.length ≤ done.length + n

/-- What has been scanned, published and injected follows the source, one after the
other. -/
structure InStep (x : Exporter ρ) (tr : List ExporterAct) (s : ExporterState x)
    (scanned : List (Event × ScanOutcome)) (published : List MonitorInfo)
    (injected : List TimedCondition) : Prop where
  scans : gotOn .scan (history .observer tr) = scanned.map Prod.snd
  limitedEvents : (scanned.map Prod.fst).Sublist (emitted tr)
  events : x.limited = false → UpTo 1 (scanned.map Prod.fst) (emitted tr)
  infos : UpTo 2 published (infosOf (reports x.exposeTiming x.podReadiness x.lastWakeup scanned))
  fetched : UpTo 2 ((injected.filter TimedCondition.isFetched).map TimedCondition.condition)
    (conditionsOf (reports x.exposeTiming x.podReadiness x.lastWakeup scanned))
  updated : UpTo 2 ((injected.filter fun c => !c.isFetched).map TimedCondition.condition)
    ((session NRTUpdater.report World.serve x.te x.world
      (published.map fun info => ⟨info, x.nodeGetter⟩)).flatMap (roundConditions x.podReadiness))
  updater : UpdaterLoc.reached (s.loc .updater)
    = reached NRTUpdater.report World.serve x.te x.world (published.map fun info => ⟨info, x.nodeGetter⟩)
  injector : InjectorLoc.reached (s.loc .injector)
    = reached ConditionInjector.inject PodWorld.serve x.ci x.pod (injected.map TimedCondition.toStatus)

theorem UpTo.of_append {α : Type} {n : Nat} {done due : List α} (rest : List α)
    (hdue : due = done ++ rest) (hrest : rest.length ≤ n) : UpTo n done due := by
  subst hdue
  exact ⟨List.prefix_append _ _, by simpa using hrest⟩

/-- The conditions injected, among those taken from the channel. -/
theorem UpTo.of_injects {f : TimedCondition → Bool} {injected injects : List TimedCondition}
    {owed due : List PodCondition}
    (hdue : due = ((injected ++ injects).filter f).map TimedCondition.condition ++ owed)
    (hinjects : injects.length ≤ 1) (howed : owed.length ≤ 1) :
    UpTo 2 ((injected.filter f).map TimedCondition.condition) due := by
  refine .of_append ((injects.filter f).map TimedCondition.condition ++ owed) ?_ ?_
  · simpa using hdue
  · have hle : (injects.filter f).length ≤ injects.length := List.length_filter_le f injects
    simp only [List.length_append, List.length_map]
    omega

/-- **In every interleaving, the exporter does what its loops do one after the other.**
The events scanned are events of the source, in order, and without a limiter all but
the last one; the updater has handled the infos of the scans, in order, all but the
last two, and left the API server as a session with them does; the same for the
conditions and the pod. -/
theorem exporter_in_step (x : Exporter ρ) {tr : List ExporterAct} {s : ExporterState x}
    (run : Run x.net (.initial x.net) tr s) (hpanic : ∀ p, s.loc .observer ≠ .panicked p) :
    ∃ scanned published injected, InStep x tr s scanned published injected := by
  obtain ⟨scanned, published, injected, account⟩ := exists_account run (observer_runs run hpanic)
  obtain ⟨hinfos, hconds⟩ := length_owed_le x.podReadiness (s.loc .observer)
  obtain ⟨hupdates, howed⟩ := UpdaterLoc.length_updates_le (s.loc .updater)
  have hinjects := InjectorLoc.length_injects_le (s.loc .injector)
  refine ⟨scanned, published, injected, account.scans, ?_, ?_, ?_, ?_, ?_, account.updater,
    account.injector⟩
  · refine List.Sublist.trans ?_ (observed_sublist_emitted run)
    rw [account.events]
    exact List.sublist_append_left _ _
  · intro hlimited
    refine .of_append _ ((observed_eq_emitted run hlimited).symm.trans account.events) ?_
    cases s.loc .observer <;> simp [ObserverLoc.scansFor]
  · refine .of_append _ (account.infos.trans (List.append_assoc _ _ _)) ?_
    rw [List.length_append]
    omega
  · exact .of_injects account.fetched hinjects hconds
  · exact .of_injects account.updated hinjects howed

/-- An exporter without a limiter, with an injector. -/
def smallExporter : Exporter Unit where
  source := ⟨60 * GoTime.second, []⟩
  limited := false
  exposeTiming := false
  podReadiness := true
  lastWakeup := 0
  te := newNRTUpdater threeWayLibrary resyncArgs podScope
  world := editedWorld
  nodeGetter := fun _ => .error .notConfigured
  ci := newConditionInjector
  pod := flakyWorld

/-- A scan without zones. -/
def emptyScan : ScanOutcome where
  res := { zones := some [], attributes := [], annotations := some ∅ }
  err := none
  success := by simp
  failure := by simp

/-- The first event is scanned and its info handed to the updater. -/
theorem exporter_in_step_first_event :
    ∃ tr s, Run smallExporter.net (.initial smallExporter.net) tr s
      ∧ emitted tr = [⟨5, 0⟩]
      ∧ UpdaterLoc.updates (s.loc .updater) = [⟨false, some [], [], some ∅⟩]
      ∧ ∃ scanned published injected, InStep smallExporter tr s scanned published injected := by
  have start : Run smallExporter.net (.initial smallExporter.net) [] (.initial smallExporter.net) := .nil
  have run := (((start.snoc (Exporter.step_stamp rfl 5)).snoc (Exporter.step_hand rfl rfl rfl)).snoc
    (Exporter.step_scan rfl emptyScan)).snoc (Exporter.step_info rfl rfl)
  exact ⟨_, _, run, rfl, rfl, exporter_in_step smallExporter run (fun p h => by cases h)⟩

/-! ### Where a report comes from -/

/-- The infos that the updater has received. -/
def reported (tr : List ExporterAct) : List MonitorInfo := gotOn .infoChan (history .updater tr)

/-- The ticks that the source has received. -/
def ticks (tr : List ExporterAct) : List Int := gotOn (.event .timeEvents) (history .source tr)

/-- The changes of files that the source has received. -/
def fileChanges (tr : List ExporterAct) : List FsEvent :=
  gotOn (.event .watcherEvents) (history .source tr)

/-- The info reports the scan that was made for the event. -/
structure MonitorInfo.Reports (info : MonitorInfo) (e : Event × ScanOutcome) : Prop where
  timer : info.timer = e.1.isTimer
  zones : info.zones = e.2.res.zones
  attributes : info.attributes = e.2.res.attributes

theorem infosOf_map_cond (conditions : List PodCondition) :
    infosOf (conditions.map ObserverOutput.cond) = [] := by
  rw [infosOf, List.filterMap_map]
  exact List.filterMap_eq_nil_iff.mpr fun _ _ => rfl

/-- There is one info for each scan that succeeds. -/
theorem infosOf_reports (exposeTiming condChan : Bool) (start : Int)
    (done : List (Event × ScanOutcome)) :
    List.Forall₂ MonitorInfo.Reports (infosOf (reports exposeTiming condChan start done))
      (done.filter fun e => e.2.err.isNone) := by
  induction done generalizing start with
  | nil => exact .nil
  | cons e done ih =>
      obtain ⟨ev, scanRes⟩ := e
      rw [reports, infosOf_append]
      rcases herr : scanRes.err with - | err
      · rw [List.filter_cons_of_pos (by simp [herr])]
        simp only [report, herr]
        rw [← List.singleton_append, infosOf_append, infosOf_map_cond]
        exact .cons ⟨rfl, rfl, rfl⟩ (ih ev.timestamp)
      · rw [List.filter_cons_of_neg (by simp [herr])]
        simp only [report, herr]
        rw [infosOf_map_cond]
        exact ih ev.timestamp

theorem timers_of_reports (exposeTiming condChan : Bool) (start : Int)
    (done : List (Event × ScanOutcome)) :
    ((infosOf (reports exposeTiming condChan start done)).map MonitorInfo.timer).Sublist
      ((done.map Prod.fst).map Event.isTimer) := by
  have htimers : ∀ {infos : List MonitorInfo} {es : List (Event × ScanOutcome)},
      List.Forall₂ MonitorInfo.Reports infos es →
        infos.map MonitorInfo.timer = (es.map Prod.fst).map Event.isTimer := by
    intro infos es h
    induction h with
    | nil => rfl
    | cons hreports _ ih => exact congrArg₂ List.cons hreports.timer ih
  rw [htimers (infosOf_reports exposeTiming condChan start done)]
  exact (List.filter_sublist.map _).map _

/-- The labels of the infos are those of the events of the source. -/
theorem timers_of_reported (run : Run x.net (.initial x.net) tr s)
    (hpanic : ∀ p, s.loc .observer ≠ .panicked p) :
    ((reported tr).map MonitorInfo.timer).Sublist ((emitted tr).map Event.isTimer) := by
  have hruns := observer_runs run hpanic
  obtain ⟨scanned, track⟩ := observer_goes (run.goes .observer)
  have hinfos : (reported tr).Sublist
      (infosOf (reports x.exposeTiming x.podReadiness x.lastWakeup scanned)) := by
    rw [track.reports_eq hruns, infosOf_append, infosOf_observerOutputs, ← infos_received run]
    exact List.sublist_append_left _ _
  have hscanned : (scanned.map Prod.fst).Sublist (emitted tr) := by
    refine List.Sublist.trans ?_ (observed_sublist_emitted run)
    rw [observed, track.events]
    exact List.sublist_append_left _ _
  exact (hinfos.map _).trans ((timers_of_reports _ _ _ scanned).trans (hscanned.map _))

/-- **No report is made up.**  The updater gets at most one periodic report for each tick,
and at most one reactive report for each change of a watched file, besides the first. -/
theorem reports_have_causes (x : Exporter ρ) {tr : List ExporterAct} {s : ExporterState x}
    (run : Run x.net (.initial x.net) tr s) (hpanic : ∀ p, s.loc .observer ≠ .panicked p) :
    (reported tr).countP (fun info => info.timer) ≤ (ticks tr).length
      ∧ (reported tr).countP (fun info => !info.timer)
        ≤ 1 + (fileChanges tr).countP (anyFilter x.source.filters) := by
  obtain ⟨h, hhistory, goes⟩ := source_history run
  obtain ⟨hticks, hchanges⟩ := source_goes goes
  have hemitted : emitted tr = sentOn .inCh h := by
    rw [emitted, hhistory]
    exact sentOn_along event_injective _ _
  have htaken : ticks tr = gotOn .timeEvents h := by
    rw [ticks, hhistory]
    exact gotOn_along event_injective _ _
  have hchanged : fileChanges tr = gotOn .watcherEvents h := by
    rw [fileChanges, hhistory]
    exact gotOn_along event_injective _ _
  have hcount : ∀ f : Bool → Bool, (reported tr).countP (fun info => f info.timer)
      ≤ (sentOn .inCh h ++ (SourceLoc.hand (s.loc .source)).toList).countP fun ev => f ev.isTimer := by
    intro f
    have hle := (timers_of_reported run hpanic).countP_le (p := f)
    rw [List.countP_map, List.countP_map, hemitted] at hle
    exact hle.trans (List.Sublist.countP_le (List.sublist_append_left _ _))
  rw [htaken, hchanged]
  constructor
  · exact (hcount id).trans hticks.le
  · exact (hcount not).trans (by omega)

end TopologyExporter
