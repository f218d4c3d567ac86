/-
TopologyExporter/PublishedScan.lean

From the pods of the node to the object on the API server.

The scans that the exporter makes are those of a resource monitor, each with its
figures and the kubelet's answer of the moment.  If the exporter is at rest, and nobody
else touches the API server and it does not fail, the object of the node shows the last
scan that succeeded, in patch mode as well as in get+update mode, and whatever the
schedule of the goroutines was (`object_shows_last_scan`).

The pieces: an idle exporter has gone through a session with the infos of its scans
(`ExporterProgress.lean`); a server left alone serves a session as a `Party` does
(`PatchRefinement.lean`); the last report of a party is in its store.
-/
import TopologyExporter.ExporterProgress
import TopologyExporter.PatchRefinement

namespace TopologyExporter

open Goroutines Interaction GoMap NRTUpdater

/-! ### A server that is left alone -/

/-- Once the script is over, requests are served by the server alone. -/
theorem World.serve_of_script_nil (history : List ForeignWrite) (server : Server) (q : Request) :
    World.serve ⟨server, [], history⟩ q
      = ((servePatchFailing none server q).1, ⟨(servePatchFailing none server q).2, [], history⟩) := by
  have hhistory : history ++ [] = history := List.append_nil history
  cases q <;> simp [World.serve, World.turn, World.arrive, servePatchFailing, hhistory]

/-- A session of reports is a run of the party. -/
theorem reached_eq_party (te : NRTUpdater) (server : Server) (reports : List Report) :
    reached NRTUpdater.report (servePatchFailing none) te server reports
      = (((reports.map fun r => StoreStep.update r none).foldl Party.step ⟨te, server⟩).updater,
          ((reports.map fun r => StoreStep.update r none).foldl Party.step ⟨te, server⟩).server) := by
  induction reports generalizing te server with
  | nil => rfl
  | cons r reports ih => exact ih _ _

/-- After a session the server stores the last report. -/
theorem published_of_reached (lib : PatchLibrary) {args : NRTUpdaterArgs}
    (hpublish : args.noPublish = false) (tmconf : TMConfig) (nodeGetter : NodeGetter) (server : Server) (history : List ForeignWrite)
    {infos : List MonitorInfo} {info : MonitorInfo}
    (hzones : ∀ info' ∈ infos ++ [info], info'.zones ≠ none)
    (hexact : args.patchMode = true → ∀ info' ∈ infos ++ [info], ExactCosts info'.zones) :
    ∃ nrt before, (reached NRTUpdater.report World.serve (newNRTUpdater lib args tmconf)
        ⟨server, [], history⟩ ((infos ++ [info]).map fun info => ⟨info, nodeGetter⟩)).2.server.objects.lookup
          args.hostname = some nrt
      ∧ Published (newNRTUpdater lib args tmconf) info before nrt.toNRTContent := by
  rw [reached_map (g := fun server => World.mk server [] history) (World.serve_of_script_nil history),
    reached_eq_party]
  have hsteps : ∀ a ∈ ((infos ++ [info]).map fun info => (⟨info, nodeGetter⟩ : Report)).map
      fun r => StoreStep.update r none, ∃ info' ∈ infos ++ [info],
        a = .update ⟨info', nodeGetter⟩ none := by
    intro a ha
    obtain ⟨r, hr, rfl⟩ := List.mem_map.mp ha
    obtain ⟨info', hinfo', rfl⟩ := List.mem_map.mp hr
    exact ⟨info', hinfo', rfl⟩
  have hcontent := content_runParty args (newNRTUpdater lib args tmconf) hpublish rfl server
    (fun a ha => by
      obtain ⟨info', hinfo', rfl⟩ := hsteps a ha
      exact hzones info' hinfo')
    (fun hmode a ha => by
      obtain ⟨info', hinfo', rfl⟩ := hsteps a ha
      exact hexact hmode info' hinfo')
  rw [List.map_append, List.map_append, List.foldl_append] at hcontent
  obtain ⟨nrt, hlookup, hnrt⟩ := Option.map_eq_some_iff.mp hcontent
  have hpublished : ∃ before,
      Published (newNRTUpdater lib args tmconf) info before nrt.toNRTContent := by
    rw [hnrt]
    exact ⟨_, published_mutate (newNRTUpdater lib args tmconf) nodeGetter info ⟨_, default⟩⟩
  obtain ⟨before, hpublished⟩ := hpublished
  refine ⟨nrt, before, ?_, hpublished⟩
  rw [List.map_append, List.map_append]
  exact hlookup

/-! ### Scans of a monitor -/

/-- A call of `Scan`: the monitor at that time, and the answer of the kubelet. -/
structure ScanCall where
  pfp : PodFingerprint
  ord : ScanOrders
  rm : ResourceMonitor
  excludeList : ResourceExclude
  resp : Except String (List PodResources)

def ScanCall.outcome (c : ScanCall) : ScanOutcome :=
  .ofScan c.pfp c.ord c.rm c.excludeList c.resp

/-- A scan succeeds iff the kubelet answers, and then it has the zones of the pods. -/
theorem ScanCall.outcome_ok {c : ScanCall} {podRes : List PodResources} (h : c.resp = .ok podRes) :
    c.outcome.err = none
      ∧ c.outcome.res.zones = some (scanZones c.ord c.rm c.excludeList podRes) := by
  obtain ⟨hzones, herr⟩ := scan_zones c.pfp c.ord c.rm c.excludeList podRes
  rw [← h] at hzones herr
  exact ⟨herr, hzones⟩

theorem ScanCall.err_ne_none {c : ScanCall} (h : ∃ err, c.resp = .error err) :
    c.outcome.err ≠ none := by
  obtain ⟨err, h⟩ := h
  show (scan c.pfp c.ord c.rm c.excludeList c.resp).2 ≠ none
  rw [h]
  exact Option.some_ne_none _

theorem ScanCall.zones_of_err_eq_none {c : ScanCall} (h : c.outcome.err = none) :
    c.outcome.res.zones ≠ none := by
  rcases hresp : c.resp with err | podRes
  · exact absurd h (ScanCall.err_ne_none ⟨err, hresp⟩)
  · rw [(ScanCall.outcome_ok hresp).2]
    exact Option.some_ne_none _

/-! ### The object of the node -/

/-- The object shows the zones and the attributes of a scan, and why it was made. -/
structure ShowsScan (te : NRTUpdater) (ev : Event) (c : ScanCall) (podRes : List PodResources)
    (nrt : NodeResourceTopology) : Prop where
  zones : nrt.zones = some (scanZones c.ord c.rm c.excludeList podRes)
  attributes : nrt.attributes = c.outcome.res.attributes ++ te.makeAttributes
  reason : nrt.annotations.lookup rteUpdate = some (if ev.isTimer then "periodic" else "reactive")

section Infos

variable (exposeTiming condChan : Bool) (start : Int)

/-- The events with the outcomes of their scans. -/
def outcomes (scanned : List (Event × ScanCall)) : List (Event × ScanOutcome) :=
  scanned.map fun e => (e.1, e.2.outcome)

/-- What holds of the zones of the scans holds of those of the infos. -/
theorem zones_of_reports {P : Option (List Zone) → Prop} {infos : List MonitorInfo}
    {es : List (Event × ScanOutcome)} (h : List.Forall₂ MonitorInfo.Reports infos es)
    (hzones : ∀ e ∈ es, P e.2.res.zones) : ∀ info ∈ infos, P info.zones := by
  induction h with
  | nil => exact List.forall_mem_nil _
  | cons hreports _ ih =>
      obtain ⟨he, hes⟩ := List.forall_mem_cons.mp hzones
      exact List.forall_mem_cons.mpr ⟨hreports.zones ▸ he, ih hes⟩

/-- The infos are those of the scans that succeeded. -/
theorem zones_of_mem_infos {P : Option (List Zone) → Prop} {scanned : List (Event × ScanCall)}
    (h : ∀ e ∈ scanned, e.2.outcome.err = none → P e.2.outcome.res.zones) :
    ∀ info ∈ infosOf (reports exposeTiming condChan start (outcomes scanned)), P info.zones := by
  refine zones_of_reports (infosOf_reports exposeTiming condChan start (outcomes scanned)) fun e he => ?_
  obtain ⟨hmem, hok⟩ := List.mem_filter.mp he
  obtain ⟨e', he', rfl⟩ := List.mem_map.mp hmem
  exact h e' he' (Option.isNone_iff_eq_none.mp hok)

/-- The last info reports the last scan that succeeded. -/
theorem last_info (pre : List (Event × ScanCall)) (ev : Event) {c : ScanCall}
    {post : List (Event × ScanCall)} (hok : c.outcome.err = none) (hpost : ∀ e ∈ post, e.2.outcome.err ≠ none) :
    ∃ infos info, infosOf (reports exposeTiming condChan start (outcomes (pre ++ (ev, c) :: post)))
        = infos ++ [info]
      ∧ info.Reports (ev, c.outcome) := by
  have hreports := infosOf_reports exposeTiming condChan start (outcomes (pre ++ (ev, c) :: post))
  have hfilter : (outcomes (pre ++ (ev, c) :: post)).filter (fun e => e.2.err.isNone)
      = (outcomes pre).filter (fun e => e.2.err.isNone) ++ [(ev, c.outcome)] := by
    have hnone : (outcomes post).filter (fun e => e.2.err.isNone) = [] := by
      refine List.filter_eq_nil_iff.mpr fun e he => ?_
      obtain ⟨e', he', rfl⟩ := List.mem_map.mp he
      simpa using hpost e' he'
    simp only [outcomes] at hnone
    simp [outcomes, hok, hnone]
  rw [hfilter] at hreports
  have hlast := List.forall₂_drop_append _ _ _ hreports
  obtain ⟨info, rest, hinfo, hrest, hdrop⟩ := List.forall₂_cons_right_iff.mp hlast
  cases hrest
  exact ⟨_, info, (List.take_append_drop _ _).symm.trans (congrArg _ hdrop), hinfo⟩

end Infos

/-- **The object of the node shows the last scan that succeeded.**  Take an exporter with a
new updater, alone with an API server that does not fail, and any run of it that has come
to rest.  Each event that it has received has been scanned.  The object that the server
stores for the node has the zones of the last scan that the kubelet answered; if there is
none, the server is as it was.  In patch mode the costs of the zones are those that a patch
does not round. -/
theorem object_shows_last_scan {ρ : Type} (x : Exporter ρ) {lib : PatchLibrary}
    {args : NRTUpdaterArgs} {tmconf : TMConfig} (hte : x.te = newNRTUpdater lib args tmconf)
    (hpublish : args.noPublish = false) (halone : x.world.script = []) {tr : List ExporterAct} {s : ExporterState x}
    (run : Run x.net (.initial x.net) tr s) (hpanic : ∀ p, s.loc .observer ≠ .panicked p)
    (hrest : ∀ a t, Step x.net s a t → isStimulus a = true) (calls : List ScanCall)
    (hcalls : gotOn .scan (history .observer tr) = calls.map ScanCall.outcome)
    (hexact : args.patchMode = true → ∀ c ∈ calls, ExactCosts c.outcome.res.zones) :
    ∃ te w, s.loc .updater = .select te w ∧ (observed x tr).length = calls.length
      ∧ ((∀ c ∈ calls, ∃ err, c.resp = .error err) → w.server = x.world.server)
      ∧ ∀ pre ev c podRes post, (observed x tr).zip calls = pre ++ (ev, c) :: post →
          c.resp = .ok podRes → (∀ e ∈ post, ∃ err, e.2.resp = .error err) →
          ∃ nrt, w.server.objects.lookup args.hostname = some nrt
            ∧ ShowsScan x.te ev c podRes nrt := by
  obtain ⟨scanned, injected, settled⟩ := settled_of_rest run hpanic hrest
  have hlength : (observed x tr).length = calls.length := by
    have hscans : calls.length = scanned.length := by
      simpa using congrArg List.length (hcalls.symm.trans settled.scans)
    rw [settled.observed, List.length_map, hscans]
  -- the events and the calls of `Scan`, side by side
  have hscanned : scanned = outcomes ((observed x tr).zip calls) := by
    have hzip : outcomes ((observed x tr).zip calls) = (observed x tr).zip (calls.map ScanCall.outcome) :=
      (List.zip_map_right ..).symm
    rw [hzip, ← hcalls, settled.scans, settled.observed, ← List.unzip_fst, ← List.unzip_snd]
    exact (List.zip_unzip scanned).symm
  have hworld : x.world = ⟨x.world.server, [], x.world.history⟩ := by
    rw [← halone]
  refine ⟨_, _, settled.updater, hlength, ?_, ?_⟩
  · intro hall
    have hnone : infosOf (reports x.exposeTiming x.podReadiness x.lastWakeup scanned) = [] := by
      have hreports := infosOf_reports x.exposeTiming x.podReadiness x.lastWakeup scanned
      rw [List.filter_eq_nil_iff.mpr fun e he => ?_] at hreports
      · exact List.forall₂_nil_right_iff.mp hreports
      · have hmem : e.2 ∈ calls.map ScanCall.outcome := by
          rw [← hcalls, settled.scans]
          exact List.mem_map_of_mem he
        obtain ⟨c, hc, hout⟩ := List.mem_map.mp hmem
        rw [← hout, Option.isNone_iff_eq_none]
        exact ScanCall.err_ne_none (hall c hc)
    rw [hnone]
    rfl
  · intro pre ev c podRes post hzip hok hpost
    obtain ⟨herr, hzones⟩ := ScanCall.outcome_ok hok
    obtain ⟨infos, info, hinfos, hreports⟩ := last_info x.exposeTiming x.podReadiness x.lastWakeup
      pre ev herr fun e he => ScanCall.err_ne_none (hpost e he)
    have hinfo : ∀ P : Option (List Zone) → Prop, (∀ e ∈ pre ++ (ev, c) :: post,
        e.2.outcome.err = none → P e.2.outcome.res.zones) → ∀ info' ∈ infos ++ [info],
          P info'.zones := fun P h =>
      hinfos ▸ zones_of_mem_infos x.exposeTiming x.podReadiness x.lastWakeup h
    obtain ⟨nrt, before, hlookup, hpublished⟩ := published_of_reached lib hpublish tmconf x.nodeGetter
      x.world.server x.world.history (hinfo (· ≠ none) fun _ _ => ScanCall.zones_of_err_eq_none)
      fun hmode => hinfo ExactCosts fun e he _ => hexact hmode e.2 (List.of_mem_zip (hzip ▸ he)).2
    rw [hscanned, hzip, hinfos, hte, hworld]
    refine ⟨nrt, hlookup, hpublished.zones.trans (hreports.zones.trans hzones), ?_, ?_⟩
    · rw [hpublished.attributes, hreports.attributes]
    · rw [hpublished.annotations, if_pos rfl, MonitorInfo.updateReason, hreports.timer]

/-- The exporter without an injector, alone with an empty API server. -/
def aloneExporter : Exporter Unit := { quietExporter with world := ⟨Server.empty, [], []⟩ }

/-- A scan of a machine with one node and no pods. -/
def idleNodeScan : ScanCall where
  pfp := namesFingerprint
  ord := .sorted
  rm := initialMonitor "node-0" ⟨"", false, ""⟩ ⟨[⟨0, [⟨[0, 1]⟩], [10]⟩]⟩
  excludeList := ∅
  resp := .ok []

/-- The first event is scanned, and the object is created. -/
theorem object_shows_last_scan_first_event :
    ∃ tr s te w nrt, Run aloneExporter.net (.initial aloneExporter.net) tr s
      ∧ s.loc .updater = .select te w ∧ w.server.objects.lookup "node-0" = some nrt
      ∧ ShowsScan aloneExporter.te ⟨5, 0⟩ idleNodeScan [] nrt := by
  have start : Run aloneExporter.net (.initial aloneExporter.net) [] (.initial aloneExporter.net) := .nil
  have run := ((((start.snoc (Exporter.step_stamp rfl 5)).snoc (Exporter.step_hand rfl rfl rfl)).snoc
    (Exporter.step_scan rfl idleNodeScan.outcome)).snoc (Exporter.step_info rfl rfl)).snoc
    (Exporter.step_update rfl)
  obtain ⟨te, w, hupdater, -, -, hshows⟩ := object_shows_last_scan aloneExporter rfl rfl rfl run
    (fun p h => by cases h)
    (fun a t step => stuck_of_idle ⟨rfl, rfl, rfl, rfl, ⟨_, rfl⟩,
      ⟨_, _, UpdaterLoc.updated_false (updateRound aloneExporter.nodeGetter aloneExporter.te
        aloneExporter.world ⟨false, idleNodeScan.outcome.res.zones, idleNodeScan.outcome.res.attributes,
          idleNodeScan.outcome.res.annotations⟩)⟩, ⟨_, _, rfl⟩⟩ step) [idleNodeScan] rfl
    (fun _ => List.forall_mem_singleton.mpr (by decide +kernel))
  obtain ⟨nrt, hlookup, hshows⟩ := hshows [] ⟨5, 0⟩ idleNodeScan [] [] rfl rfl (List.forall_mem_nil _)
  exact ⟨_, _, te, w, nrt, run, hupdater, hlookup, hshows⟩

end TopologyExporter
