/-
TopologyExporter/Staleness.lean

How far patch mode can fall behind.  A patch is the difference to the object the
updater's last write returned, so what other clients have changed since then
stays unnoticed until the updater reads the object again.  With a positive
`patchResync` that happens at the latest after as many patches.

The run is a session of reports in a `World`: other clients edit and delete the
object at any point, any request may fail.  `staleness_bounded` ties the state
of the updater to the calls it has made, and bounds the number of successful
reports between two that start from the stored object.
-/
import TopologyExporter.Updater

namespace TopologyExporter

open Interaction GoMap NRTUpdater

/-! ### Sessions of reports -/

/-- What `Update` is called with. -/
structure Report where
  info : MonitorInfo
  nodeGetter : NodeGetter

def NRTUpdater.report (te : NRTUpdater) (r : Report) : Api (NRTUpdater × Option UpdateError) :=
  te.update r.nodeGetter r.info

abbrev ApiCall := Call Request Answer World

/-- One report of a session. -/
abbrev ReportRound := Round Report Request Answer World NRTUpdater (Option UpdateError)

/-- All calls of some rounds, in order. -/
def callsOf (rounds : List ReportRound) : List ApiCall := rounds.flatMap Round.calls

/-- The object the last successful write returned. -/
def lastWritten (calls : List ApiCall) : Option NodeResourceTopology :=
  calls.foldl (fun last c => (written c).or last) none

/-- One call more in the count of patches since the last update or create. -/
def countPatch (n : Nat) (c : ApiCall) : Nat :=
  match written c, c.request with
  | none, _ => n
  | some _, .patch _ _ => n + 1
  | some _, _ => 0

/-- The number of successful patches since the last successful update or create. -/
def patchesSinceResync (calls : List ApiCall) : Nat := calls.foldl countPatch 0

/-- The round went through `sendObjectUpdate`: the object was asked for. -/
def ThroughUpdate (te : NRTUpdater) (r : ReportRound) : Prop :=
  ∃ c ∈ r.calls, c.request = .get te.args.hostname

/-- After the round the stored object has the zones of the report, and its
attributes followed by those of the topology manager. -/
def StoresReport (te : NRTUpdater) (r : ReportRound) : Prop :=
  ∃ nrt, r.final.server.objects.lookup te.args.hostname = some nrt
    ∧ nrt.zones = r.input.info.zones
    ∧ nrt.attributes = r.input.info.attributes ++ te.makeAttributes

/-- The state of the updater is what its calls made it, and the count is at most
`resync`. -/
structure Tracks (resync : Int) (te : NRTUpdater) (calls : List ApiCall) : Prop where
  prevNRT : te.prevNRT = lastWritten calls
  patchCount : te.patchCount = patchesSinceResync calls
  bounded : (te.patchCount : Int) ≤ resync

/-! ### Calls that write nothing -/

theorem foldl_unwritten {β : Type} {f : β → ApiCall → β}
    (hf : ∀ b c, written c = none → f b c = b) {calls : List ApiCall}
    (h : ∀ c ∈ calls, written c = none) (b : β) : calls.foldl f b = b := by
  induction calls with
  | nil => rfl
  | cons c calls ih =>
      rw [List.foldl_cons, hf b c (h c (by simp))]
      exact ih fun c' hc' => h c' (by simp [hc'])

theorem lastWritten_append (calls more : List ApiCall) :
    lastWritten (calls ++ more)
      = more.foldl (fun last c => (written c).or last) (lastWritten calls) :=
  List.foldl_append

theorem patchesSinceResync_append (calls more : List ApiCall) :
    patchesSinceResync (calls ++ more) = more.foldl countPatch (patchesSinceResync calls) :=
  List.foldl_append

theorem or_of_unwritten (last : Option NodeResourceTopology) (c : ApiCall) (h : written c = none) :
    (written c).or last = last := by
  rw [h, Option.none_or]

theorem countPatch_of_unwritten (n : Nat) (c : ApiCall) (h : written c = none) :
    countPatch n c = n := by
  rw [countPatch, h]

/-! ### One report -/

variable {te : NRTUpdater} {nodeGetter : NodeGetter} {info : MonitorInfo}
variable {run : Run Request Answer World (NRTUpdater × Option UpdateError)}

theorem lt_of_needsResync_eq_false (hresync : 0 < te.args.patchResync)
    (h : te.needsResync = false) : (te.patchCount : Int) < te.args.patchResync := by
  rw [needsResync, if_neg (not_le.mpr hresync)] at h
  exact not_le.mp (of_decide_eq_false h)

/-- The write after a get is an update or a create. -/
theorem countPatch_of_writeFor {r : Answer} {q : Request}
    (hq : te.writeFor nodeGetter info r = .ok q) (nrt : NodeResourceTopology) (w : World) (n : Nat) :
    written (⟨q, .ok nrt, w⟩ : ApiCall) = some nrt ∧ countPatch n ⟨q, .ok nrt, w⟩ = 0 := by
  rcases r with (- | - | - | - | m) | nrt' <;> cases hq <;> exact ⟨rfl, rfl⟩

/-- A report keeps the updater in step with its calls. -/
theorem tracks_of_outcome (hresync : 0 < te.args.patchResync) {calls : List ApiCall}
    (h : Tracks te.args.patchResync te calls) (hrun : Outcome te nodeGetter info run) :
    Tracks te.args.patchResync run.result.1 (calls ++ run.calls) := by
  cases hrun with
  | patched hneeds =>
      refine ⟨?_, ?_, ?_⟩
      · rw [lastWritten_append]
        rfl
      · rw [patchesSinceResync_append, ← h.patchCount]
        rfl
      · have hlt := lt_of_needsResync_eq_false hresync hneeds
        show ((te.patchCount + 1 : Nat) : Int) ≤ _
        omega
  | @resynced before r q nrt w w' hbefore hq =>
      refine ⟨?_, ?_, hresync.le⟩
      · -- the last call writes, those before it do not
        rw [lastWritten_append, List.foldl_append, foldl_unwritten or_of_unwritten hbefore]
        show some nrt = (written ⟨q, .ok nrt, w'⟩).or _
        rw [(countPatch_of_writeFor hq nrt w' 0).1, Option.some_or]
      · rw [patchesSinceResync_append, List.foldl_append]
        exact (countPatch_of_writeFor hq nrt w' _).2.symm
  | failed hcalls =>
      refine ⟨?_, ?_, h.bounded⟩
      · rw [lastWritten_append, foldl_unwritten or_of_unwritten hcalls]
        exact h.prevNRT
      · rw [patchesSinceResync_append, foldl_unwritten countPatch_of_unwritten hcalls]
        exact h.patchCount

/-- What a report that returns an error leaves of the updater. -/
theorem unchanged_of_outcome (hrun : Outcome te nodeGetter info run)
    (herror : run.result.2 ≠ none) : run.result.1 = te := by
  cases hrun with
  | patched hneeds => exact absurd rfl herror
  | resynced hbefore hq => exact absurd rfl herror
  | failed hcalls => rfl

theorem config_of_outcome (hrun : Outcome te nodeGetter info run) :
    run.result.1.args = te.args ∧ run.result.1.tmConfig = te.tmConfig := by
  cases hrun with
  | patched hneeds => exact ⟨rfl, rfl⟩
  | resynced hbefore hq => exact ⟨rfl, rfl⟩
  | failed hcalls => exact ⟨rfl, rfl⟩

/-- A successful report that does not ask for the object is one more patch. -/
theorem patched_of_outcome (hrun : Outcome te nodeGetter info run) (hok : run.result.2 = none)
    (hget : ∀ c ∈ run.calls, c.request ≠ .get te.args.hostname) (n : Nat) :
    run.calls.foldl countPatch n = n + 1 := by
  cases hrun with
  | patched hneeds => rfl
  | @resynced before r q nrt w w' hbefore hq =>
      exact absurd rfl (hget ⟨.get te.args.hostname, r, w⟩ (by simp))
  | failed hcalls => cases hok

/-- What the write after a get leaves in the store. -/
theorem stored_of_writeFor {w₁ w₁' w₂ w₂' : World} {r : Answer} {q : Request}
    {nrt : NodeResourceTopology} (hget : w₁.serve (.get te.args.hostname) = (r, w₁'))
    (hq : te.writeFor nodeGetter info r = .ok q) (hwrite : w₂.serve q = (.ok nrt, w₂')) :
    w₂'.server.objects.lookup te.args.hostname = some nrt
      ∧ ∃ before, Published te info before nrt.toNRTContent := by
  have haccepts := World.accepts_of_serve hwrite
  rcases r with (- | - | - | - | m) | cur <;> cases hq
  · have hpublished := published_mutate te nodeGetter info te.freshNRT
    obtain ⟨hlookup, hcontent⟩ := haccepts.stored (Or.inl rfl)
    rw [hpublished.name] at hlookup
    exact ⟨hlookup, _, hcontent ▸ hpublished⟩
  · have hpublished := published_mutate te nodeGetter info cur
    have hfound := (World.accepts_of_serve hget).found
    obtain ⟨hlookup, hcontent⟩ := haccepts.stored (Or.inr rfl)
    rw [hpublished.name, w₁.arrive.server.named _ cur hfound] at hlookup
    exact ⟨hlookup, _, hcontent ▸ hpublished⟩

/-- A successful report that asks for the object stores what it reports. -/
theorem stored_of_outcome (hrun : Outcome te nodeGetter info run) (hok : run.result.2 = none)
    (hserved : ∀ c ∈ run.calls, ∃ w : World, w.serve c.request = (c.answer, c.after))
    (hget : ∃ c ∈ run.calls, c.request = .get te.args.hostname) :
    ∃ nrt before, run.final.server.objects.lookup te.args.hostname = some nrt
      ∧ Published te info before nrt.toNRTContent := by
  cases hrun with
  | patched hneeds =>
      obtain ⟨c, hc, hrequest⟩ := hget
      obtain rfl := List.mem_singleton.mp hc
      cases hrequest
  | @resynced before r q nrt w w' hbefore hq =>
      obtain ⟨w₁, hw₁⟩ := hserved ⟨.get te.args.hostname, r, w⟩ (by simp)
      obtain ⟨w₂, hw₂⟩ := hserved ⟨q, .ok nrt, w'⟩ (by simp)
      obtain ⟨hlookup, before, hpublished⟩ := stored_of_writeFor hw₁ hq hw₂
      exact ⟨nrt, before, hlookup, hpublished⟩
  | failed hcalls => cases hok

/-! ### Whole runs -/

/-- What holds of a report after the reports `done`. -/
structure RoundFacts (te : NRTUpdater) (done : List ReportRound) (r : ReportRound) : Prop where
  tracks : Tracks te.args.patchResync r.after (callsOf (done ++ [r]))
  error : r.result ≠ none →
    r.after.prevNRT = r.before.prevNRT ∧ r.after.patchCount = r.before.patchCount
  stores : r.result = none → ThroughUpdate te r → StoresReport te r
  patches : r.result = none → ¬ ThroughUpdate te r →
    patchesSinceResync (callsOf (done ++ [r])) = patchesSinceResync (callsOf done) + 1

theorem callsOf_append_singleton (done : List ReportRound) (r : ReportRound) :
    callsOf (done ++ [r]) = callsOf done ++ r.calls := by
  simp [callsOf]

theorem report_outcome {te : NRTUpdater} (hpatch : te.args.patchMode = true)
    (hpublish : te.args.noPublish = false) (w : World) (input : Report) :
    Outcome te input.nodeGetter input.info ((te.report input).run World.serve w) :=
  update_outcome input.nodeGetter input.info w hpublish hpatch

/-- One report keeps the state in step with the calls and has these properties. -/
theorem roundFacts_of_tracks {te : NRTUpdater} (hpatch : te.args.patchMode = true)
    (hpublish : te.args.noPublish = false) (hresync : 0 < te.args.patchResync)
    {done : List ReportRound} (htracks : Tracks te.args.patchResync te (callsOf done)) (w : World)
    (input : Report) :
    RoundFacts te done (roundOf NRTUpdater.report World.serve te w input) := by
  have hrun := report_outcome hpatch hpublish w input
  refine ⟨?_, fun herror => ?_, fun hok hget => ?_, fun hok hget => ?_⟩
  · rw [callsOf_append_singleton]
    exact tracks_of_outcome hresync htracks hrun
  · rw [show (roundOf NRTUpdater.report World.serve te w input).after = te from
      unchanged_of_outcome hrun herror]
    exact ⟨rfl, rfl⟩
  · obtain ⟨nrt, before, hlookup, hpublished⟩ :=
      stored_of_outcome hrun hok (fun c hc => Prog.run_served hc) hget
    exact ⟨nrt, hlookup, hpublished.zones, hpublished.attributes⟩
  · rw [callsOf_append_singleton, patchesSinceResync_append]
    exact patched_of_outcome hrun hok (fun c hc hrequest => hget ⟨c, hc, hrequest⟩) _

/-- Every report of a session has these properties. -/
theorem roundFacts_of_session (lib : PatchLibrary) {args : NRTUpdaterArgs} (tmconf : TMConfig)
    (hpatch : args.patchMode = true) (hpublish : args.noPublish = false)
    (hresync : 0 < args.patchResync) {w : World} {inputs : List Report} {pre post : List ReportRound}
    {r : ReportRound}
    (h : session NRTUpdater.report World.serve (newNRTUpdater lib args tmconf) w inputs
      = pre ++ r :: post) :
    RoundFacts (newNRTUpdater lib args tmconf) pre r := by
  -- the invariant: the configuration is the initial one, the state follows the calls
  let I : List ReportRound → NRTUpdater → World → Prop := fun done te _ =>
    te.args = args ∧ te.tmConfig = tmconf ∧ Tracks args.patchResync te (callsOf done)
  have hround : ∀ done te w input, I done te w → True →
      I (done ++ [roundOf NRTUpdater.report World.serve te w input])
          (roundOf NRTUpdater.report World.serve te w input).after
          (roundOf NRTUpdater.report World.serve te w input).final
        ∧ RoundFacts (newNRTUpdater lib args tmconf) done
            (roundOf NRTUpdater.report World.serve te w input) := by
    rintro done te w input ⟨rfl, rfl, htracks⟩ -
    have hfacts := roundFacts_of_tracks hpatch hpublish hresync htracks w input
    have hconfig := config_of_outcome (report_outcome hpatch hpublish w input)
    exact ⟨⟨hconfig.1, hconfig.2, hfacts.tracks⟩, hfacts.tracks, hfacts.error, hfacts.stores,
      hfacts.patches⟩
  have hinit : I [] (newNRTUpdater lib args tmconf) w := ⟨rfl, rfl, rfl, rfl, hresync.le⟩
  exact session_rule hround hinit (fun _ _ => trivial) h

/-- A window of successful reports that never ask for the object counts as many
patches. -/
theorem patches_of_window {te : NRTUpdater} {rounds pre window post : List ReportRound}
    (hfacts : ∀ pre r post, rounds = pre ++ r :: post → RoundFacts te pre r)
    (hrounds : rounds = pre ++ window ++ post) (hok : ∀ r ∈ window, r.result = none)
    (hget : ∀ r ∈ window, ¬ ThroughUpdate te r) :
    patchesSinceResync (callsOf (pre ++ window))
      = patchesSinceResync (callsOf pre) + window.length := by
  induction window generalizing pre with
  | nil => simp
  | cons r window ih =>
      have hone := (hfacts pre r (window ++ post) (by simp [hrounds])).patches
        (hok r (by simp)) (hget r (by simp))
      have hsplit : rounds = (pre ++ [r]) ++ window ++ post := by simp [hrounds]
      have hrest := ih hsplit (fun r' hr' => hok r' (by simp [hr']))
        (fun r' hr' => hget r' (by simp [hr']))
      rw [List.append_assoc, List.singleton_append] at hrest
      rw [hrest, hone, List.length_cons]
      omega

/-- **Bounded staleness.**  In patch mode with a positive `patchResync`, whatever
other clients write and whichever requests fail: after every report the updater
holds the object of its last write and the number of patches since its last
update or create, at most `patchResync`; a report that fails leaves both as they
were.  Among `patchResync + 1` successful reports in a row one goes through
`sendObjectUpdate`, and such a report leaves its zones and attributes stored. -/
theorem staleness_bounded (lib : PatchLibrary) (args : NRTUpdaterArgs) (tmconf : TMConfig)
    (hpatch : args.patchMode = true) (hpublish : args.noPublish = false)
    (hresync : 0 < args.patchResync) (w : World) (inputs : List Report) :
    (∀ pre r post,
      session NRTUpdater.report World.serve (newNRTUpdater lib args tmconf) w inputs
        = pre ++ r :: post →
      Tracks args.patchResync r.after (callsOf (pre ++ [r]))
        ∧ (r.result ≠ none →
            r.after.prevNRT = r.before.prevNRT ∧ r.after.patchCount = r.before.patchCount)
        ∧ (r.result = none → ThroughUpdate (newNRTUpdater lib args tmconf) r →
            StoresReport (newNRTUpdater lib args tmconf) r))
    ∧ ∀ pre window post,
      session NRTUpdater.report World.serve (newNRTUpdater lib args tmconf) w inputs
        = pre ++ window ++ post →
      (window.length : Int) = args.patchResync + 1 → (∀ r ∈ window, r.result = none) →
      ∃ r ∈ window, ThroughUpdate (newNRTUpdater lib args tmconf) r
        ∧ StoresReport (newNRTUpdater lib args tmconf) r := by
  have hfacts : ∀ pre r post,
      session NRTUpdater.report World.serve (newNRTUpdater lib args tmconf) w inputs
        = pre ++ r :: post →
      RoundFacts (newNRTUpdater lib args tmconf) pre r :=
    fun pre r post h => roundFacts_of_session lib tmconf hpatch hpublish hresync h
  refine ⟨fun pre r post h => ?_, fun pre window post hrounds hlength hok => ?_⟩
  · have hr := hfacts pre r post h
    exact ⟨hr.tracks, hr.error, hr.stores⟩
  · -- otherwise the count after the window would exceed `patchResync`
    have hthrough : ∃ r ∈ window, ThroughUpdate (newNRTUpdater lib args tmconf) r := by
      by_contra hnone
      push Not at hnone
      have hcount := patches_of_window hfacts hrounds hok hnone
      rcases List.eq_nil_or_concat window with rfl | ⟨init, last, rfl⟩
      · simp at hlength
        omega
      · have htracks := (hfacts (pre ++ init) last post (by simp [hrounds])).tracks
        have hbound := htracks.bounded
        rw [htracks.patchCount, List.append_assoc, ← List.concat_eq_append, hcount] at hbound
        change _ ≤ args.patchResync at hbound
        omega
    obtain ⟨r, hr, hget⟩ := hthrough
    obtain ⟨init, rest, rfl⟩ := List.append_of_mem hr
    have hstores := (hfacts (pre ++ init) r (rest ++ post) (by simp [hrounds])).stores (hok r hr) hget
    exact ⟨r, hr, hget, hstores⟩

/-- One patch between two resyncs. -/
def resyncArgs : NRTUpdaterArgs :=
  { noPublish := false, oneshot := false, hostname := "node-0", patchMode := true, patchResync := 1 }

def podScope : TMConfig := { policy := "single-numa-node", scope := "pod" }

def zoneReport (zones : List Zone) : Report where
  info := { timer := true, zones := some zones, attributes := [], annotations := none }
  nodeGetter := fun _ => .error .notConfigured

/-- Someone else's version of the object. -/
def editedContent : NRTContent where
  name := "node-0"
  labels := Finmap.singleton "team" "batch"
  annotations := ∅
  ownerReferences := []
  finalizers := []
  topologyPolicies := []
  zones := none
  attributes := []

/-- Another client edits the object before the third request and deletes it before
the fourth. -/
def editedWorld : World where
  server := Server.empty
  script := [⟨[], none⟩, ⟨[], none⟩, ⟨[.put editedContent], none⟩, ⟨[.delete "node-0"], none⟩]
  history := []

/-- The three reports of a run. -/
def threeReports : List ReportRound :=
  session NRTUpdater.report World.serve (newNRTUpdater threeWayLibrary resyncArgs podScope) editedWorld
    [zoneReport [], zoneReport [⟨"node-0", "Node", [], []⟩], zoneReport []]

theorem staleness_bounded_edited_object :
    (∀ r ∈ threeReports.drop 1, r.result = none)
      ∧ ∃ r ∈ threeReports.drop 1, ThroughUpdate (newNRTUpdater threeWayLibrary resyncArgs podScope) r
        ∧ StoresReport (newNRTUpdater threeWayLibrary resyncArgs podScope) r :=
  have hok : ∀ r ∈ threeReports.drop 1, r.result = none := by decide +kernel
  ⟨hok, (staleness_bounded threeWayLibrary resyncArgs podScope rfl rfl (by decide) editedWorld _).2
    (threeReports.take 1) (threeReports.drop 1) [] (by rw [List.append_nil, List.take_append_drop]; rfl)
    rfl hok⟩

end TopologyExporter
