/-
TopologyExporter/PatchRefinement.lean

Patch mode and get+update mode publish the same objects.

What both are for is an abstract store that holds the content of one object:
a report works itself into the content (`publish`), a deletion empties the store
(`abstractStep`).  Each mode, run against an API server of its own, refines this
store (`refines_step`, `refines_run`), as long as no one else edits the object
and nothing but a patch fails.  In patch mode this rests on the cached object
being the stored one, if there is one (`Party.Cached`), and on costs that the
patch library does not round: with a greater cost the two modes may publish
different objects (`large_cost_not_patched`).
-/
import TopologyExporter.Staleness

namespace TopologyExporter

open Interaction GoMap MergePatch NRTUpdater

/-! ### The abstract store -/

/-- What happens to the object: someone deletes it, or the updater reports. -/
inductive StoreStep
  | deleted
  | update (report : Report) (patchFailure : Option ApiError)

/-- The content after a report. -/
def NRTUpdater.publish (te : NRTUpdater) (report : Report) (stored : Option NRTContent) :
    NRTContent :=
  (te.mutate report.nodeGetter report.info
    ⟨stored.getD te.freshNRT.toNRTContent, default⟩).toNRTContent

def abstractStep (te : NRTUpdater) (stored : Option NRTContent) : StoreStep → Option NRTContent
  | .deleted => none
  | .update report _ => some (te.publish report stored)

theorem publish_mutate (te : NRTUpdater) (report : Report) (stored : Option NodeResourceTopology) :
    (te.mutate report.nodeGetter report.info (stored.getD te.freshNRT)).toNRTContent
      = te.publish report (stored.map NodeResourceTopology.toNRTContent) := by
  refine mutate_congr rfl ?_ _ _
  rcases stored with - | nrt <;> rfl

theorem publish_congr {te te' : NRTUpdater} (hname : te.args.hostname = te'.args.hostname)
    (hconfig : te.tmConfig = te'.tmConfig) (report : Report) (stored : Option NRTContent) :
    te.publish report stored = te'.publish report stored := by
  refine mutate_congr hconfig ?_ _ _
  rcases stored with - | content
  · simp only [freshNRT, hname]
  · rfl

/-! ### An updater and its server -/

/-- An updater and the API server it writes to. -/
structure Party where
  updater : NRTUpdater
  server : Server

/-- A server on which a patch may fail, and nothing else does. -/
def servePatchFailing (failure : Option ApiError) (s : Server) (q : Request) : Answer × Server :=
  match q, failure with
  | .patch _ _, some e => (.error e, s)
  | q, _ => s.exec q

def Party.step (p : Party) : StoreStep → Party
  | .deleted => ⟨p.updater, p.server.delete p.updater.args.hostname⟩
  | .update report failure =>
      let out := (p.updater.report report).run (servePatchFailing failure) p.server
      ⟨out.result.1, out.final⟩

/-- The content stored under the updater's name. -/
def Party.content (p : Party) : Option NRTContent :=
  (p.server.objects.lookup p.updater.args.hostname).map NodeResourceTopology.toNRTContent

/-- The cached object is the stored one, if there is one. -/
structure Party.Cached (p : Party) : Prop where
  unused : p.updater.args.patchMode = false → p.updater.prevNRT = none
  named : ∀ prev ∈ p.updater.prevNRT, prev.name = p.updater.args.hostname
  stored : ∀ prev ∈ p.updater.prevNRT,
    ∀ cur ∈ p.server.objects.lookup p.updater.args.hostname, cur = prev
  exact : ∀ prev ∈ p.updater.prevNRT, ExactCosts prev.zones

/-! ### One report -/

section Report

variable {te : NRTUpdater} {report : Report} {s : Server}

/-- The get+update path, when get, create and update do not fail. -/
theorem run_sendObjectUpdate (te : NRTUpdater) (report : Report) (failure : Option ApiError)
    (s : Server) {content : NRTContent}
    (hcontent : te.publish report (Party.content ⟨te, s⟩) = content) :
    ((te.sendObjectUpdate report.nodeGetter report.info).run (servePatchFailing failure) s).final
        = s.write content
      ∧ ((te.sendObjectUpdate report.nodeGetter report.info).run (servePatchFailing failure)
          s).result = .ok (s.stamp content) := by
  rw [Party.content, ← publish_mutate] at hcontent
  rw [sendObjectUpdate_eq, Prog.run_ask_bind]
  rcases hstored : s.objects.lookup te.args.hostname with - | cur
  · -- no object: a fresh one is created
    have hget : servePatchFailing failure s (.get te.args.hostname) = (.error .notFound, s) :=
      Server.exec_get_none hstored
    have hname := (published_mutate te report.nodeGetter report.info te.freshNRT).name
    have hcreate : servePatchFailing failure s
        (.create (te.mutate report.nodeGetter report.info te.freshNRT)) = _ :=
      Server.exec_create hname hstored
    rw [hstored, Option.getD_none] at hcontent
    simp only [hget, writeFor, Prog.run_ask_bind, hcreate, hcontent, Prog.run_pure, Run.cons,
      Except.mapError, and_self]
  · -- the object is written back with the version it was read with
    have hget : servePatchFailing failure s (.get te.args.hostname) = (.ok cur, s) :=
      Server.exec_get hstored
    have hname := (published_mutate te report.nodeGetter report.info cur).name
    have hversion : (te.mutate report.nodeGetter report.info cur).serverMeta.resourceVersion
        = cur.serverMeta.resourceVersion := by
      rw [serverMeta_mutate]
    have hupdate : servePatchFailing failure s
        (.update (te.mutate report.nodeGetter report.info cur)) = _ :=
      Server.exec_update (hname.trans (s.named _ cur hstored)) hstored hversion
    rw [hstored, Option.getD_some] at hcontent
    simp only [hget, writeFor, Prog.run_ask_bind, hupdate, hcontent, Prog.run_pure, Run.cons,
      Except.mapError, and_self]

/-- The updater after a write in patch mode. -/
def NRTUpdater.wrote (te : NRTUpdater) (nrt : NodeResourceTopology) (patchCount : Nat) : NRTUpdater :=
  { te with prevNRT := some nrt, patchCount := patchCount }

theorem run_resync (te : NRTUpdater) (report : Report) (failure : Option ApiError) (s : Server)
    {content : NRTContent} (hcontent : te.publish report (Party.content ⟨te, s⟩) = content) :
    ((te.resync report.nodeGetter report.info).run (servePatchFailing failure) s).final
        = s.write content
      ∧ ((te.resync report.nodeGetter report.info).run (servePatchFailing failure) s).result
        = (te.wrote (s.stamp content) 0, .ok (s.stamp content)) := by
  obtain ⟨hfinal, hresult⟩ := run_sendObjectUpdate te report failure s hcontent
  rw [resync, Prog.run_bind, hresult]
  exact ⟨hfinal, rfl⟩

/-- What a patch of the cached object does: it fails and leaves the store alone,
or stores what the get+update path would. -/
theorem serve_patch (failure : Option ApiError) (hcached : Party.Cached ⟨te, s⟩)
    (hzones : report.info.zones ≠ none) (hexact : ExactCosts report.info.zones)
    {content : NRTContent} (hcontent : te.publish report (Party.content ⟨te, s⟩) = content)
    {prev : NodeResourceTopology} (hprev : te.prevNRT = some prev) {patch : Object Leaf 2}
    (hpatch : makeNRTPatch te.lib prev (te.mutate report.nodeGetter report.info prev) = some patch) :
    (∃ e, servePatchFailing failure s (.patch prev.name patch) = (.error e, s))
      ∨ servePatchFailing failure s (.patch prev.name patch)
        = (.ok (s.stamp content), s.write content) := by
  rcases failure with - | e
  · have hname : prev.name = te.args.hostname := hcached.named prev hprev
    rw [hname]
    rcases hstored : s.objects.lookup te.args.hostname with - | cur
    · exact Or.inl ⟨.notFound, Server.exec_patch_none hstored⟩
    · obtain rfl : cur = prev := hcached.stored prev hprev cur hstored
      rw [Party.content, ← publish_mutate, hstored, Option.getD_some] at hcontent
      have hpublished := published_mutate te report.nodeGetter report.info cur
      have happly : applyPatch cur patch = some (te.mutate report.nodeGetter report.info cur) :=
        applyPatch_makeNRTPatch (hpublished.zones ▸ hzones) (hcached.exact cur hprev)
          (hpublished.zones ▸ hexact) hpatch
      refine Or.inr ?_
      rw [← hcontent]
      exact Server.exec_patch (hpublished.name.trans hname) hstored happly
        (serverMeta_mutate te report.nodeGetter report.info cur)
  · exact Or.inl ⟨e, rfl⟩

/-- Where no patch is accepted, the report goes through get+update. -/
theorem run_sendObjectPatch_resync {failure : Option ApiError} {content : NRTContent}
    (hcontent : te.publish report (Party.content ⟨te, s⟩) = content)
    (hrefused : te.needsResync = false → ∀ prev ∈ te.prevNRT, ∃ e,
      servePatchFailing failure s (.patch prev.name (te.lib.difference prev
        (te.mutate report.nodeGetter report.info prev))) = (.error e, s)) :
    ((te.sendObjectPatch report.nodeGetter report.info).run (servePatchFailing failure) s).final
        = s.write content
      ∧ ((te.sendObjectPatch report.nodeGetter report.info).run (servePatchFailing failure)
          s).result = (te.wrote (s.stamp content) 0, .ok (s.stamp content)) := by
  have hresync := run_resync te report failure s hcontent
  rw [sendObjectPatch]
  rcases hneeds : te.needsResync
  · rw [if_neg Bool.false_ne_true, Prog.run_bind, patchNRT]
    rcases hprev : te.prevNRT with - | prev
    · exact hresync
    · obtain ⟨e, hcall⟩ := hrefused hneeds prev hprev
      simp only [makeNRTPatch_eq, Prog.run_ask_bind, hcall]
      exact hresync
  · exact hresync

/-- A patch that is accepted is all there is. -/
theorem run_sendObjectPatch_patched {failure : Option ApiError} {content : NRTContent}
    {prev : NodeResourceTopology} (hneeds : te.needsResync = false) (hprev : te.prevNRT = some prev)
    (hcall : servePatchFailing failure s (.patch prev.name (te.lib.difference prev
        (te.mutate report.nodeGetter report.info prev)))
      = (.ok (s.stamp content), s.write content)) :
    ((te.sendObjectPatch report.nodeGetter report.info).run (servePatchFailing failure) s).final
        = s.write content
      ∧ ((te.sendObjectPatch report.nodeGetter report.info).run (servePatchFailing failure)
          s).result = (te.wrote (s.stamp content) (te.patchCount + 1), .ok (s.stamp content)) := by
  rw [sendObjectPatch, hneeds, if_neg Bool.false_ne_true, Prog.run_bind, patchNRT, hprev]
  simp only [makeNRTPatch_eq, Prog.run_ask_bind, hcall]
  exact ⟨rfl, rfl⟩

/-- The patch path ends like the get+update path: with a patch of the stored
object, or by way of a resync. -/
theorem run_sendObjectPatch (failure : Option ApiError) (hcached : Party.Cached ⟨te, s⟩)
    (hzones : report.info.zones ≠ none) (hexact : ExactCosts report.info.zones)
    {content : NRTContent} (hcontent : te.publish report (Party.content ⟨te, s⟩) = content) :
    ∃ n, ((te.sendObjectPatch report.nodeGetter report.info).run (servePatchFailing failure)
          s).final = s.write content
      ∧ ((te.sendObjectPatch report.nodeGetter report.info).run (servePatchFailing failure)
          s).result = (te.wrote (s.stamp content) n, .ok (s.stamp content)) := by
  have hserve := fun prev hprev =>
    serve_patch failure hcached hzones hexact hcontent hprev (makeNRTPatch_eq te.lib prev _)
  by_cases hpatched : te.needsResync = false ∧ ∃ prev, te.prevNRT = some prev
      ∧ servePatchFailing failure s (.patch prev.name (te.lib.difference prev
          (te.mutate report.nodeGetter report.info prev)))
        = (.ok (s.stamp content), s.write content)
  · obtain ⟨hneeds, prev, hprev, hcall⟩ := hpatched
    exact ⟨_, run_sendObjectPatch_patched hneeds hprev hcall⟩
  · refine ⟨0, run_sendObjectPatch_resync hcontent fun hneeds prev hprev => ?_⟩
    exact (hserve prev hprev).resolve_right fun hcall => hpatched ⟨hneeds, prev, hprev, hcall⟩

end Report

/-! ### Refinement -/

/-- The party stores what the abstract store holds. -/
structure Refines (te : NRTUpdater) (p : Party) (stored : Option NRTContent) : Prop where
  args : p.updater.args = te.args
  tmConfig : p.updater.tmConfig = te.tmConfig
  content : p.content = stored
  cached : p.Cached

/-- Reports with zones. -/
def StoreStep.HasZones : StoreStep → Prop
  | .deleted => True
  | .update report _ => report.info.zones ≠ none

/-- Reports whose costs are not rounded in a patch. -/
def StoreStep.HasExactCosts : StoreStep → Prop
  | .deleted => True
  | .update report _ => ExactCosts report.info.zones

/-- A report stores what the abstract store does with it. -/
theorem step_update {p : Party} (hpublish : p.updater.args.noPublish = false) (hcached : p.Cached)
    {report : Report} (hzones : report.info.zones ≠ none)
    (hexact : p.updater.args.patchMode = true → ExactCosts report.info.zones)
    (failure : Option ApiError) {content : NRTContent}
    (hcontent : p.updater.publish report p.content = content) :
    (p.step (.update report failure)).server = p.server.write content
      ∧ ((p.step (.update report failure)).updater = p.updater ∧ p.updater.args.patchMode = false
        ∨ p.updater.args.patchMode = true ∧ ∃ n, (p.step (.update report failure)).updater
            = p.updater.wrote (p.server.stamp content) n) := by
  have hreport : p.updater.report report
      = p.updater.sendObject report.nodeGetter report.info >>= fun r => pure (r.1, errorOf r.2) :=
    if_neg (by rw [hpublish]; decide)
  simp only [Party.step, hreport, Prog.run_bind, Prog.run_pure, sendObject]
  by_cases hmode : p.updater.args.patchMode = true
  · obtain ⟨n, hfinal, hresult⟩ := run_sendObjectPatch failure hcached hzones (hexact hmode) hcontent
    simp only [if_pos hmode, hresult]
    exact ⟨hfinal, Or.inr ⟨hmode, n, rfl⟩⟩
  · obtain ⟨hfinal, -⟩ := run_sendObjectUpdate p.updater report failure p.server hcontent
    simp only [if_neg hmode, Prog.run_bind, Prog.run_pure]
    exact ⟨hfinal, Or.inl ⟨trivial, Bool.eq_false_of_not_eq_true hmode⟩⟩

theorem name_publish (p : Party) (report : Report) :
    (p.updater.publish report p.content).name = p.updater.args.hostname := by
  refine (published_mutate p.updater report.nodeGetter report.info _).name.trans ?_
  rcases hstored : p.server.objects.lookup p.updater.args.hostname with - | nrt
  · rw [Party.content, hstored]
    rfl
  · rw [Party.content, hstored]
    exact p.server.named _ nrt hstored

/-- **One step refines the abstract step.** -/
theorem refines_step {te : NRTUpdater} {p : Party} {stored : Option NRTContent} {a : StoreStep}
    (hpublish : te.args.noPublish = false) (h : Refines te p stored) (ha : a.HasZones)
    (hexact : te.args.patchMode = true → a.HasExactCosts) :
    Refines te (p.step a) (abstractStep te stored a) := by
  have hname : te.args.hostname = p.updater.args.hostname := by rw [h.args]
  cases a with
  | deleted =>
      -- the cached object stays, but there is none in the store that it could differ from
      have hlookup : (p.step .deleted).server.objects.lookup p.updater.args.hostname = none :=
        (p.server.lookup_delete _ _).trans (if_pos rfl)
      refine ⟨h.args, h.tmConfig, ?_, h.cached.unused, h.cached.named, fun prev hprev cur hcur => ?_,
        h.cached.exact⟩
      · exact congrArg (Option.map NodeResourceTopology.toNRTContent) hlookup
      · have hnone : none = some cur := hlookup.symm.trans hcur
        cases hnone
  | update report failure =>
      have hcontent : p.updater.publish report p.content = te.publish report stored := by
        rw [h.content]
        exact publish_congr hname.symm h.tmConfig report stored
      have hcontentName := (congrArg NRTContent.name hcontent).symm.trans (name_publish p report)
      obtain ⟨hserver, hupdater⟩ :=
        step_update (h.args ▸ hpublish) h.cached ha (h.args ▸ hexact) failure hcontent
      have hlookup : (p.step (.update report failure)).server.objects.lookup p.updater.args.hostname
          = some (p.server.stamp (te.publish report stored)) := by
        rw [hserver, p.server.lookup_write, if_pos hcontentName.symm]
      rcases hupdater with ⟨hsame, hmode⟩ | ⟨hmode, n, hwrote⟩
      · -- without patch mode nothing is cached
        have hprev := h.cached.unused hmode
        refine ⟨hsame ▸ h.args, hsame ▸ h.tmConfig, ?_, fun _ => hsame ▸ hprev, ?_, ?_, ?_⟩
        · rw [Party.content, hsame, hlookup]
          rfl
        all_goals
          rw [hsame, hprev]
          rintro prev ⟨⟩
      · refine ⟨hwrote ▸ h.args, hwrote ▸ h.tmConfig, ?_, fun hoff => ?_, ?_, ?_, ?_⟩
        · rw [Party.content, hwrote]
          exact congrArg (Option.map NodeResourceTopology.toNRTContent) hlookup
        · rw [hwrote] at hoff
          exact absurd (hmode.symm.trans hoff) (by decide)
        · rw [hwrote]
          rintro prev ⟨⟩
          exact hcontentName
        · rw [hwrote]
          rintro prev ⟨⟩ cur hcur
          exact (Option.some.inj (hlookup.symm.trans hcur)).symm
        · have hzones : (te.publish report stored).zones = report.info.zones :=
            (published_mutate te report.nodeGetter report.info _).zones
          rw [hwrote]
          rintro prev ⟨⟩
          exact hzones ▸ hexact (h.args ▸ hmode)

/-- **Every run refines the abstract run.** -/
theorem refines_run {te : NRTUpdater} {p : Party} {stored : Option NRTContent}
    (hpublish : te.args.noPublish = false) (h : Refines te p stored) {steps : List StoreStep}
    (hsteps : ∀ a ∈ steps, a.HasZones)
    (hexact : te.args.patchMode = true → ∀ a ∈ steps, a.HasExactCosts) :
    Refines te (steps.foldl Party.step p) (steps.foldl (abstractStep te) stored) := by
  induction steps generalizing p stored with
  | nil => exact h
  | cons a steps ih =>
      have hstep : Refines te (p.step a) (abstractStep te stored a) :=
        refines_step hpublish h (hsteps a List.mem_cons_self) fun hmode =>
          hexact hmode a List.mem_cons_self
      exact ih hstep (fun a' ha' => hsteps a' (List.mem_cons_of_mem a ha')) fun hmode a' ha' =>
        hexact hmode a' (List.mem_cons_of_mem a ha')

/-- A new updater refines from whatever its server stores. -/
theorem refines_new (lib : PatchLibrary) (args : NRTUpdaterArgs) (tmconf : TMConfig) (s : Server) :
    Refines (newNRTUpdater lib args tmconf) ⟨newNRTUpdater lib args tmconf, s⟩
      (Party.content ⟨newNRTUpdater lib args tmconf, s⟩) :=
  ⟨rfl, rfl, rfl, fun _ => rfl, fun prev hprev => (Option.not_mem_none prev hprev).elim,
    fun prev hprev => (Option.not_mem_none prev hprev).elim,
    fun prev hprev => (Option.not_mem_none prev hprev).elim⟩

/-- The run of a new updater against a server. -/
def runParty (lib : PatchLibrary) (args : NRTUpdaterArgs) (tmconf : TMConfig) (s : Server)
    (steps : List StoreStep) : Party :=
  steps.foldl Party.step ⟨newNRTUpdater lib args tmconf, s⟩

/-- The abstract store does not depend on the mode. -/
theorem abstractStep_congr {te te' : NRTUpdater} (hname : te.args.hostname = te'.args.hostname)
    (hconfig : te.tmConfig = te'.tmConfig) : abstractStep te = abstractStep te' := by
  funext stored a
  cases a with
  | deleted => rfl
  | update report failure => exact congrArg some (publish_congr hname hconfig report stored)

/-- What is stored after some steps, by the abstract store of any updater of the
same name and configuration. -/
theorem content_runParty (args : NRTUpdaterArgs) (te : NRTUpdater)
    (hpublish : args.noPublish = false) (hname : args.hostname = te.args.hostname) (s : Server)
    {steps : List StoreStep} (hsteps : ∀ a ∈ steps, a.HasZones)
    (hexact : args.patchMode = true → ∀ a ∈ steps, a.HasExactCosts) :
    ((runParty te.lib args te.tmConfig s steps).server.objects.lookup args.hostname).map
        NodeResourceTopology.toNRTContent
      = steps.foldl (abstractStep te)
        ((s.objects.lookup args.hostname).map NodeResourceTopology.toNRTContent) := by
  have hrefines := refines_run hpublish (refines_new te.lib args te.tmConfig s) hsteps hexact
  have hstep : abstractStep (newNRTUpdater te.lib args te.tmConfig) = abstractStep te :=
    abstractStep_congr hname rfl
  have hcontent := hrefines.content
  rw [Party.content, hrefines.args, hstep] at hcontent
  exact hcontent

/-- **Patch mode refines get+update mode.**  Two updaters that differ in the mode
only, each with a server of its own that starts with the same content, are given
the same reports; now and then the object is deleted, and patches fail.  As long as
no cost exceeds `2 ^ 53`, both servers store the same content after every report:
that from before, or a fresh one, with the report worked in. -/
theorem patch_refines_update (lib : PatchLibrary) (args : NRTUpdaterArgs) (tmconf : TMConfig)
    (hpublish : args.noPublish = false) (sU sP : Server)
    (hstart : (sU.objects.lookup args.hostname).map NodeResourceTopology.toNRTContent
      = (sP.objects.lookup args.hostname).map NodeResourceTopology.toNRTContent)
    (steps : List StoreStep) (hsteps : ∀ a ∈ steps, a.HasZones)
    (hcosts : ∀ a ∈ steps, a.HasExactCosts) (report : Report)
    (hzones : report.info.zones ≠ none) (hexact : ExactCosts report.info.zones)
    (failure : Option ApiError) :
    ∃ nrtU nrtP,
      (runParty lib { args with patchMode := false } tmconf sU
          (steps ++ [.update report failure])).server.objects.lookup args.hostname = some nrtU
      ∧ (runParty lib { args with patchMode := true } tmconf sP
          (steps ++ [.update report failure])).server.objects.lookup args.hostname = some nrtP
      ∧ nrtP.toNRTContent = nrtU.toNRTContent
      ∧ Published (newNRTUpdater lib args tmconf) report.info
          ((((runParty lib { args with patchMode := false } tmconf sU steps).server.objects.lookup
              args.hostname).map NodeResourceTopology.toNRTContent).getD
            (newNRTUpdater lib args tmconf).freshNRT.toNRTContent)
          nrtU.toNRTContent := by
  let te := newNRTUpdater lib args tmconf
  have hall : ∀ a ∈ steps ++ [.update report failure], a.HasZones :=
    List.forall_mem_append.mpr ⟨hsteps, List.forall_mem_singleton.mpr hzones⟩
  have hallExact : ∀ a ∈ steps ++ [.update report failure], a.HasExactCosts :=
    List.forall_mem_append.mpr ⟨hcosts, List.forall_mem_singleton.mpr hexact⟩
  -- both servers hold what the abstract store holds
  have hU := content_runParty { args with patchMode := false } te hpublish rfl sU hall
    fun _ => hallExact
  have hP := content_runParty { args with patchMode := true } te hpublish rfl sP hall
    fun _ => hallExact
  have hbefore := content_runParty { args with patchMode := false } te hpublish rfl sU hsteps
    fun _ => hcosts
  rw [List.foldl_append, ← hbefore] at hU
  rw [← hstart, List.foldl_append, ← hbefore] at hP
  obtain ⟨nrtU, hlookupU, hcontentU⟩ := Option.map_eq_some_iff.mp hU
  obtain ⟨nrtP, hlookupP, hcontentP⟩ := Option.map_eq_some_iff.mp hP
  refine ⟨nrtU, nrtP, hlookupU, hlookupP, hcontentP.trans hcontentU.symm, ?_⟩
  rw [hcontentU]
  exact published_mutate te report.nodeGetter report.info ⟨_, default⟩

theorem patch_refines_update_deleted_object :
    ∃ nrtU nrtP,
      (runParty threeWayLibrary { resyncArgs with patchMode := false } podScope Server.empty
          [.update (zoneReport []) none, .update (zoneReport []) (some .conflict), .deleted,
            .update (zoneReport [⟨"node-0", "Node", [], []⟩]) none]).server.objects.lookup "node-0"
        = some nrtU
      ∧ (runParty threeWayLibrary { resyncArgs with patchMode := true } podScope Server.empty
          [.update (zoneReport []) none, .update (zoneReport []) (some .conflict), .deleted,
            .update (zoneReport [⟨"node-0", "Node", [], []⟩]) none]).server.objects.lookup "node-0"
        = some nrtP
      ∧ nrtP.toNRTContent = nrtU.toNRTContent
      ∧ nrtU.zones = some [⟨"node-0", "Node", [], []⟩] := by
  have hsteps : ∀ a ∈ [StoreStep.update (zoneReport []) none,
      .update (zoneReport []) (some .conflict), .deleted], a.HasZones ∧ a.HasExactCosts := by
    simp [StoreStep.HasZones, StoreStep.HasExactCosts, zoneReport, ExactCosts]
  obtain ⟨nrtU, nrtP, hU, hP, hcontent, hpublished⟩ := patch_refines_update threeWayLibrary resyncArgs
    podScope rfl Server.empty Server.empty rfl _ (fun a ha => (hsteps a ha).1)
    (fun a ha => (hsteps a ha).2) (zoneReport [⟨"node-0", "Node", [], []⟩]) (by simp [zoneReport])
    (by decide) none
  exact ⟨nrtU, nrtP, hU, hP, hcontent, hpublished.zones⟩

/-- A report with the distance of two nodes. -/
def farReport (distance : Int) : Report :=
  zoneReport [⟨"node-0", "Node", [⟨"node-1", distance⟩], []⟩]

/-- The zones that are stored after some reports to an empty server. -/
def zonesStored (patchMode : Bool) (reports : List Report) : Option (List Zone) :=
  ((runParty threeWayLibrary { resyncArgs with patchMode := patchMode } podScope Server.empty
    (reports.map fun report => .update report none)).server.objects.lookup "node-0").bind
      fun nrt => nrt.zones

/-- A distance goes from `2 ^ 53` to the next integer.  As a `float64` it is the same, so that
the patch has no zones, and in patch mode the object keeps the old distance. -/
theorem large_cost_not_patched :
    zonesStored false [farReport (2 ^ 53), farReport (2 ^ 53 + 1)]
        = (farReport (2 ^ 53 + 1)).info.zones
      ∧ zonesStored true [farReport (2 ^ 53), farReport (2 ^ 53 + 1)]
        = (farReport (2 ^ 53)).info.zones
      ∧ (farReport (2 ^ 53)).info.zones ≠ (farReport (2 ^ 53 + 1)).info.zones := by
  decide +kernel

end TopologyExporter
