/-
TopologyExporter/OwnerReferences.lean

The owner references of the stored object.

`updateOwnerReferences` is there to leave one reference of kind `Node`, the one to the
node of the object.  It does so by replacing the list, so references of other kinds are
lost (`owner_references_kept_iff`).  They survive where the list is not written: with a
node getter that fails, when nothing is published, and in patch mode when the cached
list is the new one already, because then the patch does not mention it.

The patch is a difference to the cached object but is applied to the stored one, which
another client may have edited.  `run_report` follows it there.
-/
import TopologyExporter.PatchRefinement

namespace TopologyExporter

open Interaction GoMap MergePatch NRTUpdater

/-! ### References -/

/-- One reference of kind `Node`, with this name and UID. -/
def SingleNodeReference (name uid : String) (references : List OwnerReference) : Prop :=
  ∃ ref, references.filter (fun ref => ref.kind = "Node") = [ref] ∧ ref.name = name ∧ ref.uid = uid

/-- What `updateOwnerReferences` is meant to do to the references of an object. -/
def ReferencesKept (nodeGetter : NodeGetter) (name : String) (before after : List OwnerReference) :
    Prop :=
  match nodeGetter name with
  | .error _ => after = before
  | .ok node => SingleNodeReference name node.uid after
      ∧ ∀ ref ∈ before, ref.kind ≠ "Node" → ref ∈ after

/-- The reference to a node. -/
def nodeReference (node : Node) : OwnerReference :=
  { apiVersion := "v1", kind := "Node", name := node.name, uid := node.uid }

/-- The references `updateOwnerReferences` leaves. -/
def referencesFor (nodeGetter : NodeGetter) (name : String) (before : List OwnerReference) :
    List OwnerReference :=
  match nodeGetter name with
  | .error _ => before
  | .ok node => [nodeReference node]

theorem ownerReferences_mutate (te : NRTUpdater) (nodeGetter : NodeGetter) (info : MonitorInfo)
    (nrt : NodeResourceTopology) :
    (te.mutate nodeGetter info nrt).ownerReferences
      = referencesFor nodeGetter nrt.name nrt.ownerReferences := by
  show (updateOwnerReferences nodeGetter (te.updateNRTInfo nrt info)).ownerReferences = _
  have hname : (te.updateNRTInfo nrt info).name = nrt.name := rfl
  rw [updateOwnerReferences, referencesFor, hname]
  rcases nodeGetter nrt.name with (- | e) | node <;> rfl

theorem singleNodeReference_nodeReference (node : Node) :
    SingleNodeReference node.name node.uid [nodeReference node] :=
  ⟨nodeReference node, rfl, rfl, rfl⟩

/-! ### One report -/

/-- The cached object, if a report sends a patch and the server takes it. -/
def NRTUpdater.patchedNRT (te : NRTUpdater) (failure : Option ApiError) :
    Option NodeResourceTopology :=
  if te.args.patchMode = true ∧ te.needsResync = false ∧ failure = none then te.prevNRT else none

/-- A report that does not write the references. -/
def LeavesReferences (te : NRTUpdater) (failure : Option ApiError)
    (references : List OwnerReference) : Prop :=
  te.args.noPublish = true ∨ ∃ prev ∈ te.patchedNRT failure, prev.ownerReferences = references

/-- The references after a report: those of the stored object, or the new ones. -/
structure ReferencesAfter (te : NRTUpdater) (report : Report) (failure : Option ApiError)
    (before after : List OwnerReference) : Prop where
  left : ∀ node, report.nodeGetter te.args.hostname = .ok node →
    LeavesReferences te failure [nodeReference node] → after = before
  written : ∀ node, report.nodeGetter te.args.hostname = .ok node →
    ¬ LeavesReferences te failure [nodeReference node] → after = [nodeReference node]
  failed : ∀ e, report.nodeGetter te.args.hostname = .error e → after = before

section Report

variable {te : NRTUpdater} {report : Report} {failure : Option ApiError} {s : Server}
variable {stored : NodeResourceTopology}

/-- A write of the object of the updater. -/
theorem lookup_write_of_name {content : NRTContent} (hname : content.name = te.args.hostname) :
    (s.write content).objects.lookup te.args.hostname = some (s.stamp content) := by
  rw [Server.lookup_write, if_pos hname.symm]

/-- Where the object is read before it is written, the references are replaced. -/
theorem referencesAfter_publish (hstored : s.objects.lookup te.args.hostname = some stored)
    (hpublish : te.args.noPublish = false) (hpatched : te.patchedNRT failure = none) :
    ReferencesAfter te report failure stored.ownerReferences
      (te.publish report (Party.content ⟨te, s⟩)).ownerReferences := by
  have hreferences : (te.publish report (Party.content ⟨te, s⟩)).ownerReferences
      = referencesFor report.nodeGetter te.args.hostname stored.ownerReferences := by
    rw [Party.content, ← publish_mutate, hstored, Option.getD_some, ownerReferences_mutate,
      s.named _ stored hstored]
  have hwrites : ∀ references, ¬ LeavesReferences te failure references := by
    rintro references (hno | ⟨prev, hprev, -⟩)
    · rw [hpublish] at hno
      cases hno
    · rw [hpatched] at hprev
      cases hprev
  rw [hreferences, referencesFor]
  refine ⟨fun node hnode hleaves => ?_, fun node hnode _ => ?_, fun e he => ?_⟩
  · exact absurd hleaves (hwrites _)
  · rw [hnode]
  · rw [he]

/-- **The patch of a report on the stored object**: the server takes it, and the references
change if they differ from the cached ones. -/
theorem serve_report_patch (report : Report) {prev : NodeResourceTopology}
    (hname : prev.name = te.args.hostname)
    (hstored : s.objects.lookup te.args.hostname = some stored) :
    ∃ content : NRTContent, content.name = te.args.hostname
      ∧ servePatchFailing none s (.patch prev.name (te.lib.difference prev
          (te.mutate report.nodeGetter report.info prev)))
        = (.ok (s.stamp content), s.write content)
      ∧ content.ownerReferences
        = if referencesFor report.nodeGetter te.args.hostname prev.ownerReferences
              = prev.ownerReferences
          then stored.ownerReferences
          else referencesFor report.nodeGetter te.args.hostname prev.ownerReferences := by
  have hpublished := published_mutate te report.nodeGetter report.info prev
  -- the reason of the update is always among the annotations, so the patch never
  -- removes the whole map
  have hannotations : (te.mutate report.nodeGetter report.info prev).annotations ≠ ∅ := by
    intro hempty
    have hreason := hpublished.annotations rteUpdate
    rw [hempty, if_pos rfl] at hreason
    cases hreason
  obtain ⟨nrt, happly, hnrt, hmeta, hreferences⟩ := applyPatch_difference te.lib stored
    hpublished.name (serverMeta_mutate te report.nodeGetter report.info prev) hpublished.labels
    hannotations
  have hnamed : nrt.name = te.args.hostname := hnrt.trans (s.named _ stored hstored)
  refine ⟨nrt.toNRTContent, hnamed, ?_, ?_⟩
  · rw [hname]
    exact Server.exec_patch hnamed hstored happly hmeta
  · rw [hreferences, ownerReferences_mutate, hname]

/-- After the patch the references are the stored ones where the cached ones are the new
ones. -/
theorem referencesAfter_patch {prev : NodeResourceTopology} {after : List OwnerReference}
    (hpublish : te.args.noPublish = false) (hpatched : te.patchedNRT failure = some prev)
    (hafter : after = if referencesFor report.nodeGetter te.args.hostname prev.ownerReferences
          = prev.ownerReferences
        then stored.ownerReferences
        else referencesFor report.nodeGetter te.args.hostname prev.ownerReferences) :
    ReferencesAfter te report failure stored.ownerReferences after := by
  have hleaves : ∀ references, LeavesReferences te failure references
      ↔ references = prev.ownerReferences := by
    intro references
    constructor
    · rintro (hno | ⟨prev', hprev', rfl⟩)
      · rw [hpublish] at hno
        cases hno
      · rw [Option.some.inj (hpatched.symm.trans hprev')]
    · rintro rfl
      exact Or.inr ⟨prev, hpatched, rfl⟩
  rw [referencesFor] at hafter
  refine ⟨fun node hnode h => ?_, fun node hnode h => ?_, fun e he => ?_⟩
  · rw [hafter, hnode]
    exact if_pos ((hleaves _).mp h)
  · rw [hafter, hnode]
    exact if_neg (mt (hleaves _).mpr h)
  · rw [hafter, he]
    exact if_pos rfl

/-- Without an object to patch there is none cached, or the server refuses the patch. -/
theorem refused_of_patchedNRT_eq_none (report : Report) (s : Server)
    (hmode : te.args.patchMode = true) (hpatched : te.patchedNRT failure = none) :
    te.needsResync = false → ∀ prev ∈ te.prevNRT, ∃ e,
      servePatchFailing failure s (.patch prev.name (te.lib.difference prev
        (te.mutate report.nodeGetter report.info prev))) = (.error e, s) := by
  intro hneeds prev hprev
  rcases failure with - | e
  · rw [patchedNRT, if_pos ⟨hmode, hneeds, rfl⟩, hprev] at hpatched
    cases hpatched
  · exact ⟨e, rfl⟩

/-- **A report on a server that holds the object succeeds**; what becomes of the
references. -/
theorem run_report (te : NRTUpdater) (report : Report) (failure : Option ApiError)
    (hstored : s.objects.lookup te.args.hostname = some stored)
    (hnamed : ∀ prev ∈ te.prevNRT, prev.name = te.args.hostname) :
    ((te.report report).run (servePatchFailing failure) s).result.2 = none
      ∧ ∃ after, ((te.report report).run (servePatchFailing failure) s).final.objects.lookup
            te.args.hostname = some after
        ∧ ReferencesAfter te report failure stored.ownerReferences after.ownerReferences := by
  rw [NRTUpdater.report, update]
  rcases hpublish : te.args.noPublish
  · rw [if_neg Bool.false_ne_true, Prog.run_bind, sendObject]
    have hname := name_publish ⟨te, s⟩ report
    rcases hmode : te.args.patchMode
    · -- get and update
      have hpatched : te.patchedNRT failure = none := if_neg fun h => by
        rw [hmode] at h
        cases h.1
      obtain ⟨hfinal, hresult⟩ := run_sendObjectUpdate te report failure s rfl
      simp only [Bool.false_eq_true, if_false, Prog.run_bind, Prog.run_pure, hfinal, hresult]
      exact ⟨rfl, _, lookup_write_of_name hname,
        referencesAfter_publish hstored hpublish hpatched⟩
    · rw [if_pos rfl]
      rcases hpatched : te.patchedNRT failure with - | prev
      · -- no patch is sent, or it is refused, and the resync gets and updates
        obtain ⟨hfinal, hresult⟩ := run_sendObjectPatch_resync rfl
          (refused_of_patchedNRT_eq_none report s hmode hpatched)
        simp only [Prog.run_pure, hfinal, hresult]
        exact ⟨rfl, _, lookup_write_of_name hname,
          referencesAfter_publish hstored hpublish hpatched⟩
      · -- the patch is made against the cached object and applied to the stored one
        obtain ⟨⟨-, hneeds, rfl⟩, hprev⟩ := Option.ite_none_right_eq_some.mp hpatched
        obtain ⟨content, hcontent, hpatch, hreferences⟩ :=
          serve_report_patch report (hnamed prev hprev) hstored
        obtain ⟨hfinal, hresult⟩ := run_sendObjectPatch_patched hneeds hprev hpatch
        simp only [Prog.run_pure, hfinal, hresult]
        exact ⟨rfl, _, lookup_write_of_name hcontent,
          referencesAfter_patch hpublish hpatched hreferences⟩
  · -- nothing is sent
    refine ⟨rfl, stored, hstored, fun _ _ _ => rfl, fun node _ h => ?_, fun _ _ => rfl⟩
    exact absurd (Or.inl hpublish) h

end Report

/-! ### When the references are kept -/

/-- **When a report keeps the owner references.**  With a node getter that knows the node, a
report that writes the references loses all that are not of kind `Node`; one that does
not leaves them as they are, which is right if they are right already. -/
theorem owner_references_kept_iff (te : NRTUpdater) (report : Report) (failure : Option ApiError)
    {s : Server} {stored : NodeResourceTopology}
    (hstored : s.objects.lookup te.args.hostname = some stored)
    (hnamed : ∀ prev ∈ te.prevNRT, prev.name = te.args.hostname)
    (hknown : ∀ node, report.nodeGetter te.args.hostname = .ok node → node.name = te.args.hostname) :
    (((te.report report).run (servePatchFailing failure) s).result.2 = none
        ∧ ∃ after, ((te.report report).run (servePatchFailing failure) s).final.objects.lookup
              te.args.hostname = some after
          ∧ ReferencesKept report.nodeGetter te.args.hostname stored.ownerReferences
              after.ownerReferences)
      ↔ ∀ node, report.nodeGetter te.args.hostname = .ok node →
          (LeavesReferences te failure [nodeReference node] →
            SingleNodeReference te.args.hostname node.uid stored.ownerReferences)
          ∧ (¬ LeavesReferences te failure [nodeReference node] →
            ∀ ref ∈ stored.ownerReferences, ref.kind = "Node") := by
  obtain ⟨hok, after, hafter, hleft, hwritten, hfailed⟩ :=
    run_report te report failure hstored hnamed
  constructor
  · rintro ⟨-, after', hafter', hkept⟩ node hnode
    obtain rfl : after = after' := Option.some.inj (hafter.symm.trans hafter')
    rw [ReferencesKept, hnode] at hkept
    refine ⟨fun hleaves => ?_, fun hwrites ref href => ?_⟩
    · rw [← hleft node hnode hleaves]
      exact hkept.1
    · -- the only reference left is of kind `Node`
      by_contra hkind
      have hmem := hkept.2 ref href hkind
      rw [hwritten node hnode hwrites, List.mem_singleton] at hmem
      exact hkind (congrArg OwnerReference.kind hmem)
  · intro h
    refine ⟨hok, after, hafter, ?_⟩
    rw [ReferencesKept]
    rcases hgetter : report.nodeGetter te.args.hostname with e | node
    · exact hfailed e hgetter
    · by_cases hleaves : LeavesReferences te failure [nodeReference node]
      · rw [hleft node hgetter hleaves]
        exact ⟨(h node hgetter).1 hleaves, fun ref href _ => href⟩
      · rw [hwritten node hgetter hleaves, ← hknown node hgetter]
        exact ⟨singleNodeReference_nodeReference node, fun ref href hkind =>
          absurd ((h node hgetter).2 hleaves ref href) hkind⟩

/-- A report with a node getter that knows one node. -/
def ownedReport : Report where
  info := { timer := true, zones := some [], attributes := [], annotations := none }
  nodeGetter := fun _ => .ok ⟨"node-0", "1234"⟩

/-- A server that holds an object with these references. -/
def ownedServer (references : List OwnerReference) : Server :=
  Server.empty.write { editedContent with ownerReferences := references }

theorem lookup_ownedServer (references : List OwnerReference) :
    (ownedServer references).objects.lookup "node-0"
      = some (Server.empty.stamp { editedContent with ownerReferences := references }) :=
  (Server.lookup_write ..).trans (if_pos rfl)

/-- The first report of an updater writes the references. -/
theorem not_leavesReferences_new (failure : Option ApiError) (references : List OwnerReference) :
    ¬ LeavesReferences (newNRTUpdater threeWayLibrary resyncArgs podScope) failure references := by
  rintro (hno | ⟨prev, hprev, -⟩)
  · cases hno
  · cases (Option.ite_none_right_eq_some.mp hprev).2

/-- An outdated reference to the node is replaced. -/
theorem owner_references_kept_outdated :
    ∃ after, (((newNRTUpdater threeWayLibrary resyncArgs podScope).report ownedReport).run
          (servePatchFailing none) (ownedServer [⟨"v1", "Node", "node-0", "0000", none, none⟩])).final.objects.lookup "node-0"
        = some after
      ∧ SingleNodeReference "node-0" "1234" after.ownerReferences := by
  have hkept := (owner_references_kept_iff (newNRTUpdater threeWayLibrary resyncArgs podScope)
    ownedReport none (lookup_ownedServer [⟨"v1", "Node", "node-0", "0000", none, none⟩]) (fun _ h => by cases h)
    (fun _ h => by cases h; rfl)).mpr fun node _ =>
      ⟨fun hleaves => absurd hleaves (not_leavesReferences_new _ _),
        fun _ => List.forall_mem_singleton.mpr rfl⟩
  obtain ⟨-, after, hafter, hsingle, -⟩ := hkept
  exact ⟨after, hafter, hsingle⟩

/-- An object that belongs to a DaemonSet loses that owner. -/
theorem daemonSet_reference_lost :
    ¬ ∃ after, (((newNRTUpdater threeWayLibrary resyncArgs podScope).report ownedReport).run
          (servePatchFailing none) (ownedServer [⟨"apps/v1", "DaemonSet", "rte", "0000", none, none⟩])).final.objects.lookup
            "node-0" = some after
      ∧ ReferencesKept ownedReport.nodeGetter "node-0"
          [⟨"apps/v1", "DaemonSet", "rte", "0000", none, none⟩] after.ownerReferences := by
  rintro ⟨after, hafter, -, hkept⟩
  obtain ⟨-, after', hafter', -, hwritten, -⟩ := run_report
    (newNRTUpdater threeWayLibrary resyncArgs podScope) ownedReport none
    (lookup_ownedServer [⟨"apps/v1", "DaemonSet", "rte", "0000", none, none⟩])
    (fun _ h => by cases h)
  obtain rfl : after' = after := Option.some.inj (hafter'.symm.trans hafter)
  have hmem := hkept _ List.mem_cons_self (by decide)
  rw [hwritten _ rfl (not_leavesReferences_new _ _)] at hmem
  exact absurd hmem (by decide)

end TopologyExporter
