/-
TopologyExporter/Updater.lean

The updater of `nrtupdater.go`: it publishes what the observer reports as the
`NodeResourceTopology` object of the node.

In get+update mode every report reads the stored object, changes it and writes it
back.  In patch mode the updater keeps the object its last write returned, sends
the difference to it as a merge patch, and goes through get+update when it has
no such object, when the patch fails, and after `patchResync` patches in a row.

The updater is a program in the sense of `Interaction`: its requests go to
whatever service runs it.  `sendObjectUpdate_eq` says what the get+update path asks
for; `Outcome` lists the three ways a report can end in patch mode, and
`update_outcome` says that there are no others.
-/
import TopologyExporter.ApiServer
import TopologyExporter.Interaction
import TopologyExporter.Observer

namespace TopologyExporter

open Interaction GoMap MergePatch

/-! ### Configuration -/

/-- `nrtupdater.Args`, without the path of the kubeconfig file. -/
structure NRTUpdaterArgs where
  noPublish : Bool
  oneshot : Bool
  hostname : String
  patchMode : Bool
  patchResync : Int
  deriving DecidableEq, Repr

/-- `TMConfig`. -/
structure TMConfig where
  policy : String
  scope : String
  deriving DecidableEq, Repr

/-- `corev1.Node`, as far as it is read. -/
structure Node where
  name : String
  uid : String
  deriving DecidableEq, Repr

/-- Why a `NodeGetter` has no node. -/
inductive NodeError
  | notConfigured
  | other (message : String)
  deriving DecidableEq, Repr

/-- `NodeGetter`. -/
abbrev NodeGetter := String → Except NodeError Node

/-- `NRTUpdater`.  The client and the stop channel are not part of its state; the
node getter is an argument of each report.  `lib` is the library that makes its patches. -/
structure NRTUpdater where
  lib : PatchLibrary
  args : NRTUpdaterArgs
  tmConfig : TMConfig
  prevNRT : Option NodeResourceTopology
  patchCount : Nat

/-- `NewNRTUpdater`. -/
def newNRTUpdater (lib : PatchLibrary) (args : NRTUpdaterArgs) (tmconf : TMConfig) : NRTUpdater :=
  { lib := lib, args := args, tmConfig := tmconf, prevNRT := none, patchCount := 0 }

/-! ### The object to publish -/

/-- `k8sannotations.RTEUpdate`. -/
def rteUpdate : String := "k8stopoawareschedwg/rte-update"

/-- `k8sannotations.Merge`: later maps win. -/
def K8sAnnotations.merge (kvs : List (GoMap String String)) : GoMap String String :=
  kvs.foldl (fun ret kv => kv ∪ ret) ∅

/-- `UpdateReason`. -/
def MonitorInfo.updateReason (mi : MonitorInfo) : String :=
  if mi.timer then "periodic" else "reactive"

namespace NRTUpdater

/-- `makeAttributes`. -/
def makeAttributes (te : NRTUpdater) : List AttributeInfo :=
  [⟨"topologyManagerScope", te.tmConfig.scope⟩, ⟨"topologyManagerPolicy", te.tmConfig.policy⟩]

/-- `updateNRTInfo`. -/
def updateNRTInfo (te : NRTUpdater) (nrt : NodeResourceTopology) (info : MonitorInfo) :
    NodeResourceTopology :=
  { nrt with
    annotations :=
      (K8sAnnotations.merge [nrt.annotations, info.annotations.getD ∅]).insert rteUpdate
        info.updateReason
    zones := info.zones
    attributes := info.attributes ++ te.makeAttributes }

/-- `updateOwnerReferences`. -/
def updateOwnerReferences (nodeGetter : NodeGetter) (nrt : NodeResourceTopology) :
    NodeResourceTopology :=
  match nodeGetter nrt.name with
  | .error .notConfigured => nrt
  | .error (.other _) => nrt
  | .ok node =>
      { nrt with
        ownerReferences :=
          [{ apiVersion := "v1", kind := "Node", name := node.name, uid := node.uid }] }

/-- What both write paths do to the object they start from. -/
def mutate (te : NRTUpdater) (nodeGetter : NodeGetter) (info : MonitorInfo)
    (nrt : NodeResourceTopology) : NodeResourceTopology :=
  updateOwnerReferences nodeGetter (te.updateNRTInfo nrt info)

/-- The object to start from if there is none. -/
def freshNRT (te : NRTUpdater) : NodeResourceTopology where
  name := te.args.hostname
  labels := ∅
  annotations := ∅
  ownerReferences := []
  finalizers := []
  topologyPolicies := []
  zones := none
  attributes := []
  serverMeta := default

/-! ### Sending it -/

/-- Errors of the updater: `ErrMissingPreviousNRT`, a failure to make the patch,
an error of the API server as it is, and one wrapped by a failed write. -/
inductive UpdateError
  | missingPreviousNRT
  | makePatch
  | api (e : ApiError)
  | updateFailed (e : ApiError)
  deriving DecidableEq, Repr

/-- The text of an error, given those of the API server and of the patch library. -/
def UpdateError.text (apiText : ApiError → String) (conflictText : String) : UpdateError → String
  | missingPreviousNRT => "missing previous NRT data"
  | makePatch => conflictText
  | api e => apiText e
  | updateFailed e => "update failed for NRT instance: " ++ apiText e

/-- Programs that talk to the API server. -/
abbrev Api := Prog Request Answer

/-- `patchNRT`. -/
def patchNRT (te : NRTUpdater) (nodeGetter : NodeGetter) (info : MonitorInfo) :
    Api (NRTUpdater × Except UpdateError NodeResourceTopology) :=
  match te.prevNRT with
  | none => pure (te, .error .missingPreviousNRT)
  | some prevNRT =>
      match makeNRTPatch te.lib prevNRT (te.mutate nodeGetter info prevNRT) with
      | none => pure (te, .error .makePatch)
      | some patch => do
          match ← Prog.ask (.patch prevNRT.name patch) with
          | .error e => pure (te, .error (.api e))
          | .ok nrtUpdated => pure ({ te with prevNRT := some nrtUpdated }, .ok nrtUpdated)

/-- `needsResync`. -/
def needsResync (te : NRTUpdater) : Bool :=
  if te.args.patchResync ≤ 0 then false else te.args.patchResync ≤ te.patchCount

/-- `sendObjectUpdate`. -/
def sendObjectUpdate (te : NRTUpdater) (nodeGetter : NodeGetter) (info : MonitorInfo) :
    Api (Except UpdateError NodeResourceTopology) := do
  match ← Prog.ask (.get te.args.hostname) with
  | .error .notFound =>
      match ← Prog.ask (.create (te.mutate nodeGetter info te.freshNRT)) with
      | .error e => pure (.error (.updateFailed e))
      | .ok nrtCreated => pure (.ok nrtCreated)
  | .error e => pure (.error (.api e))
  | .ok nrt =>
      match ← Prog.ask (.update (te.mutate nodeGetter info nrt)) with
      | .error e => pure (.error (.updateFailed e))
      | .ok nrtUpdated => pure (.ok nrtUpdated)

/-- The second half of `sendObjectPatch`. -/
def resync (te : NRTUpdater) (nodeGetter : NodeGetter) (info : MonitorInfo) :
    Api (NRTUpdater × Except UpdateError NodeResourceTopology) := do
  match ← te.sendObjectUpdate nodeGetter info with
  | .error e => pure (te, .error e)
  | .ok nrtObj => pure ({ te with prevNRT := some nrtObj, patchCount := 0 }, .ok nrtObj)

/-- `sendObjectPatch`. -/
def sendObjectPatch (te : NRTUpdater) (nodeGetter : NodeGetter) (info : MonitorInfo) :
    Api (NRTUpdater × Except UpdateError NodeResourceTopology) :=
  if te.needsResync then te.resync nodeGetter info
  else do
    match ← te.patchNRT nodeGetter info with
    | (te, .ok nrtObj) => pure ({ te with patchCount := te.patchCount + 1 }, .ok nrtObj)
    | (te, .error _) => te.resync nodeGetter info

/-- `sendObject`, as `NewNRTUpdater` sets it. -/
def sendObject (te : NRTUpdater) (nodeGetter : NodeGetter) (info : MonitorInfo) :
    Api (NRTUpdater × Except UpdateError NodeResourceTopology) :=
  if te.args.patchMode then te.sendObjectPatch nodeGetter info
  else do
    let result ← te.sendObjectUpdate nodeGetter info
    pure (te, result)

/-- What is left of a result when the object is dropped. -/
def errorOf {α : Type} : Except UpdateError α → Option UpdateError
  | .error e => some e
  | .ok _ => none

/-- `Update`, by way of `sendData`: the updater afterwards and the error, if any. -/
def update (te : NRTUpdater) (nodeGetter : NodeGetter) (info : MonitorInfo) :
    Api (NRTUpdater × Option UpdateError) :=
  if te.args.noPublish then pure (te, none)
  else do
    let (te, result) ← te.sendObject nodeGetter info
    pure (te, errorOf result)

/-! ### What is published -/

/-- `after` is `before` with a report worked in.  Nothing is said of the owner
references. -/
structure Published (te : NRTUpdater) (info : MonitorInfo) (before after : NRTContent) : Prop where
  name : after.name = before.name
  labels : after.labels = before.labels
  finalizers : after.finalizers = before.finalizers
  topologyPolicies : after.topologyPolicies = before.topologyPolicies
  annotations : ∀ k, after.annotations.lookup k
    = if k = rteUpdate then some info.updateReason
      else ((info.annotations.getD ∅).lookup k).or (before.annotations.lookup k)
  zones : after.zones = info.zones
  attributes : after.attributes = info.attributes ++ te.makeAttributes

variable {te te' : NRTUpdater} {nodeGetter : NodeGetter} {info : MonitorInfo}
variable {nrt nrt' : NodeResourceTopology}

theorem published_updateNRTInfo (te : NRTUpdater) (info : MonitorInfo) (nrt : NodeResourceTopology) :
    Published te info nrt.toNRTContent (te.updateNRTInfo nrt info).toNRTContent where
  name := rfl
  labels := rfl
  finalizers := rfl
  topologyPolicies := rfl
  annotations k := by
    show (Finmap.insert _ _ _).lookup k = _
    rw [lookup_insert_eq]
    congr 1
    show (info.annotations.getD ∅ ∪ (nrt.annotations ∪ ∅)).lookup k = _
    rw [lookup_union_eq, Finmap.union_empty]
  zones := rfl
  attributes := rfl

/-- The owner references aside, `updateOwnerReferences` changes nothing. -/
theorem updateOwnerReferences_eq (nodeGetter : NodeGetter) (nrt : NodeResourceTopology) :
    ∃ references, updateOwnerReferences nodeGetter nrt
      = { nrt with ownerReferences := references } := by
  unfold updateOwnerReferences
  rcases nodeGetter nrt.name with (- | e) | node
  · exact ⟨nrt.ownerReferences, rfl⟩
  · exact ⟨nrt.ownerReferences, rfl⟩
  · exact ⟨_, rfl⟩

theorem published_mutate (te : NRTUpdater) (nodeGetter : NodeGetter) (info : MonitorInfo)
    (nrt : NodeResourceTopology) :
    Published te info nrt.toNRTContent (te.mutate nodeGetter info nrt).toNRTContent := by
  obtain ⟨references, hreferences⟩ := updateOwnerReferences_eq nodeGetter (te.updateNRTInfo nrt info)
  have hinfo := published_updateNRTInfo te info nrt
  rw [mutate, hreferences]
  exact ⟨hinfo.name, hinfo.labels, hinfo.finalizers, hinfo.topologyPolicies, hinfo.annotations,
    hinfo.zones, hinfo.attributes⟩

theorem serverMeta_mutate (te : NRTUpdater) (nodeGetter : NodeGetter) (info : MonitorInfo)
    (nrt : NodeResourceTopology) :
    (te.mutate nodeGetter info nrt).serverMeta = nrt.serverMeta := by
  obtain ⟨references, hreferences⟩ := updateOwnerReferences_eq nodeGetter (te.updateNRTInfo nrt info)
  rw [mutate, hreferences]
  rfl

/-- The content that is written depends on the content it starts from only. -/
theorem mutate_congr (hconfig : te.tmConfig = te'.tmConfig)
    (hcontent : nrt.toNRTContent = nrt'.toNRTContent) (nodeGetter : NodeGetter) (info : MonitorInfo) :
    (te.mutate nodeGetter info nrt).toNRTContent
      = (te'.mutate nodeGetter info nrt').toNRTContent := by
  obtain ⟨content, serverMeta⟩ := nrt
  obtain ⟨content', serverMeta'⟩ := nrt'
  obtain rfl : content = content' := hcontent
  simp only [mutate, updateOwnerReferences, updateNRTInfo, makeAttributes, hconfig]
  rcases nodeGetter content.name with (- | e) | node <;> rfl

/-! ### Runs of the updater -/

/-- The write that follows the answer to the get. -/
def writeFor (te : NRTUpdater) (nodeGetter : NodeGetter) (info : MonitorInfo) :
    Answer → Except UpdateError Request
  | .ok nrt => .ok (.update (te.mutate nodeGetter info nrt))
  | .error .notFound => .ok (.create (te.mutate nodeGetter info te.freshNRT))
  | .error e => .error (.api e)

theorem sendObjectUpdate_eq (te : NRTUpdater) (nodeGetter : NodeGetter) (info : MonitorInfo) :
    te.sendObjectUpdate nodeGetter info = (do
      let r ← Prog.ask (.get te.args.hostname)
      match te.writeFor nodeGetter info r with
      | .error e => pure (.error e)
      | .ok q => do
          let r' ← Prog.ask q
          pure (r'.mapError .updateFailed)) := by
  refine congrArg (Prog.call _) (funext fun r => ?_)
  rcases r with (- | - | - | - | m) | nrt
  · exact congrArg (Prog.call _) (funext fun r' => by rcases r' with e | nrt <;> rfl)
  · rfl
  · rfl
  · rfl
  · rfl
  · exact congrArg (Prog.call _) (funext fun r' => by rcases r' with e | nrt <;> rfl)

/-- The object a call wrote. -/
def written {σ : Type} (c : Call Request Answer σ) : Option NodeResourceTopology :=
  match c.request, c.answer with
  | .get _, _ => none
  | _, .error _ => none
  | _, .ok nrt => some nrt

theorem written_error {σ : Type} (q : Request) (e : ApiError) (s : σ) :
    written ⟨q, .error e, s⟩ = none := by
  cases q <;> rfl

/-- The ways a report can end in patch mode: a patch; a get and a write, after a
patch that failed or none; or an error, with nothing written. -/
inductive Outcome {σ : Type} (te : NRTUpdater) (nodeGetter : NodeGetter) (info : MonitorInfo) :
    Run Request Answer σ (NRTUpdater × Option UpdateError) → Prop
  | patched {name : String} {patch : Object Leaf 2} {nrt : NodeResourceTopology} {s : σ}
      (hresync : te.needsResync = false) :
      Outcome te nodeGetter info ⟨[⟨.patch name patch, .ok nrt, s⟩], s,
        ({ te with prevNRT := some nrt, patchCount := te.patchCount + 1 }, none)⟩
  | resynced {before : List (Call Request Answer σ)} {r : Answer} {q : Request}
      {nrt : NodeResourceTopology} {s s' : σ} (hbefore : ∀ c ∈ before, written c = none)
      (hq : te.writeFor nodeGetter info r = .ok q) :
      Outcome te nodeGetter info
        ⟨before ++ [⟨.get te.args.hostname, r, s⟩, ⟨q, .ok nrt, s'⟩], s',
          ({ te with prevNRT := some nrt, patchCount := 0 }, none)⟩
  | failed {calls : List (Call Request Answer σ)} {s : σ} {e : UpdateError}
      (hcalls : ∀ c ∈ calls, written c = none) :
      Outcome te nodeGetter info ⟨calls, s, (te, some e)⟩

section Outcome

variable {σ : Type} {service : σ → Request → Answer × σ}

/-- A resync, after calls that wrote nothing. -/
theorem resync_outcome (te : NRTUpdater) (nodeGetter : NodeGetter) (info : MonitorInfo) (s : σ)
    {before : List (Call Request Answer σ)} (hbefore : ∀ c ∈ before, written c = none) :
    Outcome te nodeGetter info
      ⟨before ++ ((te.resync nodeGetter info).run service s).calls,
        ((te.resync nodeGetter info).run service s).final,
        ((te.resync nodeGetter info).run service s).result.1,
        errorOf ((te.resync nodeGetter info).run service s).result.2⟩ := by
  rw [resync, sendObjectUpdate_eq, Prog.run_bind, Prog.run_ask_bind]
  rcases service s (.get te.args.hostname) with ⟨r, s₁⟩
  rcases hq : te.writeFor nodeGetter info r with e | q
  · simp only [Prog.run_pure, Run.cons, List.append_nil, errorOf]
    refine Outcome.failed (List.forall_mem_append.mpr ⟨hbefore, ?_⟩)
    exact List.forall_mem_singleton.mpr rfl
  · simp only [Prog.run_ask_bind, Prog.run_pure, Run.cons]
    rcases service s₁ q with ⟨e | nrt, s₂⟩
    · simp only [Except.mapError, Prog.run_pure, List.append_nil, errorOf]
      refine Outcome.failed (List.forall_mem_append.mpr ⟨hbefore, ?_⟩)
      exact List.forall_mem_cons.mpr ⟨rfl, List.forall_mem_singleton.mpr (written_error q e s₂)⟩
    · simp only [Except.mapError, Prog.run_pure, List.append_nil, errorOf]
      exact Outcome.resynced hbefore hq

/-- **Every report in patch mode ends in one of the three ways.** -/
theorem update_outcome (nodeGetter : NodeGetter) (info : MonitorInfo) (s : σ)
    (hpublish : te.args.noPublish = false) (hpatch : te.args.patchMode = true) :
    Outcome te nodeGetter info ((te.update nodeGetter info).run service s) := by
  simp only [update, hpublish, sendObject, hpatch, Bool.false_eq_true, if_false, if_true]
  rw [Prog.run_bind, sendObjectPatch]
  rcases hresync : te.needsResync
  · -- a patch is tried; what is left of a failed one is at most a call that wrote nothing
    simp only [Bool.false_eq_true, if_false, Prog.run_bind, patchNRT]
    rcases te.prevNRT with - | prevNRT
    · simpa using resync_outcome te nodeGetter info s (List.forall_mem_nil _)
    · simp only [makeNRTPatch_eq, Prog.run_ask_bind]
      rcases service s (.patch prevNRT.name _) with ⟨e | nrt, s₁⟩
      · simp only [Prog.run_pure, Run.cons, List.append_nil]
        refine resync_outcome te nodeGetter info s₁ (List.forall_mem_singleton.mpr ?_)
        exact written_error _ e s₁
      · simp only [Prog.run_pure, Run.cons, List.append_nil, errorOf]
        exact Outcome.patched hresync
  · simpa using resync_outcome te nodeGetter info s (List.forall_mem_nil _)

end Outcome

end NRTUpdater

end TopologyExporter
