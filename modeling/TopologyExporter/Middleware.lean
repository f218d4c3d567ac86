/-
TopologyExporter/Middleware.lean

The filters between the kubelet's `List` and the resource monitor, stacked by
`main`: `sharedcpuspool` takes the CPUs of a reference container away from all
containers, `podexclude` drops pods by glob patterns, and `terminalpods` drops
the pods that it is given.

`middlewareList_exact` is the specification of the stack as a whole.  Each
filter commutes with what the others look at: CPUs are removed before any pod is
dropped, so the reference container is that of the kubelet's answer.
-/
import TopologyExporter.TerminalPods

namespace TopologyExporter

open GoMap

/-! ### Shared CPUs -/

/-- `ContainerIdent`. -/
structure ContainerIdent where
  «namespace» : String
  podName : String
  containerName : String
  deriving DecidableEq, Repr

/-- `newCPUSetInt64`. -/
def newCPUSetInt64 (cpus : List Int) : Finset Int := cpus.toFinset

/-- `removeCPUs`; a CPU set is listed by increasing ID. -/
def removeCPUs (cpuIDs : List Int) (toRemove : Finset Int) : List Int :=
  sortKeys (newCPUSetInt64 cpuIDs \ toRemove).val

/-- `findSharedPoolCPUsInListResponse`. -/
def findSharedPoolCPUsInListResponse (refCnt : Option ContainerIdent)
    (podResources : List PodResources) : Finset Int :=
  match refCnt with
  | none => ∅
  | some refCnt =>
      (podResources.findSome? fun podRes =>
        if podRes.namespace ≠ refCnt.namespace then none
        else if podRes.name ≠ refCnt.podName then none
        else podRes.containers.findSome? fun cntRes =>
          if cntRes.name ≠ refCnt.containerName then none
          else some (newCPUSetInt64 cntRes.cpuIds)).getD ∅

/-- The assignment to `cntRes.CpuIds` in all containers of a pod. -/
def removePodCPUs (toRemove : Finset Int) (podRes : PodResources) : PodResources :=
  { podRes with
    containers := podRes.containers.map fun cntRes =>
      { cntRes with cpuIds := removeCPUs cntRes.cpuIds toRemove } }

/-- `sharedcpuspool.FilterListResponse`. -/
def sharedCPUsFilter (refCnt : Option ContainerIdent) (resp : List PodResources) :
    List PodResources :=
  resp.map (removePodCPUs (findSharedPoolCPUsInListResponse refCnt resp))

/-! ### Excluded pods -/

/-- `podexclude.Item`. -/
structure PodExcludeItem where
  namespacePattern : String
  namePattern : String
  deriving DecidableEq, Repr

/-- `filepath.Match`: whether the pattern matches, and an error if it is
malformed.  There is no match next to an error. -/
structure PathMatch where
  call : String → String → Bool × Option String
  no_match_on_error : ∀ pattern name, (call pattern name).2 ≠ none → (call pattern name).1 = false

/-- Patterns without special characters match themselves. -/
def PathMatch.literal : PathMatch where
  call := fun pattern name => (pattern == name, none)
  no_match_on_error := fun _ _ h => absurd rfl h

/-- `ShouldExclude`. -/
def shouldExclude (pathMatch : PathMatch) («namespace» name : String) (debug : Bool) :
    List PodExcludeItem → Bool
  | [] => false
  | item :: podExcludes =>
      let (nsMatch, err) := pathMatch.call item.namespacePattern «namespace»
      if err.isSome && debug then shouldExclude pathMatch «namespace» name debug podExcludes
      else if !nsMatch then shouldExclude pathMatch «namespace» name debug podExcludes
      else
        let (nMatch, err) := pathMatch.call item.namePattern name
        if err.isSome && debug then shouldExclude pathMatch «namespace» name debug podExcludes
        else if !nMatch then shouldExclude pathMatch «namespace» name debug podExcludes
        else true

/-- `podexclude.FilterListResponse`. -/
def podExcludeFilter (pathMatch : PathMatch) (debug : Bool) (podExcludes : List PodExcludeItem)
    (resp : List PodResources) : List PodResources :=
  resp.filter fun podRes =>
    !shouldExclude pathMatch podRes.namespace podRes.name debug podExcludes

/-! ### The stack -/

/-- The clients that `main` stacks on the kubelet's, with the pods that the
terminal pods client filters out. -/
def middlewareList (pathMatch : PathMatch) (debug : Bool) (refCnt : Option ContainerIdent)
    (podExcludes : List PodExcludeItem) (terminal : List Pod) (resp : List PodResources) :
    List PodResources :=
  let resp := sharedCPUsFilter refCnt resp
  let resp := if 0 < podExcludes.length then podExcludeFilter pathMatch debug podExcludes resp
    else resp
  filterFrom resp terminal

/-! ### Specification -/

/-- The first container with the reference identity. -/
def referenceContainer (refCnt : Option ContainerIdent) (resp : List PodResources) :
    Option ContainerResources :=
  refCnt.bind fun refCnt =>
    ((resp.filter fun podRes => podRes.namespace = refCnt.namespace
      ∧ podRes.name = refCnt.podName).flatMap fun podRes => podRes.containers).find?
        fun cntRes => cntRes.name = refCnt.containerName

/-- The CPUs that the reference container holds. -/
def referenceCPUs (refCnt : Option ContainerIdent) (resp : List PodResources) : List Int :=
  ((referenceContainer refCnt resp).map fun cntRes => cntRes.cpuIds).getD []

/-- A pod is neither excluded nor terminal. -/
def Kept (pathMatch : PathMatch) (podExcludes : List PodExcludeItem) (terminal : List Pod)
    (podRes : PodResources) : Prop :=
  (∀ item ∈ podExcludes, ¬ ((pathMatch.call item.namespacePattern podRes.namespace).1 = true
      ∧ (pathMatch.call item.namePattern podRes.name).1 = true))
  ∧ ∀ pod ∈ terminal, ¬ (pod.namespace = podRes.namespace ∧ pod.name = podRes.name)

instance (pathMatch : PathMatch) (podExcludes : List PodExcludeItem) (terminal : List Pod)
    (podRes : PodResources) : Decidable (Kept pathMatch podExcludes terminal podRes) :=
  inferInstanceAs (Decidable (_ ∧ _))

/-- A container after the stack: the same, but for the CPUs, which are those
not in `shared`, in increasing order. -/
structure SameButCPUs (shared : List Int) (cntRes cntRes' : ContainerResources) : Prop where
  name : cntRes'.name = cntRes.name
  devices : cntRes'.devices = cntRes.devices
  memory : cntRes'.memory = cntRes.memory
  increasing : cntRes'.cpuIds.Pairwise (· < ·)
  cpus : ∀ cpu, cpu ∈ cntRes'.cpuIds ↔ cpu ∈ cntRes.cpuIds ∧ cpu ∉ shared

/-- A pod after the stack. -/
structure SamePodButCPUs (shared : List Int) (podRes podRes' : PodResources) : Prop where
  name : podRes'.name = podRes.name
  «namespace» : podRes'.namespace = podRes.namespace
  containers : List.Forall₂ (SameButCPUs shared) podRes.containers podRes'.containers

/-! ### Removing CPUs -/

theorem mem_removeCPUs {cpuIDs : List Int} {toRemove : Finset Int} {cpu : Int} :
    cpu ∈ removeCPUs cpuIDs toRemove ↔ cpu ∈ cpuIDs ∧ cpu ∉ toRemove := by
  rw [removeCPUs, ← Multiset.mem_coe, coe_sortKeys, Finset.mem_val, Finset.mem_sdiff,
    newCPUSetInt64, List.mem_toFinset]

theorem removeCPUs_increasing (cpuIDs : List Int) (toRemove : Finset Int) :
    (removeCPUs cpuIDs toRemove).Pairwise (· < ·) := by
  have hnodup : (removeCPUs cpuIDs toRemove).Nodup := by
    rw [removeCPUs, ← Multiset.coe_nodup, coe_sortKeys]
    exact Finset.nodup _
  refine (pairwise_sortKeys _).imp₂ (fun a b hle hne => ?_) hnodup
  exact lt_of_le_of_ne hle hne

/-- The search by nested loops finds the reference container. -/
theorem findSharedPoolCPUsInListResponse_eq (refCnt : Option ContainerIdent)
    (resp : List PodResources) :
    findSharedPoolCPUsInListResponse refCnt resp = (referenceCPUs refCnt resp).toFinset := by
  rcases refCnt with - | refCnt
  · rfl
  · have hcnt : ∀ l : List ContainerResources,
        (l.findSome? fun cntRes => if cntRes.name ≠ refCnt.containerName then none
          else some (newCPUSetInt64 cntRes.cpuIds))
        = (l.find? fun cntRes => cntRes.name = refCnt.containerName).map
            fun cntRes => newCPUSetInt64 cntRes.cpuIds := by
      intro l
      induction l with
      | nil => rfl
      | cons cntRes l ih =>
          by_cases hname : cntRes.name = refCnt.containerName
          · simp [hname]
          · simpa [hname] using ih
    have hpod : (resp.findSome? fun podRes =>
          if podRes.namespace ≠ refCnt.namespace then none
          else if podRes.name ≠ refCnt.podName then none
          else podRes.containers.findSome? fun cntRes =>
            if cntRes.name ≠ refCnt.containerName then none
            else some (newCPUSetInt64 cntRes.cpuIds))
        = (referenceContainer (some refCnt) resp).map fun cntRes =>
            newCPUSetInt64 cntRes.cpuIds := by
      simp only [hcnt]
      induction resp with
      | nil => rfl
      | cons podRes resp ih =>
          simp only [referenceContainer, Option.bind_some] at ih ⊢
          by_cases hmatch : podRes.namespace = refCnt.namespace ∧ podRes.name = refCnt.podName
          · -- the pod is the reference pod, and may or may not have the container
            rw [List.findSome?_cons, List.filter_cons_of_pos (by simpa using hmatch),
              List.flatMap_cons, List.find?_append, if_neg (by simp [hmatch.1]),
              if_neg (by simp [hmatch.2]), ih, Option.map_or]
            generalize Option.map _ (List.find? _ podRes.containers) = found
            rcases found with - | cpus
            · rfl
            · rfl
          · rw [List.findSome?_cons, List.filter_cons_of_neg (by simpa using hmatch), ← ih]
            by_cases hns : podRes.namespace = refCnt.namespace
            · simp [hns, not_and.mp hmatch hns]
            · simp [hns]
    rw [findSharedPoolCPUsInListResponse, hpod, referenceCPUs]
    rcases referenceContainer (some refCnt) resp with - | cntRes
    · rfl
    · rfl

/-! ### Excluding pods -/

/-- Malformed patterns and the debug flag make no difference. -/
theorem shouldExclude_eq_true_iff (pathMatch : PathMatch) («namespace» name : String)
    (debug : Bool) (podExcludes : List PodExcludeItem) :
    shouldExclude pathMatch «namespace» name debug podExcludes = true
      ↔ ∃ item ∈ podExcludes, (pathMatch.call item.namespacePattern «namespace»).1 = true
          ∧ (pathMatch.call item.namePattern name).1 = true := by
  have hmatch : ∀ pattern text, (pathMatch.call pattern text).1 = true →
      (pathMatch.call pattern text).2 = none := by
    intro pattern text h
    by_contra herr
    rw [pathMatch.no_match_on_error pattern text herr] at h
    cases h
  induction podExcludes with
  | nil => simp [shouldExclude]
  | cons item podExcludes ih =>
      rw [List.exists_mem_cons_iff, shouldExclude]
      refine Iff.trans ?_ (or_congr Iff.rfl ih)
      rcases hns : (pathMatch.call item.namespacePattern «namespace»).1 with - | -
      · simp [hns]
      · rcases hn : (pathMatch.call item.namePattern name).1 with - | -
        · simp [hns, hn, hmatch _ _ hns]
        · simp [hns, hn, hmatch _ _ hns, hmatch _ _ hn]

/-- The two filters that drop pods keep exactly the kept ones; an empty list of
patterns, for which `main` leaves a filter out, drops nothing. -/
theorem dropping_filters_eq (pathMatch : PathMatch) (debug : Bool)
    (podExcludes : List PodExcludeItem) (terminal : List Pod) (resp : List PodResources) :
    filterFrom (if 0 < podExcludes.length then podExcludeFilter pathMatch debug podExcludes resp
        else resp) terminal
      = resp.filter fun podRes => Kept pathMatch podExcludes terminal podRes := by
  have hexclude : (if 0 < podExcludes.length then podExcludeFilter pathMatch debug podExcludes resp
      else resp) = podExcludeFilter pathMatch debug podExcludes resp := by
    split_ifs with hlen
    · rfl
    · obtain rfl := List.length_eq_zero_iff.mp (Nat.eq_zero_of_not_pos hlen)
      exact (List.filter_true resp).symm
  rw [hexclude, filterFrom, podExcludeFilter, List.filter_filter]
  refine List.filter_congr fun podRes _ => ?_
  have hbool : ∀ b : Bool, ∀ p : Prop, (b = true ↔ p) → ((!b) = true ↔ ¬ p) := by
    intro b p h
    rw [Bool.not_eq_true', ← h, Bool.not_eq_true]
  rw [Bool.eq_iff_iff, Bool.and_eq_true, decide_eq_true_eq, Kept,
    hbool _ _ (shouldExclude_eq_true_iff ..), hbool _ _ List.any_eq_true, and_comm]
  simp only [not_exists, not_and, Bool.and_eq_true, beq_iff_eq]

/-! ### The whole stack -/

theorem samePodButCPUs_removePodCPUs (shared : List Int) (podRes : PodResources) :
    SamePodButCPUs shared podRes (removePodCPUs shared.toFinset podRes) where
  name := rfl
  «namespace» := rfl
  containers := by
    refine List.forall₂_map_right_iff.mpr (List.forall₂_same.mpr fun cntRes _ => ?_)
    refine ⟨rfl, rfl, rfl, removeCPUs_increasing cntRes.cpuIds shared.toFinset, fun cpu => ?_⟩
    show cpu ∈ removeCPUs cntRes.cpuIds shared.toFinset ↔ _
    rw [mem_removeCPUs, List.mem_toFinset]

/-- **The stack is its specification.**  In the original order, exactly the
kept pods reach the monitor, each with all its containers, and in each container
the CPUs that the reference container of the original answer does not hold. -/
theorem middlewareList_exact (pathMatch : PathMatch) (debug : Bool)
    (refCnt : Option ContainerIdent) (podExcludes : List PodExcludeItem) (terminal : List Pod)
    (resp : List PodResources) :
    List.Forall₂ (SamePodButCPUs (referenceCPUs refCnt resp))
      (resp.filter fun podRes => Kept pathMatch podExcludes terminal podRes)
      (middlewareList pathMatch debug refCnt podExcludes terminal resp) := by
  have hstack : middlewareList pathMatch debug refCnt podExcludes terminal resp
      = (resp.filter fun podRes => Kept pathMatch podExcludes terminal podRes).map
          (removePodCPUs (referenceCPUs refCnt resp).toFinset) := by
    rw [middlewareList, dropping_filters_eq, sharedCPUsFilter,
      findSharedPoolCPUsInListResponse_eq, List.filter_map]
    rfl
  rw [hstack]
  exact List.forall₂_map_right_iff.mpr
    (List.forall₂_same.mpr fun podRes _ => samePodButCPUs_removePodCPUs _ podRes)

-- the reference pod is itself excluded, and its CPU is still taken away
example : middlewareList .literal false (some ⟨"kube-system", "pool", "shared"⟩)
    [⟨"kube-system", "pool"⟩] []
    [⟨"pool", "kube-system", [⟨"shared", [], [3], []⟩]⟩,
      ⟨"web", "default", [⟨"main", [], [5, 3, 4, 5], []⟩]⟩]
    = [⟨"web", "default", [⟨"main", [], [4, 5], []⟩]⟩] := by decide

end TopologyExporter
