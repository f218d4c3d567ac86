/-
TopologyExporter/SharedPool.lean

Applying the filter of `sharedcpuspool` twice.

The filter looks up what it removes in the answer that it rewrites.  It keeps the names,
so the second time it finds the same reference container (`referenceContainer_filter`);
but that container has no CPUs left, so there is nothing to remove.  What remains of the
second pass is that it sorts the CPUs of each container, which the first pass has done
(`removeCPUs_removeCPUs`).
-/
import TopologyExporter.Middleware

namespace TopologyExporter

open GoMap

/-! ### CPU lists -/

/-- Increasing lists with the same elements are equal. -/
theorem eq_of_increasing {l l' : List Int} (h : l.Pairwise (· < ·)) (h' : l'.Pairwise (· < ·))
    (hmem : ∀ cpu, cpu ∈ l ↔ cpu ∈ l') : l = l' := by
  have hnodup : l.Nodup := h.imp fun hlt => ne_of_lt hlt
  have hnodup' : l'.Nodup := h'.imp fun hlt => ne_of_lt hlt
  have hperm : l.Perm l' := (List.perm_ext_iff_of_nodup hnodup hnodup').mpr hmem
  exact hperm.eq_of_pairwise (fun a b _ _ hab hba => absurd (hab.trans hba) (lt_irrefl a)) h h'

/-- A list that the filter has left is in the order in which it would be listed again. -/
theorem removeCPUs_removeCPUs (cpuIDs : List Int) (toRemove : Finset Int) :
    removeCPUs (removeCPUs cpuIDs toRemove) ∅ = removeCPUs cpuIDs toRemove := by
  apply eq_of_increasing (removeCPUs_increasing _ _) (removeCPUs_increasing _ _)
  intro cpu
  rw [mem_removeCPUs]
  exact and_iff_left (Finset.notMem_empty cpu)

/-- All CPUs of a list can be removed. -/
theorem removeCPUs_self (cpuIDs : List Int) : removeCPUs cpuIDs cpuIDs.toFinset = [] := by
  rw [List.eq_nil_iff_forall_not_mem]
  intro cpu hcpu
  obtain ⟨hmem, hnot⟩ := mem_removeCPUs.mp hcpu
  exact hnot (List.mem_toFinset.mpr hmem)

/-! ### The second pass -/

/-- The names do not change, so the reference container is found again. -/
theorem referenceContainer_removePodCPUs (refCnt : Option ContainerIdent) (toRemove : Finset Int)
    (resp : List PodResources) :
    referenceContainer refCnt (resp.map (removePodCPUs toRemove))
      = (referenceContainer refCnt resp).map fun cntRes =>
          { cntRes with cpuIds := removeCPUs cntRes.cpuIds toRemove } := by
  cases refCnt with
  | none => rfl
  | some refCnt =>
      -- pods and containers are searched by name, so the map comes out of each search
      show List.find? _ (List.flatMap _ (List.filter _ (resp.map (removePodCPUs toRemove)))) = _
      rw [List.filter_map, List.flatMap_map]
      show List.find? _ (List.flatMap (fun podRes : PodResources => podRes.containers.map _) _) = _
      rw [← List.map_flatMap, List.find?_map]
      rfl

/-- After the filter the reference container is the one from before, without CPUs. -/
theorem referenceContainer_filter (refCnt : Option ContainerIdent) (resp : List PodResources) :
    referenceContainer refCnt (sharedCPUsFilter refCnt resp)
      = (referenceContainer refCnt resp).map fun cntRes => { cntRes with cpuIds := [] } := by
  rw [sharedCPUsFilter, findSharedPoolCPUsInListResponse_eq, referenceContainer_removePodCPUs,
    referenceCPUs]
  rcases referenceContainer refCnt resp with - | cntRes
  · rfl
  · rw [Option.map_some, Option.map_some, Option.map_some, Option.getD_some, removeCPUs_self]

/-- The second pass has nothing to remove. -/
theorem findSharedPoolCPUs_filter (refCnt : Option ContainerIdent) (resp : List PodResources) :
    findSharedPoolCPUsInListResponse refCnt (sharedCPUsFilter refCnt resp) = ∅ := by
  rw [findSharedPoolCPUsInListResponse_eq, referenceCPUs, referenceContainer_filter]
  rcases referenceContainer refCnt resp with - | cntRes
  · rfl
  · rfl

theorem removePodCPUs_removePodCPUs (toRemove : Finset Int) (podRes : PodResources) :
    removePodCPUs ∅ (removePodCPUs toRemove podRes) = removePodCPUs toRemove podRes := by
  rw [removePodCPUs, removePodCPUs, List.map_map]
  congr 1
  refine List.map_congr_left fun cntRes _ => ?_
  rw [Function.comp_apply, removeCPUs_removeCPUs]

/-- **The filter is idempotent.**  After it the reference container has no CPUs, and no
container has one that the reference container held. -/
theorem shared_pool_filter_idempotent (refCnt : Option ContainerIdent) (resp : List PodResources) :
    sharedCPUsFilter refCnt (sharedCPUsFilter refCnt resp) = sharedCPUsFilter refCnt resp
      ∧ referenceContainer refCnt (sharedCPUsFilter refCnt resp)
        = (referenceContainer refCnt resp).map (fun cntRes => { cntRes with cpuIds := [] })
      ∧ ∀ podRes ∈ sharedCPUsFilter refCnt resp, ∀ cntRes ∈ podRes.containers,
          ∀ cpu ∈ referenceCPUs refCnt resp, cpu ∉ cntRes.cpuIds := by
  refine ⟨?_, referenceContainer_filter refCnt resp, ?_⟩
  · -- the outer filter removes from the pods that the inner one has rewritten
    have houter : sharedCPUsFilter refCnt (sharedCPUsFilter refCnt resp)
        = (sharedCPUsFilter refCnt resp).map (removePodCPUs ∅) :=
      congrArg (fun toRemove => (sharedCPUsFilter refCnt resp).map (removePodCPUs toRemove))
        (findSharedPoolCPUs_filter refCnt resp)
    rw [houter, sharedCPUsFilter, List.map_map]
    exact List.map_congr_left fun podRes _ => removePodCPUs_removePodCPUs _ podRes
  · intro podRes hpod cntRes hcnt cpu hshared hheld
    obtain ⟨podRes', -, rfl⟩ := List.mem_map.mp hpod
    obtain ⟨cntRes', -, rfl⟩ := List.mem_map.mp hcnt
    refine (mem_removeCPUs.mp hheld).2 ?_
    rw [findSharedPoolCPUsInListResponse_eq]
    exact List.mem_toFinset.mpr hshared

-- two containers match; the CPUs of the first one are removed from all
example : sharedCPUsFilter (some ⟨"ns", "pool", "shared"⟩)
    [⟨"pool", "ns", [⟨"shared", [], [3, 1, 3], []⟩, ⟨"shared", [], [5, 3], []⟩]⟩]
    = [⟨"pool", "ns", [⟨"shared", [], [], []⟩, ⟨"shared", [], [5], []⟩]⟩] := by decide

end TopologyExporter
