/-
TopologyExporter/Pipeline.lean

From the kubelet's list of pods to the zones.

Between the two stand the filters of `main` and the scan of a monitor that has seen some
node updates.  A zone depends on the pods through one figure for each resource, the amount
that they hold on its node, and that figure is a sum over containers.  So the zones do not
depend on the order of the list, and pods that are admitted take away what they hold
(`admitted_pods_take_what_they_hold`).  What a container holds, after the filters, is what
the kubelet lists for it, less the CPUs of the shared pool, each CPU once
(`pipeline_accounting_exact`).
-/
import TopologyExporter.Fingerprint
import TopologyExporter.Middleware
import TopologyExporter.MonitorRuns

namespace TopologyExporter

open GoMap GoInt

/-! ### Monitors in a run -/

/-- The kubelet's answer is regular, and its memory fits an `int64`. -/
structure RegularAnswer (allocRes : AllocatableResourcesResponse) : Prop where
  regular : Regular allocRes.devices allocRes.memory
  fits : ∀ k r, blockBytes k r allocRes.memory < 2 ^ 63

/-- The containers that are watched are regular, and their memory fits an `int64`. -/
structure RegularPods (rm : ResourceMonitor) (podRes : List PodResources) : Prop where
  regular : ∀ cnt ∈ watchedContainers podRes rm.args.namespace, Regular cnt.devices cnt.memory
  fits : ∀ k r, usedBytes rm podRes k r < 2 ^ 63

section Runs

variable {ord : RefreshOrders} {rm₀ rm : ResourceMonitor} {last : Readings}

theorem Stores.nodeAllocatable (h : Stores ord rm₀ last rm) :
    rm.nodeAllocatable = containerDevicesToPerNUMAResourceCounters
      (normalizeContainerDevices ord.cpus last.allocRes.devices last.allocRes.memory
        last.allocRes.cpuIds rm.coreIDToNodeIDMap) := by
  rcases h.figures with rfl | rfl <;> rfl

theorem Stores.args (h : Stores ord rm₀ last rm) : rm.args = rm₀.args := by
  rcases h.figures with rfl | rfl <;> rfl

theorem Stores.coreIDToNodeIDMap (h : Stores ord rm₀ last rm) :
    rm.coreIDToNodeIDMap = rm₀.coreIDToNodeIDMap := by
  rcases h.figures with rfl | rfl <;> rfl

/-- The entry of a resource, if the pods are regular. -/
theorem Stores.available_eq (h : Stores ord rm₀ last rm)
    (halloc : RegularAnswer last.allocRes) {podRes : List PodResources} (hpods : RegularPods rm podRes)
    {k : Nat} {r : String} {resAlloc : Int} (hlookup : (zoneCounters rm k).lookup r = some resAlloc)
    (cpus : Nat → Nat → RangeOrder Int (List String)) :
    (scanResource (getD rm.nodeCapacity k ∅) (containerDevicesToPerNUMAResourceCounters
        (getAllContainerDevices cpus podRes rm.args.namespace rm.coreIDToNodeIDMap)) k r
        resAlloc).available
      = max 0 (resAlloc - used rm podRes k r) := by
  have hheld := lookup_zoneCounters_held h.nodeAllocatable halloc.regular halloc.fits hlookup
  rw [scanResource_available, counted_demand_used hpods.regular hpods.fits, hheld,
    sub_of_nonneg (Int.natCast_nonneg _) (Int.natCast_nonneg _)]

end Runs

/-! ### Pods come and go -/

/-- The zone of node `k`, with what the admitted pods hold taken away. -/
def Zone.lower (rm : ResourceMonitor) (admitted : List PodResources) (k : Nat) (zone : Zone) : Zone :=
  { zone with
    resources := zone.resources.map fun info =>
      { info with available := max 0 (info.available - used rm admitted k info.name) } }

theorem watchedContainers_append (podRes podRes' : List PodResources) («namespace» : String) :
    watchedContainers (podRes ++ podRes') «namespace»
      = watchedContainers podRes «namespace» ++ watchedContainers podRes' «namespace» := by
  rw [watchedContainers, List.filter_append, List.flatMap_append]
  rfl

theorem watchedContainers_perm {podRes podRes' : List PodResources} (h : podRes.Perm podRes')
    («namespace» : String) :
    (watchedContainers podRes «namespace»).Perm (watchedContainers podRes' «namespace») :=
  (h.filter _).flatMap_right _

section Admission

variable {rm : ResourceMonitor} {podRes admitted podRes' : List PodResources}

/-- What pods hold is a sum over the pods. -/
theorem used_admitted (hperm : podRes'.Perm (podRes ++ admitted)) (k : Int) (r : String) :
    used rm podRes' k r = used rm podRes k r + used rm admitted k r := by
  have hcnts := watchedContainers_perm hperm rm.args.namespace
  rw [watchedContainers_append] at hcnts
  rw [used, (hcnts.map _).sum_eq, List.map_append, List.sum_append]
  rfl

/-- Fewer pods are regular if more pods are. -/
theorem RegularPods.of_admitted (hperm : podRes'.Perm (podRes ++ admitted))
    (h : RegularPods rm podRes') : RegularPods rm podRes := by
  have hcnts := watchedContainers_perm hperm rm.args.namespace
  rw [watchedContainers_append] at hcnts
  constructor
  · intro cnt hcnt
    exact h.regular cnt (hcnts.mem_iff.mpr (List.mem_append_left _ hcnt))
  · intro k r
    have hfits := h.fits k r
    rw [usedBytes, (hcnts.map _).sum_eq, List.map_append, List.sum_append] at hfits
    exact Nat.lt_of_le_of_lt (Nat.le_add_right _ _) hfits

end Admission

/-- The zone of node `k` in a scan of these pods. -/
def scannedZone (sord : ScanOrders) (rm : ResourceMonitor) (excludeList : ResourceExclude)
    (podRes : List PodResources) (k : Nat) : Zone :=
  scanZone (sord.resources k) rm (toMapSet sord.excludes excludeList)
    (containerDevicesToPerNUMAResourceCounters (getAllContainerDevices sord.cpus podRes
      rm.args.namespace rm.coreIDToNodeIDMap)) k

/-- A zone after an admission: only the available figures are lower. -/
theorem Stores.scannedZone_lower {ord : RefreshOrders} {rm₀ rm : ResourceMonitor} {last : Readings}
    (h : Stores ord rm₀ last rm) (halloc : RegularAnswer last.allocRes)
    {podRes admitted podRes' : List PodResources} (hperm : podRes'.Perm (podRes ++ admitted))
    (hpods : RegularPods rm podRes') (sord sord' : ScanOrders) (excludeList : ResourceExclude)
    (k : Nat) :
    ((scannedZone sord rm excludeList podRes k).lower rm admitted k).Same
      (scannedZone sord' rm excludeList podRes' k) where
  name := rfl
  type := rfl
  costs := rfl
  resources := by
    have hrange := ((sord.resources k).enumerates (zoneCounters rm k)).perm
      ((sord'.resources k).enumerates (zoneCounters rm k))
    refine List.Perm.trans ?_ (hrange.filterMap _)
    rw [Zone.lower, scannedZone, scanZone, List.map_filterMap]
    refine List.Perm.of_eq (List.filterMap_congr fun e he => ?_)
    obtain ⟨r, resAlloc⟩ := e
    have hlookup := (((sord.resources k).enumerates _).mem_iff r resAlloc).mp he
    have hex : inExcludeSet (toMapSet sord.excludes excludeList) r rm.nodeName
        = inExcludeSet (toMapSet sord'.excludes excludeList) r rm.nodeName := by
      rw [Bool.eq_iff_iff, inExcludeSet_toMapSet, inExcludeSet_toMapSet]
    simp only [hex]
    split_ifs
    · rfl
    · -- of the counters of the pods, an entry shows the available figure only
      have hbefore := h.available_eq halloc (hpods.of_admitted hperm) hlookup sord.cpus
      have hafter := h.available_eq halloc hpods hlookup sord'.cpus
      have hused : used rm podRes' k r = used rm podRes k r + used rm admitted k r :=
        used_admitted hperm k r
      have havailable : max 0 (max 0 (resAlloc - used rm podRes k r) - used rm admitted k r)
          = max 0 (resAlloc - used rm podRes' k r) := by omega
      rw [← hbefore, ← hafter] at havailable
      exact congrArg (fun available => some { scanResource (getD rm.nodeCapacity k ∅) ∅ k r resAlloc with
        available := available }) havailable

/-- **Pods take away what they hold, and give it back.**  After any run of node updates, let a
list of pods be the pods of another one and some more, in any order.  Its scan has the zones of the
other scan, with the same names, costs, capacities and allocatable figures; and what is available is
less by what the further pods hold on the node, but not below zero. -/
theorem admitted_pods_take_what_they_hold {R : Type} [DecidableEq R] {ord : RefreshOrders}
    {memCounters : MemoryResourceCounters} {allocRes : AllocatableResourcesResponse}
    {nodeName : String} {args : MonitorArgs} {topo : MachineTopology} {rm₀ rm : ResourceMonitor}
    {evs : List (NodeUpdate R)}
    (hnew : newResourceMonitor ord (.ok memCounters) (.ok allocRes) nodeName args topo = .ok (.ok rm₀))
    (hrun : evs.foldlM resUpdated rm₀ = .ok rm)
    (halloc : RegularAnswer (Readings.after nodeName ⟨memCounters, allocRes⟩ evs).allocRes)
    {podRes admitted podRes' : List PodResources} (hperm : podRes'.Perm (podRes ++ admitted))
    (hpods : RegularPods rm podRes') (pfp : PodFingerprint) (sord sord' : ScanOrders)
    (excludeList : ResourceExclude) :
    ∃ zones zones', (scan pfp sord rm excludeList (.ok podRes)).1.zones = some zones
      ∧ (scan pfp sord' rm excludeList (.ok podRes')).1.zones = some zones'
      ∧ zones.length = topo.nodes.length ∧ zones'.length = topo.nodes.length
      ∧ ∀ k < topo.nodes.length, ∃ zone zone', zones[k]? = some zone ∧ zones'[k]? = some zone'
        ∧ (zone.lower rm admitted k).Same zone' := by
  have h := stores_of_run hnew hrun
  have htopo : rm.topo = topo := h.topo
  refine ⟨_, _, (scan_zones ..).1, (scan_zones ..).1, ?_, ?_, fun k hk => ?_⟩
  · rw [length_scanZones, htopo]
  · rw [length_scanZones, htopo]
  · rw [← htopo] at hk
    exact ⟨_, _, getElem?_scanZones sord rm excludeList podRes hk,
      getElem?_scanZones sord' rm excludeList podRes' hk,
      h.scannedZone_lower halloc hperm hpods sord sord' excludeList k⟩

/-- Pods that hold CPUs only. -/
theorem RegularPods.of_cpus {rm : ResourceMonitor} {podRes : List PodResources}
    (h : ∀ pr ∈ podRes, ∀ cnt ∈ pr.containers, cnt.devices = [] ∧ cnt.memory = []) :
    RegularPods rm podRes := by
  have hcnts : ∀ cnt ∈ watchedContainers podRes rm.args.namespace, cnt.devices = [] ∧ cnt.memory = [] := by
    intro cnt hcnt
    obtain ⟨pr, hpr, hcnt⟩ := List.mem_flatMap.mp hcnt
    exact h pr (List.mem_of_mem_filter hpr) cnt hcnt
  constructor
  · intro cnt hcnt
    rw [(hcnts cnt hcnt).1, (hcnts cnt hcnt).2]
    exact ⟨fun _ h => absurd h List.not_mem_nil, fun _ h => absurd h List.not_mem_nil⟩
  · intro k r
    have hzero : usedBytes rm podRes k r = 0 := by
      rw [usedBytes, List.sum_eq_zero_iff]
      intro bytes hbytes
      obtain ⟨cnt, hcnt, rfl⟩ := List.mem_map.mp hbytes
      rw [(hcnts cnt hcnt).2]
      rfl
    rw [hzero]
    exact Nat.two_pow_pos 63

theorem regularAnswer_nicAllocatable : RegularAnswer nicAllocatable :=
  ⟨⟨by decide, by decide⟩, fun _ _ => Nat.two_pow_pos 63⟩

/-- A machine with two CPUs, whose monitor has come through a refresh that failed. -/
theorem timeout_run : ∃ rm₀ rm,
    newResourceMonitor .sorted (.ok ∅) (.ok nicAllocatable) "worker" ⟨"", false, ""⟩ oneNodeTopology
        = .ok (.ok rm₀)
      ∧ [timeoutUpdate].foldlM resUpdated rm₀ = .ok rm := by
  have hids : ContiguousIDs oneNodeTopology := by decide
  have hstores := stores_newResourceMonitor newResourceMonitor_nic
  obtain ⟨rm, hrun, -⟩ := (foldlM_resUpdated hids hstores [timeoutUpdate]).2 timeoutUpdate_placed
  exact ⟨_, rm, newResourceMonitor_nic, hrun⟩

/-- A pod whose container holds some CPUs. -/
def cpuPod (name : String) (cpuIds : List Int) : PodResources :=
  ⟨name, "default", [⟨"main", [], cpuIds, []⟩]⟩

/-- A second pod is listed before the first. -/
theorem admitted_pods_take_what_they_hold_second_pod :
    ∃ rm zones zones',
      (scan namesFingerprint .sorted rm ∅ (.ok [cpuPod "web" [0]])).1.zones = some zones
      ∧ (scan namesFingerprint .sorted rm ∅ (.ok [cpuPod "db" [1], cpuPod "web" [0]])).1.zones
        = some zones'
      ∧ used rm [cpuPod "db" [1]] 0 resourceCPU = 1
      ∧ ∃ zone zone', zones[0]? = some zone ∧ zones'[0]? = some zone'
        ∧ (zone.lower rm [cpuPod "db" [1]] 0).Same zone' := by
  obtain ⟨rm₀, rm, hnew, hrun⟩ := timeout_run
  have hperm : [cpuPod "db" [1], cpuPod "web" [0]].Perm ([cpuPod "web" [0]] ++ [cpuPod "db" [1]]) :=
    .swap _ _ []
  obtain ⟨zones, zones', hzones, hzones', -, -, hlower⟩ := admitted_pods_take_what_they_hold
    hnew hrun regularAnswer_nicAllocatable hperm (.of_cpus (by decide)) namesFingerprint .sorted
    .sorted ∅
  refine ⟨rm, zones, zones', hzones, hzones', ?_, hlower 0 (by decide)⟩
  have hmap := (stores_of_run hnew hrun).coreIDToNodeIDMap
  have hargs := (stores_of_run hnew hrun).args
  rw [used, hmap, hargs]
  decide

/-! ### Through the filters -/

section Filters

variable (pathMatch : PathMatch) (debug : Bool) (refCnt : Option ContainerIdent)
variable (podExcludes : List PodExcludeItem) (terminal : List Pod) (resp : List PodResources)

/-- The pods that are neither excluded nor terminal. -/
def keptPods : List PodResources :=
  resp.filter fun podRes => Kept pathMatch podExcludes terminal podRes

/-- How much of resource `r` on node `k` a container holds outside the shared pool.  Each CPU
counts once, however often it is listed. -/
def heldOutside (coreIDToNodeIDMap : GoMap Int Int) (shared : List Int) (k : Int) (r : String)
    (cnt : ContainerResources) : Nat :=
  if r = resourceCPU then
    ((cnt.cpuIds.toFinset \ shared.toFinset).filter fun cpu =>
      coreIDToNodeIDMap.lookup cpu = some k).card
  else held coreIDToNodeIDMap k r cnt.devices cnt.cpuIds cnt.memory

/-- The stack, filter by filter. -/
theorem middlewareList_eq :
    middlewareList pathMatch debug refCnt podExcludes terminal resp
      = (keptPods pathMatch podExcludes terminal resp).map
          (removePodCPUs (referenceCPUs refCnt resp).toFinset) := by
  rw [middlewareList, dropping_filters_eq, sharedCPUsFilter, findSharedPoolCPUsInListResponse_eq,
    List.filter_map]
  rfl

theorem watchedContainers_map (toRemove : Finset Int) (podRes : List PodResources)
    («namespace» : String) :
    watchedContainers (podRes.map (removePodCPUs toRemove)) «namespace»
      = (watchedContainers podRes «namespace»).map fun cnt =>
          { cnt with cpuIds := removeCPUs cnt.cpuIds toRemove } := by
  rw [watchedContainers, List.filter_map, List.flatMap_map, watchedContainers, List.map_flatMap]
  rfl

theorem cpuCount_removeCPUs (coreIDToNodeIDMap : GoMap Int Int) (cpuIds : List Int)
    (toRemove : Finset Int) (k : Int) :
    cpuCount coreIDToNodeIDMap (removeCPUs cpuIds toRemove) k
      = ((cpuIds.toFinset \ toRemove).filter fun cpu =>
          coreIDToNodeIDMap.lookup cpu = some k).card := by
  have hcoe : (removeCPUs cpuIds toRemove : Multiset Int) = (cpuIds.toFinset \ toRemove).val := by
    rw [removeCPUs, coe_sortKeys]
    rfl
  rw [cpuCount, ← Multiset.coe_countP, hcoe, Multiset.countP_eq_card_filter]
  rfl

theorem held_removeCPUs (coreIDToNodeIDMap : GoMap Int Int) (shared : List Int) (k : Int)
    (r : String) (cnt : ContainerResources) :
    held coreIDToNodeIDMap k r cnt.devices (removeCPUs cnt.cpuIds shared.toFinset) cnt.memory
      = heldOutside coreIDToNodeIDMap shared k r cnt := by
  rw [heldOutside, held, held]
  split_ifs
  · exact cpuCount_removeCPUs ..
  · rfl
  · rfl

variable {pathMatch debug refCnt podExcludes terminal resp} {rm : ResourceMonitor}

/-- What is held after the filters is what the kept containers hold outside the pool. -/
theorem used_middlewareList (k : Int) (r : String) :
    used rm (middlewareList pathMatch debug refCnt podExcludes terminal resp) k r
      = ((watchedContainers (keptPods pathMatch podExcludes terminal resp) rm.args.namespace).map
          (heldOutside rm.coreIDToNodeIDMap (referenceCPUs refCnt resp) k r)).sum := by
  rw [used, middlewareList_eq, watchedContainers_map, List.map_map]
  exact congrArg List.sum (List.map_congr_left fun cnt _ => held_removeCPUs ..)

/-- The filters keep regular pods regular. -/
theorem RegularPods.middlewareList (h : RegularPods rm (keptPods pathMatch podExcludes terminal resp)) :
    RegularPods rm (middlewareList pathMatch debug refCnt podExcludes terminal resp) := by
  constructor
  · intro cnt hcnt
    rw [middlewareList_eq, watchedContainers_map] at hcnt
    obtain ⟨kept, hkept, rfl⟩ := List.mem_map.mp hcnt
    exact h.regular kept hkept
  · intro k r
    rw [usedBytes, middlewareList_eq, watchedContainers_map, List.map_map]
    exact h.fits k r

end Filters

/-- **The published figures, from the kubelet's answers.**  After any run of node updates, and
whatever the filters are, there is one zone per node.  It lists, once each, the resources that the
last answer stored has on the node and that are not excluded, and nothing else but CPUs of which
none is allocatable.  What is available of a resource is the allocatable figure of that answer, less
what the containers hold that are watched and neither excluded nor terminal; of their CPUs, those of
the reference container are not counted, and no CPU is counted twice. -/
theorem pipeline_accounting_exact {R : Type} [DecidableEq R] {ord : RefreshOrders}
    {memCounters : MemoryResourceCounters} {allocRes : AllocatableResourcesResponse}
    {nodeName : String} {args : MonitorArgs} {topo : MachineTopology} {rm₀ rm : ResourceMonitor}
    {evs : List (NodeUpdate R)}
    (hnew : newResourceMonitor ord (.ok memCounters) (.ok allocRes) nodeName args topo = .ok (.ok rm₀))
    (hrun : evs.foldlM resUpdated rm₀ = .ok rm) {last : AllocatableResourcesResponse}
    (hlast : (Readings.after nodeName ⟨memCounters, allocRes⟩ evs).allocRes = last)
    (halloc : RegularAnswer last) (pathMatch : PathMatch) (debug : Bool)
    (refCnt : Option ContainerIdent) (podExcludes : List PodExcludeItem) (terminal : List Pod)
    {resp : List PodResources} (hpods : RegularPods rm (keptPods pathMatch podExcludes terminal resp))
    (pfp : PodFingerprint) (sord : ScanOrders) (excludeList : ResourceExclude) :
    ∃ zones, (scan pfp sord rm excludeList
        (.ok (middlewareList pathMatch debug refCnt podExcludes terminal resp))).1.zones = some zones
      ∧ zones.length = topo.nodes.length
      ∧ ∀ k < topo.nodes.length, ∃ zone, zones[k]? = some zone ∧ zone.name = makeZoneName k
        ∧ (zone.resources.map fun info => info.name).Nodup
        ∧ (∀ r, Reports (makeCoreIDToNodeIDMap topo) k r last.devices last.cpuIds last.memory →
            ¬ Excluded excludeList nodeName r → ∃ info ∈ zone.resources, info.name = r)
        ∧ ∀ info ∈ zone.resources, ¬ Excluded excludeList nodeName info.name
          ∧ (¬ Reports (makeCoreIDToNodeIDMap topo) k info.name last.devices last.cpuIds last.memory →
              info.name = resourceCPU ∧ info.allocatable = 0)
          ∧ info.allocatable
            = held (makeCoreIDToNodeIDMap topo) k info.name last.devices last.cpuIds last.memory
          ∧ info.available = max 0 (info.allocatable
            - ((watchedContainers (keptPods pathMatch podExcludes terminal resp) args.namespace).map
                (heldOutside (makeCoreIDToNodeIDMap topo) (referenceCPUs refCnt resp) k
                  info.name)).sum) := by
  have h := stores_of_run hnew hrun
  have hstored := h.nodeAllocatable
  rw [hlast] at hstored
  have htopo : rm.topo = topo := h.topo
  have hmap : rm.coreIDToNodeIDMap = makeCoreIDToNodeIDMap topo := h.coreIDToNodeIDMap
  have hargs : rm.args = args := h.args
  have hname : rm.nodeName = nodeName := h.nodeName
  have hfiltered : RegularPods rm (middlewareList pathMatch debug refCnt podExcludes terminal resp) :=
    hpods.middlewareList
  refine ⟨_, (scan_zones ..).1, (length_scanZones ..).trans (by rw [htopo]), fun k hk => ?_⟩
  have account := zoneAccount_scanZone hstored halloc.regular hfiltered.regular halloc.fits
    hfiltered.fits sord excludeList k
  refine ⟨_, getElem?_scanZones sord rm excludeList _ (htopo ▸ hk), account.name,
    account.once, ?_, fun info hinfo => ⟨?_, ?_, ?_, ?_⟩⟩
  · rw [← hmap, ← hname]
    exact account.reported
  · rw [← hname]
    exact account.excluded info hinfo
  · rw [← hmap]
    exact account.others info hinfo
  · rw [← hmap]
    exact account.allocatable info hinfo
  · have hused : used rm (middlewareList pathMatch debug refCnt podExcludes terminal resp) k info.name
        = _ := used_middlewareList k info.name
    rw [← hmap, ← hargs, ← hused]
    exact account.available info hinfo

/-- CPU 0 is that of the shared pool; the pod lists it next to CPU 1, and that twice. -/
theorem pipeline_accounting_exact_shared_pool :
    ∃ rm zones, (scan namesFingerprint .sorted rm ∅ (.ok (middlewareList .literal false
        (some ⟨"default", "pool", "main"⟩) [] [] [cpuPod "pool" [0], cpuPod "web" [0, 1, 1]]))).1.zones
        = some zones
      ∧ ∃ zone, zones[0]? = some zone ∧ ∃ info ∈ zone.resources, info.name = resourceCPU
        ∧ info.allocatable = 2 ∧ info.available = 1 := by
  obtain ⟨rm₀, rm, hnew, hrun⟩ := timeout_run
  have hpods : RegularPods rm
      (keptPods .literal [] [] [cpuPod "pool" [0], cpuPod "web" [0, 1, 1]]) := .of_cpus (by decide)
  obtain ⟨zones, hzones, -, haccount⟩ := pipeline_accounting_exact hnew hrun rfl
    regularAnswer_nicAllocatable .literal false (some ⟨"default", "pool", "main"⟩) [] [] hpods
    namesFingerprint .sorted ∅
  obtain ⟨zone, hzone, -, -, hreported, hfigures⟩ := haccount 0 (by decide)
  obtain ⟨info, hinfo, hname⟩ := hreported resourceCPU (.inr (.inl ⟨rfl, 0, by decide, by decide⟩))
    (not_excluded_empty _ _)
  obtain ⟨-, -, hallocatable, havailable⟩ := hfigures info hinfo
  rw [hname] at hallocatable havailable
  have htwo : info.allocatable = 2 := hallocatable.trans (by decide)
  refine ⟨rm, zones, hzones, zone, hzone, info, hinfo, hname, htwo, ?_⟩
  rw [havailable, htwo]
  decide

end TopologyExporter
