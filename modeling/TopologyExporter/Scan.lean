/-
TopologyExporter/Scan.lean

What a scan publishes.

The zones are a function of three figures for each node `k` and resource `r`:
what the kubelet reports allocatable, what the watched containers hold, and
whether `r` is excluded.  The first part brings a zone into that form
(`mem_scanZone_iff`, `names_scanZone`).  The second part evaluates the figures
for the answers a kubelet gives: `scan_accounting_exact` says that allocatable
and available are plain sums over the kubelet's lists, with no trace of the
synthetic entries, the printed sizes or the wrapping accumulators in between.
-/
import TopologyExporter.Refresh

namespace TopologyExporter

open GoMap GoInt

/-! ### Watched containers -/

/-- The containers of the pods in the watched namespace. -/
def watchedContainers (podRes : List PodResources) («namespace» : String) :
    List ContainerResources :=
  (podRes.filter fun pr => «namespace» = "" ∨ «namespace» = pr.namespace).flatMap
    fun pr => pr.containers

/-- What a container asks of resource `r` on node `k`. -/
def containerDemand (coreIDToNodeIDMap : GoMap Int Int) (k : Int) (r : String)
    (cnt : ContainerResources) : Int :=
  listsDemand coreIDToNodeIDMap k r cnt.devices cnt.cpuIds cnt.memory

/-- The demand of all containers; the enumeration orders have dropped out. -/
theorem demand_getAllContainerDevices (ord : Nat → Nat → RangeOrder Int (List String))
    (podRes : List PodResources) («namespace» : String) (coreIDToNodeIDMap : GoMap Int Int)
    (k : Int) (r : String) :
    demand (getAllContainerDevices ord podRes «namespace» coreIDToNodeIDMap) k r
      = ((watchedContainers podRes «namespace»).map
          (containerDemand coreIDToNodeIDMap k r)).sum := by
  have hcnt : ∀ (i : Nat) (l : List ContainerResources) (j : Nat),
      ((l.zipIdx j).map fun x => demand (normalizeContainerDevices (ord i x.2) x.1.devices
        x.1.memory x.1.cpuIds coreIDToNodeIDMap) k r).sum
      = (l.map (containerDemand coreIDToNodeIDMap k r)).sum := by
    intro i l
    induction l with
    | nil => intro j; rfl
    | cons cnt l ih =>
        intro j
        rw [List.zipIdx_cons, List.map_cons, List.sum_cons, ih,
          demand_normalizeContainerDevices]
        rfl
  have hpod : ∀ (l : List PodResources) (i : Nat),
      demand ((l.zipIdx i).flatMap fun x =>
        if «namespace» ≠ "" ∧ «namespace» ≠ x.1.namespace then []
        else x.1.containers.zipIdx.flatMap fun y => normalizeContainerDevices (ord x.2 y.2)
          y.1.devices y.1.memory y.1.cpuIds coreIDToNodeIDMap) k r
      = ((watchedContainers l «namespace»).map
          (containerDemand coreIDToNodeIDMap k r)).sum := by
    intro l
    induction l with
    | nil => intro i; rfl
    | cons pr l ih =>
        intro i
        rw [List.zipIdx_cons, List.flatMap_cons, demand_append, ih]
        -- a pod is skipped as a whole, or all its containers are normalized
        by_cases hns : «namespace» = "" ∨ «namespace» = pr.namespace
        · rw [if_neg (by tauto), demand_flatMap, hcnt]
          simp [watchedContainers, hns]
        · rw [if_pos (by tauto)]
          simp [watchedContainers, hns]
  exact hpod podRes 0

/-- The demand of several containers is that of their lists put together. -/
theorem sum_containerDemand_flatten (coreIDToNodeIDMap : GoMap Int Int) (k : Int) (r : String)
    (cnts : List ContainerResources) :
    (cnts.map (containerDemand coreIDToNodeIDMap k r)).sum
      = listsDemand coreIDToNodeIDMap k r (cnts.flatMap fun cnt => cnt.devices)
          (cnts.flatMap fun cnt => cnt.cpuIds) (cnts.flatMap fun cnt => cnt.memory) := by
  induction cnts with
  | nil => simp [listsDemand, cpuCount]
  | cons cnt cnts ih =>
      rw [List.map_cons, List.sum_cons, ih]
      simp only [containerDemand, listsDemand, cpuCount, List.flatMap_cons, demand_append,
        List.countP_append, List.map_append, List.sum_append]
      split_ifs
      · push_cast
        ring
      · ring

/-! ### Exclusions -/

/-- A resource is excluded under `*` or under the name of the node. -/
def Excluded (excludeList : ResourceExclude) (nodeName resName : String) : Prop :=
  resName ∈ getD excludeList "*" [] ∨ resName ∈ getD excludeList nodeName []

theorem inExcludeSet_toMapSet (ord : RangeOrder String (List String))
    (excludeList : ResourceExclude) (resName nodeName : String) :
    inExcludeSet (toMapSet ord excludeList) resName nodeName = true
      ↔ Excluded excludeList nodeName resName := by
  have hlookup : ∀ key, (toMapSet ord excludeList).lookup key
      = (excludeList.lookup key).map List.toFinset := fun key =>
    lookup_foldl_insert (ord.enumerates excludeList) List.toFinset key
  simp only [inExcludeSet, hlookup, Bool.or_eq_true]
  -- one entry of the list at a time
  refine or_congr ?_ ?_
  · rw [getD]
    rcases excludeList.lookup "*" with - | l <;> simp
  · rw [getD]
    rcases excludeList.lookup nodeName with - | l <;> simp

/-! ### One zone -/

section Zone

variable (ord : RangeOrder String Int) (rm : ResourceMonitor)
variable (excludeSet : GoMap String (Finset String)) (allocated : PerNUMAResourceCounter)
variable (nodeID : Nat)

/-- The resources of a zone, by name: those the zone's counters have, without
the excluded ones. -/
theorem names_scanZone :
    (scanZone ord rm excludeSet allocated nodeID).resources.map (fun info => info.name)
      = ((ord.range (zoneCounters rm nodeID)).map Prod.fst).filter fun resName =>
          !inExcludeSet excludeSet resName rm.nodeName := by
  show ((ord.range (zoneCounters rm nodeID)).filterMap _).map _ = _
  induction ord.range (zoneCounters rm nodeID) with
  | nil => rfl
  | cons e l ih =>
      by_cases hex : inExcludeSet excludeSet e.1 rm.nodeName = true
      · simpa [hex] using ih
      · simpa [hex, scanResource] using ih

theorem nodup_names_scanZone :
    ((scanZone ord rm excludeSet allocated nodeID).resources.map fun info => info.name).Nodup := by
  rw [names_scanZone]
  exact (ord.enumerates _).nodup.filter _

/-- The entries of a zone. -/
theorem mem_scanZone_iff (info : ResourceInfo) :
    info ∈ (scanZone ord rm excludeSet allocated nodeID).resources
      ↔ ∃ resName resAlloc, (zoneCounters rm nodeID).lookup resName = some resAlloc
          ∧ ¬ inExcludeSet excludeSet resName rm.nodeName = true
          ∧ info = scanResource (getD rm.nodeCapacity nodeID ∅) allocated nodeID
              resName resAlloc := by
  show info ∈ (ord.range (zoneCounters rm nodeID)).filterMap _ ↔ _
  rw [List.mem_filterMap]
  constructor
  · rintro ⟨⟨resName, resAlloc⟩, hmem, hinfo⟩
    by_cases hex : inExcludeSet excludeSet resName rm.nodeName = true
    · simp [hex] at hinfo
    · have hsome := (if_neg hex).symm.trans hinfo
      exact ⟨resName, resAlloc, ((ord.enumerates _).mem_iff _ _).mp hmem, hex,
        (Option.some.inj hsome).symm⟩
  · rintro ⟨resName, resAlloc, hlookup, hex, rfl⟩
    exact ⟨(resName, resAlloc), ((ord.enumerates _).mem_iff _ _).mpr hlookup, if_neg hex⟩

end Zone

/-- The counters a zone is built from: what the entries mention on the node, or
the substitute for a node that they never mention. -/
theorem lookup_zoneCounters_iff {rm : ResourceMonitor} {devices : List ContainerDevices}
    (h : rm.nodeAllocatable = containerDevicesToPerNUMAResourceCounters devices) (k : Int)
    (r : String) (quan : Int) :
    (zoneCounters rm k).lookup r = some quan
      ↔ (Mentions devices k r ∨ (r = resourceCPU ∧ ∀ r', ¬ Mentions devices k r'))
        ∧ quan = counted r (demand devices k r) := by
  have hcell := cell_counters devices k r
  have hgetD := cell_counters_getD devices k r
  have hnone := @lookup_counters_eq_none_iff devices k
  rw [← h] at hcell hgetD hnone
  unfold zoneCounters
  rcases hk : rm.nodeAllocatable.lookup k with - | rc
  · -- the substitute; the demand for an unmentioned CPU is zero
    have hno := hnone.mp hk
    have hzero : counted r (demand devices k r) = 0 := by
      rw [← hgetD, cell, hk]
      rfl
    rw [hzero]
    show ((∅ : ResourceCounter).insert resourceCPU 0).lookup r = some quan ↔ _
    rw [lookup_insert_eq]
    by_cases hr : r = resourceCPU
    · rw [if_pos hr, Option.some.injEq]
      exact ⟨fun hq => ⟨.inr ⟨hr, hno⟩, hq.symm⟩, fun hq => hq.2.symm⟩
    · rw [if_neg hr]
      constructor
      · intro hq
        cases hq
      · rintro ⟨hr' | hr', -⟩
        · exact absurd hr' (hno r)
        · exact absurd hr'.1 hr
  · show rc.lookup r = some quan ↔ _
    have hrc : rc.lookup r = cell rm.nodeAllocatable k r := by rw [cell, hk]; rfl
    have hsome : ¬ ∀ r', ¬ Mentions devices k r' := fun hno => by
      rw [hnone.mpr hno] at hk
      cases hk
    rw [hrc, hcell]
    by_cases hm : Mentions devices k r
    · simp [hm, eq_comm]
    · simp [hm, hsome]

/-- The available figure of an entry. -/
theorem scanResource_available (resCapCounters : ResourceCounter)
    (allDevs : List ContainerDevices) (k : Int) (r : String) (resAlloc : Int) :
    (scanResource resCapCounters (containerDevicesToPerNUMAResourceCounters allDevs) k r
        resAlloc).available
      = max 0 (sub resAlloc (counted r (demand allDevs k r))) := by
  show (if sub resAlloc _ < 0 then (0 : Int) else sub resAlloc _) = _
  rw [cell_counters_getD]
  split_ifs with hneg
  · exact (max_eq_left (le_of_lt hneg)).symm
  · exact (max_eq_right (not_lt.mp hneg)).symm

/-- The capacity of an entry: a figure of zero stands for a missing one, and one below
the allocatable figure is not trusted. -/
theorem scanResource_capacity_eq (resCapCounters : ResourceCounter)
    (allocated : PerNUMAResourceCounter) (k : Int) (r : String) (resAlloc : Int) :
    (scanResource resCapCounters allocated k r resAlloc).capacity
      = if (resCapCounters.lookup r).getD 0 = 0 ∨ (resCapCounters.lookup r).getD 0 < resAlloc
        then resAlloc else (resCapCounters.lookup r).getD 0 := by
  simp only [scanResource]
  rcases resCapCounters.lookup r with - | c
  · simp
  · by_cases hc : c = 0
    · simp [hc]
    · simp [hc]

/-! ### All zones -/

theorem scan_zones (pfp : PodFingerprint) (ord : ScanOrders) (rm : ResourceMonitor)
    (excludeList : ResourceExclude) (podRes : List PodResources) :
    (scan pfp ord rm excludeList (.ok podRes)).1.zones
        = some (scanZones ord rm excludeList podRes)
      ∧ (scan pfp ord rm excludeList (.ok podRes)).2 = none := by
  rcases hfp : scanFingerprint pfp rm podRes with - | pfpSign
  · simp [scan, hfp]
  · simp [scan, hfp]

theorem length_scanZones (ord : ScanOrders) (rm : ResourceMonitor)
    (excludeList : ResourceExclude) (podRes : List PodResources) :
    (scanZones ord rm excludeList podRes).length = rm.topo.nodes.length := by
  simp [scanZones]

/-- The zone at a position. -/
theorem getElem?_scanZones (ord : ScanOrders) (rm : ResourceMonitor)
    (excludeList : ResourceExclude) (podRes : List PodResources) {nodeID : Nat}
    (h : nodeID < rm.topo.nodes.length) :
    (scanZones ord rm excludeList podRes)[nodeID]?
      = some (scanZone (ord.resources nodeID) rm (toMapSet ord.excludes excludeList)
          (containerDevicesToPerNUMAResourceCounters (getAllContainerDevices ord.cpus podRes
            rm.args.namespace rm.coreIDToNodeIDMap)) nodeID) := by
  simp [scanZones, h]

/-- The zone at a position, and where its entries come from. -/
theorem scanZones_cases {ord : ScanOrders} {rm : ResourceMonitor} {excludeList : ResourceExclude}
    {podRes : List PodResources} {nodeID : Nat} {zone : Zone}
    (h : (scanZones ord rm excludeList podRes)[nodeID]? = some zone) :
    nodeID < rm.topo.nodes.length
      ∧ ∀ info, info ∈ zone.resources ↔ ∃ resName resAlloc,
          (zoneCounters rm nodeID).lookup resName = some resAlloc
          ∧ ¬ Excluded excludeList rm.nodeName resName
          ∧ info = scanResource (getD rm.nodeCapacity nodeID ∅)
              (containerDevicesToPerNUMAResourceCounters (getAllContainerDevices ord.cpus podRes
                rm.args.namespace rm.coreIDToNodeIDMap)) nodeID resName resAlloc := by
  have hlt : nodeID < rm.topo.nodes.length := by
    have hlen := (List.getElem?_eq_some_iff.mp h).1
    rwa [length_scanZones] at hlen
  rw [getElem?_scanZones ord rm excludeList podRes hlt] at h
  obtain rfl := Option.some.inj h
  refine ⟨hlt, fun info => ?_⟩
  rw [mem_scanZone_iff]
  simp only [inExcludeSet_toMapSet]

/-! ### The kubelet's lists -/

/-- Memory blocks are memory or hugepages, on one NUMA node each; devices are
neither CPUs nor memory. -/
structure Regular (devices : List ContainerDevices) (memory : List ContainerMemory) : Prop where
  device : ∀ device ∈ devices, isNativeResource device.resourceName = false
  block : ∀ block ∈ memory, isMemoryResource block.memoryType = true
    ∧ (getNodes block.topology).length = 1

/-- The device IDs of resource `r` on node `k`.  An entry counts once for each
time it names the node. -/
def deviceIDCount (k : Int) (r : String) (devices : List ContainerDevices) : Nat :=
  ((devices.filter fun device => device.resourceName = r).map fun device =>
    nodeCount device.topology k * device.deviceIds.length).sum

/-- The bytes of the blocks of type `r` on node `k`. -/
def blockBytes (k : Int) (r : String) (memory : List ContainerMemory) : Nat :=
  ((memory.filter fun block => block.memoryType = r ∧ 0 < nodeCount block.topology k).map
    fun block => block.size.toNat).sum

/-- How much of resource `r` on node `k` the lists hold. -/
def held (coreIDToNodeIDMap : GoMap Int Int) (k : Int) (r : String)
    (devices : List ContainerDevices) (cpuIds : List Int) (memory : List ContainerMemory) : Nat :=
  if r = resourceCPU then cpuCount coreIDToNodeIDMap cpuIds k
  else if isMemoryResource r then blockBytes k r memory
  else deviceIDCount k r devices

/-- The lists report resource `r` on node `k`.  An empty memory block reports
nothing. -/
def Reports (coreIDToNodeIDMap : GoMap Int Int) (k : Int) (r : String)
    (devices : List ContainerDevices) (cpuIds : List Int) (memory : List ContainerMemory) : Prop :=
  Mentions devices k r
    ∨ (r = resourceCPU ∧ ∃ cpuID ∈ cpuIds, coreIDToNodeIDMap.lookup cpuID = some k)
    ∨ ∃ block ∈ memory, block.size ≠ 0 ∧ block.memoryType = r
        ∧ ∃ node ∈ getNodes block.topology, node.id = k

theorem demand_eq_deviceIDCount {devices : List ContainerDevices}
    (h : ∀ device ∈ devices, isNativeResource device.resourceName = false) (k : Int)
    (r : String) : demand devices k r = deviceIDCount k r devices := by
  induction devices with
  | nil => rfl
  | cons device devices ih =>
      have hmem : isMemoryResource device.resourceName = false := by
        have hnative := h device (by simp)
        rw [isNativeResource_eq, Bool.or_eq_false_iff] at hnative
        exact hnative.2
      rw [demand_cons, ih fun d hd => h d (by simp [hd])]
      unfold deviceIDCount entryDemand
      by_cases hr : device.resourceName = r
      · simp [hr, entryAmount, hr ▸ hmem]
      · simp [hr]

theorem deviceIDCount_eq_zero {devices : List ContainerDevices}
    (h : ∀ device ∈ devices, isNativeResource device.resourceName = false) (k : Int)
    {r : String} (hr : isNativeResource r = true) : deviceIDCount k r devices = 0 := by
  have hnil : devices.filter (fun device => device.resourceName = r) = [] := by
    rw [List.filter_eq_nil_iff]
    intro device hd he
    rw [← of_decide_eq_true he, h device hd] at hr
    cases hr
  rw [deviceIDCount, hnil]
  rfl

theorem blockBytes_eq_zero {memory : List ContainerMemory}
    (h : ∀ block ∈ memory, isMemoryResource block.memoryType = true
      ∧ (getNodes block.topology).length = 1) (k : Int)
    {r : String} (hr : isMemoryResource r = false) : blockBytes k r memory = 0 := by
  have hnil : memory.filter (fun block => block.memoryType = r
      ∧ 0 < nodeCount block.topology k) = [] := by
    rw [List.filter_eq_nil_iff]
    intro block hb he
    rw [← (of_decide_eq_true he).1, (h block hb).1] at hr
    cases hr
  rw [blockBytes, hnil]
  rfl

/-- Printing and parsing the sizes is exact as long as the total fits. -/
theorem sum_blockDemand {memory : List ContainerMemory}
    (h : ∀ block ∈ memory, isMemoryResource block.memoryType = true
      ∧ (getNodes block.topology).length = 1) {k : Int} {r : String}
    (hbytes : blockBytes k r memory < 2 ^ 63) :
    (memory.map (blockDemand k r)).sum = blockBytes k r memory := by
  induction memory with
  | nil => rfl
  | cons block memory ih =>
      have hone : nodeCount block.topology k ≤ 1 := by
        rw [← (h block (by simp)).2]
        exact List.countP_le_length
      have hsplit : blockBytes k r (block :: memory)
          = (if block.memoryType = r ∧ 0 < nodeCount block.topology k then block.size.toNat
              else 0) + blockBytes k r memory := by
        unfold blockBytes
        by_cases hb : block.memoryType = r ∧ 0 < nodeCount block.topology k
        · simp [hb]
        · simp only [List.filter_cons, hb, decide_false, Bool.false_eq_true, if_false, Nat.zero_add]
      rw [hsplit] at hbytes ⊢
      have hfits : block.memoryType = r → nodeCount block.topology k ≠ 0 →
          isMemoryResource r = true ∧ block.size.toNat < 2 ^ 63 := by
        intro hname hcount
        rw [if_pos ⟨hname, Nat.pos_of_ne_zero hcount⟩] at hbytes
        exact ⟨hname ▸ (h block List.mem_cons_self).1, by omega⟩
      rw [List.map_cons, List.sum_cons, ih (fun b hb => h b (List.mem_cons_of_mem _ hb)) (by omega),
        blockDemand_of_fits hfits, Nat.cast_add]
      congr 1
      -- the block names the node once or not at all
      rcases Nat.le_one_iff_eq_zero_or_eq_one.mp hone with hcount | hcount
      · simp [hcount]
      · simp [hcount]

/-- **On regular lists the demand is what they hold.** -/
theorem listsDemand_eq_held {devices : List ContainerDevices} {memory : List ContainerMemory}
    (h : Regular devices memory) (coreIDToNodeIDMap : GoMap Int Int) (cpuIds : List Int)
    {k : Int} {r : String} (hbytes : blockBytes k r memory < 2 ^ 63) :
    listsDemand coreIDToNodeIDMap k r devices cpuIds memory
      = held coreIDToNodeIDMap k r devices cpuIds memory := by
  rw [listsDemand, demand_eq_deviceIDCount h.device, sum_blockDemand h.block hbytes, held]
  -- at most one of the three kinds of entries is about `r`
  by_cases hcpu : r = resourceCPU
  · subst hcpu
    rw [if_pos rfl, if_pos rfl, deviceIDCount_eq_zero h.device k (by decide),
      blockBytes_eq_zero h.block k isMemoryResource_cpu]
    simp
  · rw [if_neg hcpu, if_neg hcpu]
    by_cases hmem : isMemoryResource r = true
    · have hnative : isNativeResource r = true := by simp [isNativeResource_eq, hmem]
      rw [if_pos hmem, deviceIDCount_eq_zero h.device k hnative]
      simp
    · rw [if_neg hmem, blockBytes_eq_zero h.block k (Bool.not_eq_true _ ▸ hmem)]
      simp

/-- How much of resource `r` on node `k` the watched containers hold. -/
def used (rm : ResourceMonitor) (podRes : List PodResources) (k : Int) (r : String) : Nat :=
  ((watchedContainers podRes rm.args.namespace).map fun cnt =>
    held rm.coreIDToNodeIDMap k r cnt.devices cnt.cpuIds cnt.memory).sum

/-- The bytes of type `r` on node `k` of the watched containers. -/
def usedBytes (rm : ResourceMonitor) (podRes : List PodResources) (k : Int) (r : String) : Nat :=
  ((watchedContainers podRes rm.args.namespace).map fun cnt => blockBytes k r cnt.memory).sum

theorem sum_containerDemand (coreIDToNodeIDMap : GoMap Int Int) {k : Int} {r : String}
    {cnts : List ContainerResources} (h : ∀ cnt ∈ cnts, Regular cnt.devices cnt.memory)
    (hbytes : (cnts.map fun cnt => blockBytes k r cnt.memory).sum < 2 ^ 63) :
    (cnts.map (containerDemand coreIDToNodeIDMap k r)).sum
      = ((cnts.map fun cnt =>
          held coreIDToNodeIDMap k r cnt.devices cnt.cpuIds cnt.memory).sum : Nat) := by
  induction cnts with
  | nil => rfl
  | cons cnt cnts ih =>
      rw [List.map_cons, List.sum_cons] at hbytes
      rw [List.map_cons, List.sum_cons, ih (fun c hc => h c (by simp [hc])) (by omega),
        List.map_cons, List.sum_cons, Nat.cast_add, containerDemand,
        listsDemand_eq_held (h cnt (by simp)) _ _ (by omega)]

/-- A counter shows a total exactly if it is not memory or fits. -/
theorem counted_natCast {r : String} {total bytes : Nat}
    (h : isMemoryResource r = true → total = bytes) (hbytes : bytes < 2 ^ 63) :
    counted r (total : Int) = total := by
  unfold counted
  split_ifs with hr
  · rw [h hr]
    exact wrap_of_inRange ⟨by omega, by omega⟩
  · rfl

theorem held_of_isMemoryResource {r : String} (hr : isMemoryResource r = true)
    (coreIDToNodeIDMap : GoMap Int Int) (k : Int) (devices : List ContainerDevices)
    (cpuIds : List Int) (memory : List ContainerMemory) :
    held coreIDToNodeIDMap k r devices cpuIds memory = blockBytes k r memory := by
  have hcpu : r ≠ resourceCPU := by
    rintro rfl
    rw [isMemoryResource_cpu] at hr
    cases hr
  rw [held, if_neg hcpu, if_pos hr]

/-! ### Exact accounting -/

/-- The account of node `k` that a scan owes to the kubelet's answers. -/
structure ZoneAccount (rm : ResourceMonitor) (allocRes : AllocatableResourcesResponse)
    (podRes : List PodResources) (excludeList : ResourceExclude) (k : Int) (zone : Zone) :
    Prop where
  name : zone.name = makeZoneName k
  once : (zone.resources.map fun info => info.name).Nodup
  reported : ∀ r, Reports rm.coreIDToNodeIDMap k r allocRes.devices allocRes.cpuIds
      allocRes.memory → ¬ Excluded excludeList rm.nodeName r →
    ∃ info ∈ zone.resources, info.name = r
  excluded : ∀ info ∈ zone.resources, ¬ Excluded excludeList rm.nodeName info.name
  others : ∀ info ∈ zone.resources, ¬ Reports rm.coreIDToNodeIDMap k info.name allocRes.devices
      allocRes.cpuIds allocRes.memory → info.name = resourceCPU ∧ info.allocatable = 0
  allocatable : ∀ info ∈ zone.resources, info.allocatable
    = held rm.coreIDToNodeIDMap k info.name allocRes.devices allocRes.cpuIds allocRes.memory
  available : ∀ info ∈ zone.resources,
    info.available = max 0 (info.allocatable - used rm podRes k info.name)

section Accounting

variable {rm : ResourceMonitor} {allocRes : AllocatableResourcesResponse}
variable {podRes : List PodResources}

/-- The allocatable figure of a zone's entry is what the kubelet's answer holds. -/
theorem lookup_zoneCounters_held {ord : RangeOrder Int (List String)}
    (hstored : rm.nodeAllocatable = containerDevicesToPerNUMAResourceCounters
      (normalizeContainerDevices ord allocRes.devices allocRes.memory allocRes.cpuIds
        rm.coreIDToNodeIDMap))
    (halloc : Regular allocRes.devices allocRes.memory)
    (hallocBytes : ∀ k r, blockBytes k r allocRes.memory < 2 ^ 63) {k : Int} {r : String}
    {quan : Int} (hlookup : (zoneCounters rm k).lookup r = some quan) :
    quan = held rm.coreIDToNodeIDMap k r allocRes.devices allocRes.cpuIds allocRes.memory := by
  rw [((lookup_zoneCounters_iff hstored _ _ _).mp hlookup).2, demand_normalizeContainerDevices,
    listsDemand_eq_held halloc _ _ (hallocBytes k r)]
  exact counted_natCast (fun hr => held_of_isMemoryResource hr ..) (hallocBytes k r)

/-- The used figure of a zone's entry is what the watched containers hold. -/
theorem counted_demand_used
    (hpods : ∀ cnt ∈ watchedContainers podRes rm.args.namespace, Regular cnt.devices cnt.memory)
    (husedBytes : ∀ k r, usedBytes rm podRes k r < 2 ^ 63)
    (cpus : Nat → Nat → RangeOrder Int (List String)) (k : Int) (r : String) :
    counted r (demand (getAllContainerDevices cpus podRes rm.args.namespace
      rm.coreIDToNodeIDMap) k r) = used rm podRes k r := by
  rw [demand_getAllContainerDevices, sum_containerDemand _ hpods (husedBytes k r)]
  refine counted_natCast (fun hr => ?_) (husedBytes k r)
  simp only [usedBytes, held_of_isMemoryResource hr]

/-- A zone is the account of its node. -/
theorem zoneAccount_scanZone {ord : RangeOrder Int (List String)}
    (hstored : rm.nodeAllocatable = containerDevicesToPerNUMAResourceCounters
      (normalizeContainerDevices ord allocRes.devices allocRes.memory allocRes.cpuIds
        rm.coreIDToNodeIDMap))
    (halloc : Regular allocRes.devices allocRes.memory)
    (hpods : ∀ cnt ∈ watchedContainers podRes rm.args.namespace, Regular cnt.devices cnt.memory)
    (hallocBytes : ∀ k r, blockBytes k r allocRes.memory < 2 ^ 63)
    (husedBytes : ∀ k r, usedBytes rm podRes k r < 2 ^ 63)
    (sord : ScanOrders) (excludeList : ResourceExclude) (nodeID : Nat) :
    ZoneAccount rm allocRes podRes excludeList nodeID
      (scanZone (sord.resources nodeID) rm (toMapSet sord.excludes excludeList)
        (containerDevicesToPerNUMAResourceCounters (getAllContainerDevices sord.cpus podRes
          rm.args.namespace rm.coreIDToNodeIDMap)) nodeID) where
  name := rfl
  once := nodup_names_scanZone ..
  reported := by
    intro r hr hex
    rw [Reports, ← mentions_normalizeContainerDevices ord] at hr
    have hlookup := (lookup_zoneCounters_iff hstored nodeID r _).mpr ⟨.inl hr, rfl⟩
    refine ⟨_, (mem_scanZone_iff ..).mpr ⟨r, _, hlookup, ?_, rfl⟩, rfl⟩
    rw [inExcludeSet_toMapSet]
    exact hex
  excluded := by
    intro info hinfo
    obtain ⟨r, quan, -, hex, rfl⟩ := (mem_scanZone_iff ..).mp hinfo
    rw [inExcludeSet_toMapSet] at hex
    exact hex
  others := by
    intro info hinfo hnot
    obtain ⟨r, quan, hlookup, -, rfl⟩ := (mem_scanZone_iff ..).mp hinfo
    obtain ⟨hment, hquan⟩ := (lookup_zoneCounters_iff hstored _ _ _).mp hlookup
    have hno := mt (mentions_normalizeContainerDevices ord _ _ _ _ nodeID r).mp hnot
    refine ⟨(hment.resolve_left hno).1, ?_⟩
    -- an entry that is not there asks for nothing
    show quan = 0
    rw [hquan, ← cell_counters_getD, cell_counters, if_neg hno]
    rfl
  allocatable := by
    intro info hinfo
    obtain ⟨r, quan, hlookup, -, rfl⟩ := (mem_scanZone_iff ..).mp hinfo
    exact lookup_zoneCounters_held hstored halloc hallocBytes hlookup
  available := by
    intro info hinfo
    obtain ⟨r, quan, hlookup, -, rfl⟩ := (mem_scanZone_iff ..).mp hinfo
    have hquan := lookup_zoneCounters_held hstored halloc hallocBytes hlookup
    rw [scanResource_available, counted_demand_used hpods husedBytes]
    show max 0 (sub quan _) = max 0 (quan - _)
    rw [hquan, sub_of_nonneg (Int.natCast_nonneg _) (Int.natCast_nonneg _)]
    rfl

/-- **The accounting of a scan is exact.**  After a successful refresh on a
machine with contiguous IDs, there is one zone per node, and each is the account
of that node: on regular answers whose memory totals fit an `int64`, allocatable
is what the kubelet's answer holds and available is that minus what the watched
containers hold, clamped at zero. -/
theorem scan_accounting_exact (pfp : PodFingerprint) {rord : RefreshOrders}
    {mem : Except String MemoryResourceCounters} {rm₀ : ResourceMonitor}
    (hids : ContiguousIDs rm₀.topo)
    (hrefresh : updateNodeResources rord mem (.ok allocRes) rm₀ = .ok (rm, none))
    (halloc : Regular allocRes.devices allocRes.memory)
    (hpods : ∀ cnt ∈ watchedContainers podRes rm.args.namespace, Regular cnt.devices cnt.memory)
    (hallocBytes : ∀ k r, blockBytes k r allocRes.memory < 2 ^ 63)
    (husedBytes : ∀ k r, usedBytes rm podRes k r < 2 ^ 63)
    (sord : ScanOrders) (excludeList : ResourceExclude) :
    ∃ zones, (scan pfp sord rm excludeList (.ok podRes)).1.zones = some zones
      ∧ (scan pfp sord rm excludeList (.ok podRes)).2 = none
      ∧ zones.length = rm₀.topo.nodes.length
      ∧ ∀ node ∈ rm₀.topo.nodes, ∃ zone, zones[node.id.toNat]? = some zone
          ∧ ZoneAccount rm allocRes podRes excludeList node.id zone := by
  obtain ⟨memCounters, rfl⟩ := updateNodeResources_inv hids hrefresh
  obtain ⟨hzones, herr⟩ := scan_zones pfp sord _ excludeList podRes
  refine ⟨_, hzones, herr, length_scanZones .., fun node hnode => ?_⟩
  obtain ⟨hnonneg, hlt⟩ := (hids.mem_iff node.id).mp (List.mem_map_of_mem hnode)
  obtain ⟨k, hk⟩ := Int.eq_ofNat_of_zero_le hnonneg
  rw [hk] at hlt ⊢
  refine ⟨_, getElem?_scanZones sord _ excludeList podRes (Int.ofNat_lt.mp hlt), ?_⟩
  exact zoneAccount_scanZone rfl halloc hpods hallocBytes husedBytes sord excludeList k

end Accounting

/-! ### A two-node machine -/

/-- A machine with nodes 1 and 0, in this order, and two CPUs on each. -/
def twoNodeTopology : MachineTopology :=
  ⟨[⟨1, [⟨[2, 3]⟩], [20, 10]⟩, ⟨0, [⟨[0, 1]⟩], [10, 20]⟩]⟩

/-- CPU 0 is reserved; the network devices are local to both nodes. -/
def twoNodeAllocatable : AllocatableResourcesResponse where
  devices := [⟨"vendor.com/nic", ["nic0", "nic1"], some ⟨[⟨0⟩, ⟨1⟩]⟩⟩]
  cpuIds := [1, 2, 3]
  memory := [⟨"memory", 1024, some ⟨[⟨0⟩]⟩⟩]

/-- One pod with a CPU, a device and some memory. -/
def twoNodePods : List PodResources :=
  [⟨"pod", "default", [⟨"cnt", [⟨"vendor.com/nic", ["nic0"], some ⟨[⟨0⟩, ⟨1⟩]⟩⟩], [2],
    [⟨"memory", 512, some ⟨[⟨0⟩]⟩⟩]⟩]⟩]

/-- A fingerprint that lists the names of the pods. -/
def namesFingerprint : PodFingerprint where
  methodAll := "all"
  attributeName := "nodeTopologyPodsFingerprint"
  attributeMethod := "nodeTopologyPodsFingerprintMethod"
  annotation := "topology.node.k8s.io/fingerprint"
  sign := fun podRes => String.join (podRes.map fun pr => pr.name)

/-- The exact accounting on the two-node machine. -/
theorem scan_accounting_exact_two_nodes :
    ∃ rm zones, updateNodeResources .sorted (.ok ∅) (.ok twoNodeAllocatable)
          (initialMonitor "worker" ⟨"", true, "with-exclusive-resources"⟩ twoNodeTopology)
        = .ok (rm, none)
      ∧ (scan namesFingerprint .sorted rm ∅ (.ok twoNodePods)).1.zones = some zones
      ∧ zones.length = 2
      ∧ ∀ node ∈ twoNodeTopology.nodes, ∃ zone, zones[node.id.toNat]? = some zone
          ∧ ZoneAccount rm twoNodeAllocatable twoNodePods ∅ node.id zone := by
  have hids : ContiguousIDs twoNodeTopology := by decide
  have hrefresh := updateNodeResources_ok .sorted ∅ twoNodeAllocatable
    (initialMonitor "worker" ⟨"", true, "with-exclusive-resources"⟩ twoNodeTopology) hids
    (by decide)
  have hone : ∀ (block : ContainerMemory) k r, block.size.toNat < 2 ^ 63 →
      blockBytes k r [block] < 2 ^ 63 := by
    intro block k r hsize
    unfold blockBytes
    by_cases hb : block.memoryType = r ∧ 0 < nodeCount block.topology k
    · simpa [hb] using hsize
    · simp only [List.filter_cons, hb, decide_false, Bool.false_eq_true, if_false]
      exact Nat.two_pow_pos 63
  have hwatched : watchedContainers twoNodePods "" = [⟨"cnt",
      [⟨"vendor.com/nic", ["nic0"], some ⟨[⟨0⟩, ⟨1⟩]⟩⟩], [2],
      [⟨"memory", 512, some ⟨[⟨0⟩]⟩⟩]⟩] := by decide
  have hpods : ∀ cnt ∈ watchedContainers twoNodePods "", Regular cnt.devices cnt.memory := by
    intro cnt hcnt
    rw [hwatched, List.mem_singleton] at hcnt
    subst hcnt
    exact ⟨by decide, by decide⟩
  have hused : ∀ k r, ((watchedContainers twoNodePods "").map fun cnt =>
      blockBytes k r cnt.memory).sum < 2 ^ 63 := by
    intro k r
    rw [hwatched]
    exact hone _ k r (by decide)
  obtain ⟨zones, hzones, -, hlen, haccount⟩ := scan_accounting_exact namesFingerprint hids hrefresh
    ⟨by decide, by decide⟩ hpods (fun k r => hone _ k r (by decide)) hused .sorted ∅
  exact ⟨_, zones, hrefresh, hzones, hlen, haccount⟩

end TopologyExporter
