/-
TopologyExporter/ConsistentPods.lean

Pods that hold only what the kubelet has to give are never clamped.

The allocatable figure and the used figure of a resource come from two different
answers of the kubelet, both normalised and counted by the same two passes.  If no
CPU and no device is held twice, and each is allocatable with the same NUMA nodes,
then the held devices are part of the allocatable ones (`deviceTable_subperm`), and
the used figure stays below the allocatable one on every node
(`listsDemand_le_of_consistent`).
-/
import TopologyExporter.NodeIDs

namespace TopologyExporter

open GoMap GoInt

/-! ### The devices of a resource -/

/-- The devices of resource `r`: each ID with the NUMA nodes of its entry. -/
def deviceTable (r : String) (devices : List ContainerDevices) : List (String × List NUMANode) :=
  (devices.filter fun device => device.resourceName = r).flatMap fun device =>
    device.deviceIds.map fun id => (id, getNodes device.topology)

/-- How often a device is on node `k`. -/
def placed (k : Int) (device : String × List NUMANode) : Nat :=
  device.2.countP fun node => node.id = k

theorem mem_deviceTable_iff {r : String} {devices : List ContainerDevices}
    {d : String × List NUMANode} :
    d ∈ deviceTable r devices ↔ ∃ device ∈ devices, device.resourceName = r
      ∧ d.1 ∈ device.deviceIds ∧ getNodes device.topology = d.2 := by
  simp only [deviceTable, List.mem_flatMap, List.mem_filter, decide_eq_true_eq, List.mem_map]
  constructor
  · rintro ⟨device, ⟨hmem, hr⟩, id, hid, rfl⟩
    exact ⟨device, hmem, hr, hid, rfl⟩
  · rintro ⟨device, hmem, hr, hid, hnodes⟩
    exact ⟨device, ⟨hmem, hr⟩, d.1, hid, Prod.ext rfl hnodes⟩

/-- The demand for a resource that is counted by its device IDs, device by device. -/
theorem demand_eq_sum_placed {r : String} (hr : isMemoryResource r = false)
    (devices : List ContainerDevices) (k : Int) :
    demand devices k r = (((deviceTable r devices).map (placed k)).sum : Nat) := by
  induction devices with
  | nil => rfl
  | cons device devices ih =>
      rw [demand_cons, ih, entryDemand]
      by_cases hname : device.resourceName = r
      · have hentry : (device.deviceIds.map fun _ => nodeCount device.topology k).sum
            = device.deviceIds.length * nodeCount device.topology k := by simp
        have hsplit : ((deviceTable r (device :: devices)).map (placed k)).sum
            = device.deviceIds.length * nodeCount device.topology k
              + ((deviceTable r devices).map (placed k)).sum := by
          rw [← hentry]
          simp only [deviceTable, List.filter_cons, hname, decide_true, if_true, List.flatMap_cons,
            List.map_append, List.sum_append, List.map_map]
          rfl
        rw [hsplit, if_pos hname, entryAmount, hname, hr, if_neg Bool.false_ne_true]
        push_cast
        ring
      · rw [if_neg hname, Int.zero_add, deviceTable, deviceTable,
          List.filter_cons_of_neg (by simpa using hname)]

/-! ### Consistent pods -/

/-- All containers of a pod list. -/
def allContainers (podRes : List PodResources) : List ContainerResources :=
  podRes.flatMap fun pr => pr.containers

/-- The device IDs of resource `r` that a list of containers holds. -/
def heldDeviceIDs (r : String) (cnts : List ContainerResources) : List String :=
  ((cnts.flatMap fun cnt => cnt.devices).filter fun device => device.resourceName = r).flatMap
    fun device => device.deviceIds

/-- The pods hold what the kubelet has to give: each CPU and each device once, and with
the NUMA nodes that it has in the allocatable answer. -/
structure HeldOnce (allocRes : AllocatableResourcesResponse) (podRes : List PodResources) :
    Prop where
  cpusOnce : ((allContainers podRes).flatMap fun cnt => cnt.cpuIds).Nodup
  cpus : ∀ cnt ∈ allContainers podRes, ∀ cpuID ∈ cnt.cpuIds, cpuID ∈ allocRes.cpuIds
  devicesOnce : ∀ r, (heldDeviceIDs r (allContainers podRes)).Nodup
  devices : ∀ cnt ∈ allContainers podRes, ∀ device ∈ cnt.devices, ∀ id ∈ device.deviceIds,
    ∃ entry ∈ allocRes.devices, entry.resourceName = device.resourceName ∧ id ∈ entry.deviceIds
      ∧ getNodes entry.topology = getNodes device.topology

/-- The pods hold what the kubelet has to give, and their memory blocks are memory: a block of
another type would be counted as a device of that name. -/
structure ConsistentPods (allocRes : AllocatableResourcesResponse) (podRes : List PodResources) :
    Prop extends HeldOnce allocRes podRes where
  memory : ∀ cnt ∈ allContainers podRes, ∀ block ∈ cnt.memory,
    isMemoryResource block.memoryType = true

theorem watchedContainers_sublist (podRes : List PodResources) («namespace» : String) :
    (watchedContainers podRes «namespace»).Sublist (allContainers podRes) := by
  unfold watchedContainers allContainers
  exact List.filter_sublist.flatMap _

section Consistent

variable {allocRes : AllocatableResourcesResponse} {podRes : List PodResources}
variable {cnts : List ContainerResources}

/-- The held CPUs are part of the allocatable ones. -/
theorem cpuIds_subperm (h : ConsistentPods allocRes podRes)
    (hcnts : cnts.Sublist (allContainers podRes)) :
    (cnts.flatMap fun cnt => cnt.cpuIds).Subperm allocRes.cpuIds := by
  apply List.Nodup.subperm (h.cpusOnce.sublist (hcnts.flatMap _))
  intro cpuID hcpu
  obtain ⟨cnt, hcnt, hmem⟩ := List.mem_flatMap.mp hcpu
  exact h.cpus cnt (hcnts.subset hcnt) cpuID hmem

theorem map_fst_deviceTable (r : String) (devices : List ContainerDevices) :
    (deviceTable r devices).map Prod.fst
      = (devices.filter fun device => device.resourceName = r).flatMap
          fun device => device.deviceIds := by
  rw [deviceTable, List.map_flatMap]
  congr 1
  funext device
  rw [List.map_map]
  exact List.map_id _

/-- The held devices, with their nodes, are part of the allocatable ones. -/
theorem deviceTable_subperm (h : ConsistentPods allocRes podRes)
    (hcnts : cnts.Sublist (allContainers podRes)) (r : String) :
    (deviceTable r (cnts.flatMap fun cnt => cnt.devices)).Subperm
      (deviceTable r allocRes.devices) := by
  have honce : ((deviceTable r (cnts.flatMap fun cnt => cnt.devices)).map Prod.fst).Nodup := by
    rw [map_fst_deviceTable]
    exact (h.devicesOnce r).sublist (((hcnts.flatMap _).filter _).flatMap _)
  -- no ID twice, so no pair of an ID and its nodes twice
  apply List.Nodup.subperm honce.of_map
  intro d hd
  obtain ⟨device, hmem, hr, hid, hnodes⟩ := mem_deviceTable_iff.mp hd
  obtain ⟨cnt, hcnt, hdevice⟩ := List.mem_flatMap.mp hmem
  obtain ⟨entry, hentry, hname, hid', hnodes'⟩ :=
    h.devices cnt (hcnts.subset hcnt) device hdevice d.1 hid
  exact mem_deviceTable_iff.mpr ⟨entry, hentry, hname.trans hr, hid', hnodes'.trans hnodes⟩

theorem sum_map_le_of_subperm {α : Type} {l₁ l₂ : List α} (h : l₁.Subperm l₂) (f : α → Nat) :
    (l₁.map f).sum ≤ (l₂.map f).sum := by
  obtain ⟨l, hperm, hsub⟩ := h
  rw [← (hperm.map f).sum_eq]
  exact (hsub.map f).sum_le_sum fun _ _ => Nat.zero_le _

theorem blockDemand_nonneg (k : Int) (r : String) (block : ContainerMemory) :
    0 ≤ blockDemand k r block := by
  have hamount : 0 ≤ blockAmount block := by
    unfold blockAmount parsedSize
    split_ifs <;> omega
  unfold blockDemand
  split_ifs
  · exact Int.mul_nonneg (Int.natCast_nonneg _) hamount
  · exact le_rfl

/-- **What consistent containers hold is at most what is allocatable**, for CPUs and
for devices, on every node. -/
theorem listsDemand_le_of_consistent (h : ConsistentPods allocRes podRes)
    (hcnts : cnts.Sublist (allContainers podRes)) (coreIDToNodeIDMap : GoMap Int Int) (k : Int)
    {r : String} (hr : isMemoryResource r = false) :
    listsDemand coreIDToNodeIDMap k r (cnts.flatMap fun cnt => cnt.devices)
        (cnts.flatMap fun cnt => cnt.cpuIds) (cnts.flatMap fun cnt => cnt.memory)
      ≤ listsDemand coreIDToNodeIDMap k r allocRes.devices allocRes.cpuIds allocRes.memory := by
  have hdevices : demand (cnts.flatMap fun cnt => cnt.devices) k r
      ≤ demand allocRes.devices k r := by
    rw [demand_eq_sum_placed hr, demand_eq_sum_placed hr]
    exact Int.ofNat_le.mpr (sum_map_le_of_subperm (deviceTable_subperm h hcnts r) (placed k))
  have hcpus : cpuCount coreIDToNodeIDMap (cnts.flatMap fun cnt => cnt.cpuIds) k
      ≤ cpuCount coreIDToNodeIDMap allocRes.cpuIds k :=
    (cpuIds_subperm h hcnts).countP_le _
  -- memory blocks are about another resource
  have hheld : ((cnts.flatMap fun cnt => cnt.memory).map (blockDemand k r)).sum = 0 := by
    refine List.sum_eq_zero fun x hx => ?_
    obtain ⟨block, hblock, rfl⟩ := List.mem_map.mp hx
    obtain ⟨cnt, hcnt, hmem⟩ := List.mem_flatMap.mp hblock
    have hmemory := h.memory cnt (hcnts.subset hcnt) block hmem
    refine if_neg fun hname => ?_
    rw [hname.1, hr] at hmemory
    cases hmemory
  have hblocks : 0 ≤ (allocRes.memory.map (blockDemand k r)).sum := by
    refine List.sum_nonneg fun x hx => ?_
    obtain ⟨block, -, rfl⟩ := List.mem_map.mp hx
    exact blockDemand_nonneg k r block
  unfold listsDemand
  split_ifs <;> omega

end Consistent

/-! ### Scans -/

/-- The used figure of a scan, which is subtracted from the allocatable one. -/
def scanUsed (ord : ScanOrders) (rm : ResourceMonitor) (podRes : List PodResources) (k : Int)
    (r : String) : Int :=
  (cell (containerDevicesToPerNUMAResourceCounters (getAllContainerDevices ord.cpus podRes
    rm.args.namespace rm.coreIDToNodeIDMap)) k r).getD 0

/-- An entry whose used figure is at most the allocatable one adds up. -/
theorem scanResource_adds_up {resCapCounters : ResourceCounter} {allocated : PerNUMAResourceCounter}
    {k : Int} {r : String} {resAlloc : Int} (hused : 0 ≤ (cell allocated k r).getD 0)
    (hle : (cell allocated k r).getD 0 ≤ resAlloc) :
    (scanResource resCapCounters allocated k r resAlloc).available + (cell allocated k r).getD 0
      = resAlloc := by
  show (if sub resAlloc _ < 0 then (0 : Int) else sub resAlloc _) + _ = _
  rw [sub_of_nonneg (hused.trans hle) hused, if_neg (by omega)]
  omega

/-- **Consistent allocations are never clamped.**  After a successful refresh on a machine
with contiguous IDs: in every zone, for CPUs and every device resource, what the pods use
is at most what is allocatable, and available and used figure add up to the allocatable
one. -/
theorem consistent_pods_never_clamped (pfp : PodFingerprint) {rord : RefreshOrders}
    {mem : Except String MemoryResourceCounters} {allocRes : AllocatableResourcesResponse}
    {rm₀ rm : ResourceMonitor} {podRes : List PodResources} (hids : ContiguousIDs rm₀.topo)
    (hrefresh : updateNodeResources rord mem (.ok allocRes) rm₀ = .ok (rm, none))
    (hpods : ConsistentPods allocRes podRes) (sord : ScanOrders) (excludeList : ResourceExclude) :
    ∃ zones, (scan pfp sord rm excludeList (.ok podRes)).1.zones = some zones
      ∧ ∀ (nodeID : Nat) (zone : Zone), zones[nodeID]? = some zone → ∀ info ∈ zone.resources,
          info.name = resourceCPU ∨ isNativeResource info.name = false →
            scanUsed sord rm podRes nodeID info.name ≤ info.allocatable
            ∧ info.available + scanUsed sord rm podRes nodeID info.name = info.allocatable := by
  obtain ⟨memCounters, rfl⟩ := updateNodeResources_inv hids hrefresh
  refine ⟨_, (scan_zones pfp sord _ excludeList podRes).1, ?_⟩
  intro nodeID zone hzone info hinfo hname
  obtain ⟨-, hentries⟩ := scanZones_cases hzone
  obtain ⟨r, quan, hlookup, -, rfl⟩ := (hentries info).mp hinfo
  have hr : isMemoryResource r = false := by
    rcases hname with hcpu | hnative
    · rw [show r = resourceCPU from hcpu, isMemoryResource_cpu]
    · have hboth : isNativeResource r = false := hnative
      rw [isNativeResource_eq, Bool.or_eq_false_iff] at hboth
      exact hboth.2
  have hcounted : ∀ amount, counted r amount = amount := fun amount => by
    rw [counted, hr, if_neg Bool.false_ne_true]
  -- both figures are demands, of the pods and of the allocatable answer
  have hquan : quan = listsDemand rm₀.coreIDToNodeIDMap nodeID r allocRes.devices allocRes.cpuIds
      allocRes.memory := by
    rw [((lookup_zoneCounters_iff rfl _ _ _).mp hlookup).2, hcounted]
    exact demand_normalizeContainerDevices ..
  have hused : ∀ allDevs : List ContainerDevices,
      (cell (containerDevicesToPerNUMAResourceCounters allDevs) nodeID r).getD 0
        = demand allDevs nodeID r := fun allDevs => by
    rw [cell_counters_getD, hcounted]
  have hle : demand (getAllContainerDevices sord.cpus podRes rm₀.args.namespace
      rm₀.coreIDToNodeIDMap) nodeID r ≤ quan := by
    rw [demand_getAllContainerDevices, sum_containerDemand_flatten, hquan]
    exact listsDemand_le_of_consistent hpods (watchedContainers_sublist ..) _ _ hr
  have hfigure : scanUsed sord
      (withDevicesCapacity rord (withHardware rord memCounters allocRes rm₀)) podRes nodeID r
      = demand (getAllContainerDevices sord.cpus podRes rm₀.args.namespace
        rm₀.coreIDToNodeIDMap) nodeID r := hused _
  refine ⟨hfigure.trans_le hle, scanResource_adds_up ?_ (hfigure.trans_le hle)⟩
  rw [hused]
  exact demand_nonneg hr _ _

/-- The pod of the two-node machine holds a CPU and a device that are allocatable. -/
theorem consistent_pods_never_clamped_two_nodes :
    ∃ rm zones, updateNodeResources .sorted (.ok ∅) (.ok twoNodeAllocatable)
          (initialMonitor "worker" ⟨"", false, ""⟩ twoNodeTopology) = .ok (rm, none)
      ∧ (scan namesFingerprint .sorted rm ∅ (.ok twoNodePods)).1.zones = some zones
      ∧ ∀ (nodeID : Nat) (zone : Zone), zones[nodeID]? = some zone → ∀ info ∈ zone.resources,
          info.name = resourceCPU ∨ isNativeResource info.name = false →
            scanUsed .sorted rm twoNodePods nodeID info.name ≤ info.allocatable
            ∧ info.available + scanUsed .sorted rm twoNodePods nodeID info.name
              = info.allocatable := by
  have hids : ContiguousIDs twoNodeTopology := by decide
  have hrefresh := updateNodeResources_ok .sorted ∅ twoNodeAllocatable
    (initialMonitor "worker" ⟨"", false, ""⟩ twoNodeTopology) hids (by decide)
  have hpods : ConsistentPods twoNodeAllocatable twoNodePods := by
    refine ⟨⟨by decide, by decide, fun r => ?_, by decide⟩, by decide⟩
    by_cases hr : "vendor.com/nic" = r
    · subst hr
      decide
    · have hnone : heldDeviceIDs r (allContainers twoNodePods) = [] := by
        simp [heldDeviceIDs, allContainers, twoNodePods, hr]
      rw [hnone]
      exact List.nodup_nil
  obtain ⟨zones, hzones, hall⟩ :=
    consistent_pods_never_clamped namesFingerprint hids hrefresh hpods .sorted ∅
  exact ⟨_, zones, hrefresh, hzones, hall⟩

/-- A container with a CPU, and with a memory block whose type is that of CPUs. -/
def cpuBlockPods : List PodResources :=
  [⟨"pod", "default", [⟨"cnt", [], [0], [⟨"cpu", 1024, some ⟨[⟨0⟩]⟩⟩]⟩]⟩]

/-- One node with one CPU. -/
def cpuBlockTopology : MachineTopology := ⟨[⟨0, [⟨[0]⟩], [10]⟩]⟩

/-- The kubelet has that CPU to give. -/
def cpuBlockAllocatable : AllocatableResourcesResponse := ⟨[], [0], []⟩

/-- **A memory block that is not memory** is counted as one more device, here as a CPU: the
figure used is above the allocatable one and the available one is clamped. -/
theorem cpu_typed_block_clamped :
    ContiguousIDs cpuBlockTopology ∧ HeldOnce cpuBlockAllocatable cpuBlockPods
      ∧ ∃ rm zone info, updateNodeResources .sorted (.ok ∅) (.ok cpuBlockAllocatable)
            (initialMonitor "worker" ⟨"", false, ""⟩ cpuBlockTopology) = .ok (rm, none)
        ∧ (scan namesFingerprint .sorted rm ∅ (.ok cpuBlockPods)).1.zones = some [zone]
        ∧ zone.resources = [info] ∧ info.name = resourceCPU ∧ info.allocatable = 1
        ∧ scanUsed .sorted rm cpuBlockPods 0 info.name = 2 ∧ info.available = 0 := by
  have hids : ContiguousIDs cpuBlockTopology := by decide
  have hheld : HeldOnce cpuBlockAllocatable cpuBlockPods :=
    ⟨by decide, by decide, fun r => List.nodup_nil, by decide⟩
  have hrefresh := updateNodeResources_ok .sorted ∅ cpuBlockAllocatable
    (initialMonitor "worker" ⟨"", false, ""⟩ cpuBlockTopology) hids (by decide)
  exact ⟨hids, hheld, _, _, _, hrefresh, rfl, rfl, rfl, rfl, rfl, rfl⟩

end TopologyExporter
