/-
TopologyExporter/ZoneFigures.lean

Which resources a zone lists, and with which capacity.

After a refresh on a machine with contiguous IDs, the entries of a zone are a function
of the kubelet's answer alone (`mem_zone_iff`): the resources that it reports on the
node, or CPUs if it reports nothing there.  The capacity of an entry is the figure that
the refresh has copied from the hardware, or, if there is none, the allocatable figure
(`Refresh.lean`'s `lookup_nodeCapacity`, `Scan.lean`'s `scanResource_capacity_eq`).

Two consequences.  The refresh copies hugepages of two sizes only, so the capacity of
any other size is what is allocatable of it (`capacity_is_hardware_iff`).  And a node
whose CPUs are all reserved lists CPUs only as long as nothing else is allocatable on
it (`every_zone_reports_cpu_iff`).
-/
import TopologyExporter.MemoryTotals
import TopologyExporter.Sysinfo

namespace TopologyExporter

open GoMap GoInt

/-! ### Entries -/

/-- The answer of the kubelet reports resource `r` on node `k`. -/
def AllocatableOn (coreIDToNodeIDMap : GoMap Int Int) (allocRes : AllocatableResourcesResponse)
    (k : Int) (r : String) : Prop :=
  Reports coreIDToNodeIDMap k r allocRes.devices allocRes.cpuIds allocRes.memory

instance (coreIDToNodeIDMap : GoMap Int Int) (allocRes : AllocatableResourcesResponse) (k : Int)
    (r : String) : Decidable (AllocatableOn coreIDToNodeIDMap allocRes k r) := by
  unfold AllocatableOn Reports Mentions; infer_instance

/-- How much of resource `r` the answer of the kubelet has on node `k`. -/
def allocatableFigure (coreIDToNodeIDMap : GoMap Int Int) (allocRes : AllocatableResourcesResponse)
    (k : Int) (r : String) : Int :=
  counted r (listsDemand coreIDToNodeIDMap k r allocRes.devices allocRes.cpuIds allocRes.memory)

/-- The resources of the zone of node `k`, before exclusions. -/
def ListedOn (coreIDToNodeIDMap : GoMap Int Int) (allocRes : AllocatableResourcesResponse)
    (k : Int) (r : String) : Prop :=
  AllocatableOn coreIDToNodeIDMap allocRes k r
    ∨ (r = resourceCPU ∧ ∀ r', ¬ AllocatableOn coreIDToNodeIDMap allocRes k r')

section Refreshed

variable (rord : RefreshOrders) (memCounters : MemoryResourceCounters)
variable (allocRes : AllocatableResourcesResponse) (rm₀ : ResourceMonitor)

/-- The monitor after a refresh that completes. -/
def refreshed : ResourceMonitor :=
  withDevicesCapacity rord (withHardware rord memCounters allocRes rm₀)

variable {rord memCounters allocRes rm₀}

theorem mentions_allocatableDevices_iff (k : Int) (r : String) :
    Mentions (allocatableDevices rord allocRes rm₀) k r
      ↔ AllocatableOn rm₀.coreIDToNodeIDMap allocRes k r :=
  mentions_normalizeContainerDevices ..

theorem counted_allocatableDevices (k : Int) (r : String) :
    counted r (demand (allocatableDevices rord allocRes rm₀) k r)
      = allocatableFigure rm₀.coreIDToNodeIDMap allocRes k r :=
  congrArg (counted r) (demand_normalizeContainerDevices ..)

/-- **The entries of a zone** after a refresh. -/
theorem mem_zone_iff {sord : ScanOrders} {excludeList : ResourceExclude}
    {podRes : List PodResources} {nodeID : Nat} {zone : Zone}
    (h : (scanZones sord (refreshed rord memCounters allocRes rm₀) excludeList podRes)[nodeID]?
      = some zone) (info : ResourceInfo) :
    info ∈ zone.resources ↔ ∃ r, ListedOn rm₀.coreIDToNodeIDMap allocRes nodeID r
      ∧ ¬ Excluded excludeList rm₀.nodeName r
      ∧ info = scanResource (getD (refreshed rord memCounters allocRes rm₀).nodeCapacity nodeID ∅)
          (podCounters sord.cpus podRes rm₀.args.namespace rm₀.coreIDToNodeIDMap) nodeID r
          (allocatableFigure rm₀.coreIDToNodeIDMap allocRes nodeID r) := by
  have hlookup : ∀ r quan,
      (zoneCounters (refreshed rord memCounters allocRes rm₀) nodeID).lookup r = some quan
        ↔ ListedOn rm₀.coreIDToNodeIDMap allocRes nodeID r
          ∧ quan = allocatableFigure rm₀.coreIDToNodeIDMap allocRes nodeID r := by
    intro r quan
    have hallocatable : (refreshed rord memCounters allocRes rm₀).nodeAllocatable
        = containerDevicesToPerNUMAResourceCounters (allocatableDevices rord allocRes rm₀) := rfl
    rw [lookup_zoneCounters_iff hallocatable, counted_allocatableDevices]
    simp only [mentions_allocatableDevices_iff, ListedOn]
  rw [(scanZones_cases h).2 info]
  constructor
  · rintro ⟨r, quan, hquan, hex, rfl⟩
    obtain ⟨hlisted, rfl⟩ := (hlookup r quan).mp hquan
    exact ⟨r, hlisted, hex, rfl⟩
  · rintro ⟨r, hlisted, hex, rfl⟩
    exact ⟨r, _, (hlookup r _).mpr ⟨hlisted, rfl⟩, hex, rfl⟩

/-- The capacity of a device is what is allocatable. -/
theorem lookup_nodeCapacity_device {nodeID : Nat} (hlt : nodeID < rm₀.topo.nodes.length)
    {r : String} (hr : isNativeResource r = false)
    (hreported : AllocatableOn rm₀.coreIDToNodeIDMap allocRes nodeID r) :
    (getD (refreshed rord memCounters allocRes rm₀).nodeCapacity nodeID ∅).lookup r
      = some (allocatableFigure rm₀.coreIDToNodeIDMap allocRes nodeID r) := by
  have hmentions : Mentions (allocatableDevices rord allocRes rm₀) nodeID r :=
    (mentions_allocatableDevices_iff nodeID r).mpr hreported
  rw [refreshed, lookup_nodeCapacity rord memCounters allocRes rm₀ hlt,
    if_pos ⟨hr, isSome_cell_counters_iff.mpr hmentions⟩, cell_counters, if_pos hmentions,
    counted_allocatableDevices]

end Refreshed

/-- A refresh and then a scan both succeed, with zones that have property `P`. -/
def ScanAfterRefresh (rord : RefreshOrders) (sord : ScanOrders) (memCounters : MemoryResourceCounters)
    (allocRes : AllocatableResourcesResponse) (rm₀ : ResourceMonitor) (pfp : PodFingerprint)
    (excludeList : ResourceExclude) (podRes : List PodResources) (P : Nat → Zone → Prop) : Prop :=
  ∃ rm zones, updateNodeResources rord (.ok memCounters) (.ok allocRes) rm₀ = .ok (rm, none)
    ∧ (scan pfp sord rm excludeList (.ok podRes)).1.zones = some zones
    ∧ zones.length = rm₀.topo.nodes.length
    ∧ ∀ (nodeID : Nat) (zone : Zone), zones[nodeID]? = some zone → P nodeID zone

theorem scanAfterRefresh_iff {rord : RefreshOrders} {sord : ScanOrders}
    {memCounters : MemoryResourceCounters} {allocRes : AllocatableResourcesResponse}
    {rm₀ : ResourceMonitor} {pfp : PodFingerprint} {excludeList : ResourceExclude}
    {podRes : List PodResources} {P : Nat → Zone → Prop} (hids : ContiguousIDs rm₀.topo)
    (halloc : AllocatableOnTopology rm₀.topo allocRes) :
    ScanAfterRefresh rord sord memCounters allocRes rm₀ pfp excludeList podRes P
      ↔ ∀ (nodeID : Nat) (zone : Zone),
          (scanZones sord (refreshed rord memCounters allocRes rm₀) excludeList podRes)[nodeID]?
            = some zone → P nodeID zone := by
  have hrefresh := updateNodeResources_ok rord memCounters allocRes rm₀ hids
    halloc.devicesOnTopology
  constructor
  · rintro ⟨rm, zones, hrm, hzones, -, hP⟩
    obtain ⟨rfl, -⟩ := Prod.mk.inj (Except.ok.inj (hrefresh.symm.trans hrm))
    rw [(scan_zones pfp sord _ excludeList podRes).1] at hzones
    obtain rfl := Option.some.inj hzones
    exact hP
  · intro hP
    exact ⟨_, _, hrefresh, (scan_zones pfp sord _ excludeList podRes).1, length_scanZones .., hP⟩

/-! ### Capacity -/

/-- The resources whose hardware figures a refresh copies. -/
def copiedResources : List String :=
  [resourceCPU, resourceMemory, resourceHugepages2Mi, resourceHugepages1Gi]

/-- The hardware total of a native resource on a node: logical processors, or the sysfs
counter. -/
def hardwareTotal (topo : MachineTopology) (memCounters : MemoryResourceCounters) (k : Int)
    (r : String) : Int :=
  if r = resourceCPU then nodeCPUs topo k else (getD memCounters r ∅).getD k 0

/-- The capacity of an entry is that of the hardware; of a device, what is allocatable. -/
def CapacityIsHardware (topo : MachineTopology) (memCounters : MemoryResourceCounters) (k : Int)
    (info : ResourceInfo) : Prop :=
  if isNativeResource info.name then
    info.capacity = if hardwareTotal topo memCounters k info.name = 0
        ∨ hardwareTotal topo memCounters k info.name < info.allocatable
      then info.allocatable else hardwareTotal topo memCounters k info.name
  else info.capacity = info.allocatable

theorem hardwareFigure_eq (topo : MachineTopology) (memCounters : MemoryResourceCounters) (k : Int)
    (r : String) :
    hardwareFigure topo memCounters k r
      = if r ∈ copiedResources then some (hardwareTotal topo memCounters k r) else none := by
  unfold hardwareFigure copiedResources hardwareTotal
  by_cases hr : r = resourceCPU
  · simp [hr]
  · rw [if_neg hr, if_neg hr]
    refine if_congr ?_ rfl rfl
    rw [List.mem_cons (b := resourceCPU), or_iff_right hr]

/-- One entry: only hugepages that are not copied can have another capacity. -/
theorem capacityIsHardware_entry_iff {rord : RefreshOrders} {memCounters : MemoryResourceCounters}
    {allocRes : AllocatableResourcesResponse} {rm₀ : ResourceMonitor} {nodeID : Nat}
    (hlt : nodeID < rm₀.topo.nodes.length) {r : String}
    (hlisted : ListedOn rm₀.coreIDToNodeIDMap allocRes nodeID r) (allocated : PerNUMAResourceCounter) :
    CapacityIsHardware rm₀.topo memCounters nodeID
        (scanResource (getD (refreshed rord memCounters allocRes rm₀).nodeCapacity nodeID ∅) allocated
          nodeID r (allocatableFigure rm₀.coreIDToNodeIDMap allocRes nodeID r))
      ↔ (isNativeResource r = true → r ∉ copiedResources →
          hardwareTotal rm₀.topo memCounters nodeID r = 0
          ∨ hardwareTotal rm₀.topo memCounters nodeID r
            ≤ allocatableFigure rm₀.coreIDToNodeIDMap allocRes nodeID r) := by
  have hcapacity := scanResource_capacity_eq
    (getD (refreshed rord memCounters allocRes rm₀).nodeCapacity nodeID ∅) allocated nodeID r
    (allocatableFigure rm₀.coreIDToNodeIDMap allocRes nodeID r)
  have hname : (scanResource (getD (refreshed rord memCounters allocRes rm₀).nodeCapacity nodeID ∅)
      allocated nodeID r (allocatableFigure rm₀.coreIDToNodeIDMap allocRes nodeID r)).name = r := rfl
  have hfigure : (scanResource (getD (refreshed rord memCounters allocRes rm₀).nodeCapacity nodeID ∅)
      allocated nodeID r (allocatableFigure rm₀.coreIDToNodeIDMap allocRes nodeID r)).allocatable
        = allocatableFigure rm₀.coreIDToNodeIDMap allocRes nodeID r := rfl
  rw [CapacityIsHardware, hname, hfigure, hcapacity]
  by_cases hnative : isNativeResource r = true
  · rw [if_pos hnative, refreshed, lookup_nodeCapacity_native rord memCounters allocRes rm₀ hlt
      hnative, hardwareFigure_eq]
    by_cases hcopied : r ∈ copiedResources
    · rw [if_pos hcopied]
      exact ⟨fun _ _ hnot => absurd hcopied hnot, fun _ => rfl⟩
    · rw [if_neg hcopied, Option.getD_none, if_pos (Or.inl rfl)]
      simp only [hnative, hcopied, not_false_eq_true, true_implies]
      split_ifs with h <;> omega
  · -- a device is listed only where it is reported
    have hdevice : isNativeResource r = false := Bool.not_eq_true _ ▸ hnative
    have hreported : AllocatableOn rm₀.coreIDToNodeIDMap allocRes nodeID r := by
      refine hlisted.resolve_right ?_
      rintro ⟨rfl, -⟩
      exact hnative (by decide)
    rw [if_neg hnative, lookup_nodeCapacity_device hlt hdevice hreported, Option.getD_some]
    refine ⟨fun _ htrue => absurd htrue hnative, fun _ => ?_⟩
    split_ifs <;> rfl

/-- **When the published capacity is that of the hardware**: the refresh copies two sizes of
hugepages, so of every other size that a zone lists there must be no pages, or no more
than are allocatable. -/
theorem capacity_is_hardware_iff (pfp : PodFingerprint) (rord : RefreshOrders) (sord : ScanOrders)
    (memCounters : MemoryResourceCounters) {allocRes : AllocatableResourcesResponse}
    {rm₀ : ResourceMonitor} (hids : ContiguousIDs rm₀.topo)
    (halloc : AllocatableOnTopology rm₀.topo allocRes) (excludeList : ResourceExclude)
    (podRes : List PodResources) :
    ScanAfterRefresh rord sord memCounters allocRes rm₀ pfp excludeList podRes
        (fun nodeID zone => ∀ info ∈ zone.resources,
          CapacityIsHardware rm₀.topo memCounters nodeID info)
      ↔ ∀ nodeID : Nat, nodeID < rm₀.topo.nodes.length → ∀ r,
          AllocatableOn rm₀.coreIDToNodeIDMap allocRes nodeID r →
          ¬ Excluded excludeList rm₀.nodeName r → isNativeResource r = true → r ∉ copiedResources →
            hardwareTotal rm₀.topo memCounters nodeID r = 0
            ∨ hardwareTotal rm₀.topo memCounters nodeID r
              ≤ allocatableFigure rm₀.coreIDToNodeIDMap allocRes nodeID r := by
  rw [scanAfterRefresh_iff hids halloc]
  constructor
  · intro h nodeID hlt r hreported hex
    have hzone := getElem?_scanZones sord (refreshed rord memCounters allocRes rm₀) excludeList
      podRes hlt
    have hentry := h nodeID _ hzone _ ((mem_zone_iff hzone _).mpr ⟨r, Or.inl hreported, hex, rfl⟩)
    exact (capacityIsHardware_entry_iff hlt (Or.inl hreported) _).mp hentry
  · intro h nodeID zone hzone info hinfo
    obtain ⟨r, hlisted, hex, rfl⟩ := (mem_zone_iff hzone info).mp hinfo
    have hlt : nodeID < rm₀.topo.nodes.length := (scanZones_cases hzone).1
    refine (capacityIsHardware_entry_iff hlt hlisted _).mpr fun hnative hcopied => ?_
    rcases hlisted with hreported | ⟨rfl, -⟩
    · exact h nodeID hlt r hreported hex hnative hcopied
    · -- the placeholder is for CPUs, which are copied
      exact absurd List.mem_cons_self hcopied

/-- On the two-node machine without hugepages the capacities are those of the hardware. -/
theorem capacity_is_hardware_two_nodes :
    ScanAfterRefresh .sorted .sorted ∅ twoNodeAllocatable
      (initialMonitor "worker" ⟨"", false, ""⟩ twoNodeTopology) namesFingerprint ∅ twoNodePods
      (fun nodeID zone => ∀ info ∈ zone.resources,
        CapacityIsHardware twoNodeTopology ∅ nodeID info) := by
  refine (capacity_is_hardware_iff namesFingerprint .sorted .sorted ∅ (by decide) (by decide) ∅
    twoNodePods).mpr fun nodeID _ r _ _ _ hcopied => Or.inl ?_
  have hr : r ≠ resourceCPU := fun hr => hcopied (hr ▸ List.mem_cons_self)
  rw [hardwareTotal, if_neg hr]
  rfl

theorem node0_single :
    "node0" ≠ "" ∧ "node0" ≠ "." ∧ "node0" ≠ ".." ∧ '/' ∉ "node0".toList := by
  decide

/-- Sysfs of a machine with one node and ten hugepages of 64 kB. -/
def smallPagesFileSystem : FileSystem where
  readDir path :=
    if path = sysDevicesNode then .ok [⟨"node0", true, node0_single⟩]
    else .ok [⟨"hugepages-64kB", true, by decide⟩]
  readFile path :=
    -- either `meminfo` or `nr_hugepages`
    if path.toList.getLast? = some 'o' then .ok "Node 0 MemTotal:       1024 kB\n" else .ok "10\n"
  evalSymlinks path := .ok path

/-- One of the ten pages is allocatable. -/
def smallPagesAllocatable : AllocatableResourcesResponse where
  devices := []
  cpuIds := [0, 1]
  memory := [⟨"hugepages-64Ki", 65536, some ⟨[⟨0⟩]⟩⟩]

/-- An exclude list without entries excludes nothing. -/
theorem not_excluded_empty (nodeName r : String) : ¬ Excluded ∅ nodeName r := by
  rintro (hex | hex) <;> cases hex

/-- A machine with one node and two CPUs. -/
def oneNodeTopology : MachineTopology := ⟨[⟨0, [⟨[0, 1]⟩], [10]⟩]⟩

/-- Ten pages of 64 kB, and the capacity that is published for them is another one. -/
theorem small_pages_capacity_not_hardware :
    ∃ memCounters, getMemoryResourceCounters binaryNotation smallPagesFileSystem ⟨""⟩ = .ok memCounters
      ∧ hardwareTotal oneNodeTopology memCounters 0 "hugepages-64Ki" = 655360
      ∧ ¬ ScanAfterRefresh .sorted .sorted memCounters smallPagesAllocatable
          (initialMonitor "worker" ⟨"", false, ""⟩ oneNodeTopology) namesFingerprint ∅ []
          (fun nodeID zone => ∀ info ∈ zone.resources,
            CapacityIsHardware oneNodeTopology memCounters nodeID info) := by
  have heval : ((getMemoryResourceCounters binaryNotation smallPagesFileSystem ⟨""⟩).toOption.map
      fun memCounters => hardwareTotal oneNodeTopology memCounters 0 "hugepages-64Ki")
        = some 655360 := by
    decide +kernel
  obtain ⟨memCounters, hmem, htotal⟩ := Option.map_eq_some_iff.mp heval
  refine ⟨memCounters, GoPanic.eq_ok_of_toOption hmem, htotal, fun h => ?_⟩
  rw [scanAfterRefresh_iff (by decide) (by decide)] at h
  have hlt : 0 < (initialMonitor "worker" ⟨"", false, ""⟩ oneNodeTopology).topo.nodes.length := by
    decide
  have hlisted : ListedOn (makeCoreIDToNodeIDMap oneNodeTopology) smallPagesAllocatable (0 : Nat)
      "hugepages-64Ki" := Or.inl (by decide)
  have hzone := getElem?_scanZones .sorted (refreshed .sorted memCounters smallPagesAllocatable
    (initialMonitor "worker" ⟨"", false, ""⟩ oneNodeTopology)) ∅ [] hlt
  have hentry := h 0 _ hzone _ ((mem_zone_iff hzone _).mpr
    ⟨"hugepages-64Ki", hlisted, not_excluded_empty _ _, rfl⟩)
  have hfigure : allocatableFigure (makeCoreIDToNodeIDMap oneNodeTopology) smallPagesAllocatable
      (0 : Nat) "hugepages-64Ki" = 65536 := by decide
  have hbound := (capacityIsHardware_entry_iff hlt hlisted _).mp hentry (by decide) (by decide)
  rcases hbound with hzero | hle
  · exact absurd (htotal.symm.trans hzero) (by decide)
  · exact absurd (htotal.symm.le.trans (hle.trans hfigure.le)) (by decide)

/-! ### CPUs -/

/-- The zone of node `k` lists CPUs, with none allocatable if the answer has no CPU of
the node. -/
def ReportsCPU (coreIDToNodeIDMap : GoMap Int Int) (allocRes : AllocatableResourcesResponse)
    (k : Int) (zone : Zone) : Prop :=
  ∃ info ∈ zone.resources, info.name = resourceCPU
    ∧ ((∀ cpuID ∈ allocRes.cpuIds, coreIDToNodeIDMap.lookup cpuID ≠ some k) → info.allocatable = 0)

/-- Without entries there is nothing to allocate. -/
theorem allocatableFigure_of_not_reported {coreIDToNodeIDMap : GoMap Int Int}
    {allocRes : AllocatableResourcesResponse} {k : Int} {r : String}
    (h : ¬ AllocatableOn coreIDToNodeIDMap allocRes k r) :
    allocatableFigure coreIDToNodeIDMap allocRes k r = 0 := by
  have hcell := cell_counters_getD (normalizeContainerDevices (sortedOrder Int _) allocRes.devices
    allocRes.memory allocRes.cpuIds coreIDToNodeIDMap) k r
  rw [cell_counters, if_neg (mt (mentions_normalizeContainerDevices ..).mp h),
    demand_normalizeContainerDevices] at hcell
  exact hcell.symm

/-- **When every zone reports CPUs**: each node has an allocatable CPU, or nothing at all that
is allocatable, or only entries named like CPUs without IDs. -/
theorem every_zone_reports_cpu_iff (pfp : PodFingerprint) (rord : RefreshOrders) (sord : ScanOrders)
    (memCounters : MemoryResourceCounters) {allocRes : AllocatableResourcesResponse}
    {rm₀ : ResourceMonitor} (hids : ContiguousIDs rm₀.topo)
    (halloc : AllocatableOnTopology rm₀.topo allocRes) {excludeList : ResourceExclude}
    (hcpu : ¬ Excluded excludeList rm₀.nodeName resourceCPU) (podRes : List PodResources) :
    ScanAfterRefresh rord sord memCounters allocRes rm₀ pfp excludeList podRes
        (fun nodeID zone => ReportsCPU rm₀.coreIDToNodeIDMap allocRes nodeID zone)
      ↔ ∀ nodeID : Nat, nodeID < rm₀.topo.nodes.length →
          (∃ cpuID ∈ allocRes.cpuIds, rm₀.coreIDToNodeIDMap.lookup cpuID = some (nodeID : Int))
          ∨ (∀ r, ¬ AllocatableOn rm₀.coreIDToNodeIDMap allocRes nodeID r)
          ∨ (AllocatableOn rm₀.coreIDToNodeIDMap allocRes nodeID resourceCPU
              ∧ allocatableFigure rm₀.coreIDToNodeIDMap allocRes nodeID resourceCPU = 0) := by
  rw [scanAfterRefresh_iff hids halloc]
  constructor
  · intro h nodeID hlt
    have hzone := getElem?_scanZones sord (refreshed rord memCounters allocRes rm₀) excludeList
      podRes hlt
    obtain ⟨info, hinfo, hname, hzero⟩ := h nodeID _ hzone
    obtain ⟨r, hlisted, -, rfl⟩ := (mem_zone_iff hzone info).mp hinfo
    obtain rfl : r = resourceCPU := hname
    by_cases hany : ∃ cpuID ∈ allocRes.cpuIds,
        rm₀.coreIDToNodeIDMap.lookup cpuID = some (nodeID : Int)
    · exact Or.inl hany
    · -- without CPUs the entry is that of a device named like them, or an empty zone's placeholder
      rcases hlisted with hreported | ⟨-, hnone⟩
      · exact Or.inr (Or.inr ⟨hreported, hzero fun cpuID hmem heq => hany ⟨cpuID, hmem, heq⟩⟩)
      · exact Or.inr (Or.inl hnone)
  · intro h nodeID zone hzone
    have hlt : nodeID < rm₀.topo.nodes.length := (scanZones_cases hzone).1
    have hentry : ListedOn rm₀.coreIDToNodeIDMap allocRes nodeID resourceCPU →
        ((∀ cpuID ∈ allocRes.cpuIds, rm₀.coreIDToNodeIDMap.lookup cpuID ≠ some (nodeID : Int)) →
          allocatableFigure rm₀.coreIDToNodeIDMap allocRes nodeID resourceCPU = 0) →
        ReportsCPU rm₀.coreIDToNodeIDMap allocRes nodeID zone := fun hlisted hzero =>
      ⟨_, (mem_zone_iff hzone _).mpr ⟨resourceCPU, hlisted, hcpu, rfl⟩, rfl, hzero⟩
    rcases h nodeID hlt with ⟨cpuID, hmem, heq⟩ | hnone | ⟨hreported, hzero⟩
    · refine hentry (Or.inl (Or.inr (Or.inl ⟨rfl, cpuID, hmem, heq⟩))) fun hno => ?_
      exact absurd heq (hno cpuID hmem)
    · exact hentry (Or.inr ⟨rfl, hnone⟩) fun _ => allocatableFigure_of_not_reported (hnone _)
    · exact hentry (Or.inl hreported) fun _ => hzero

/-- On the two-node machine both nodes have a CPU to give. -/
theorem every_zone_reports_cpu_two_nodes :
    ScanAfterRefresh .sorted .sorted ∅ twoNodeAllocatable
      (initialMonitor "worker" ⟨"", false, ""⟩ twoNodeTopology) namesFingerprint ∅ twoNodePods
      (fun nodeID zone => ReportsCPU (makeCoreIDToNodeIDMap twoNodeTopology) twoNodeAllocatable
        nodeID zone) := by
  refine (every_zone_reports_cpu_iff namesFingerprint .sorted .sorted ∅ (by decide) (by decide)
    (not_excluded_empty _ _) twoNodePods).mpr fun nodeID hlt => Or.inl ?_
  have hall : ∀ nodeID < 2, ∃ cpuID ∈ twoNodeAllocatable.cpuIds,
      (makeCoreIDToNodeIDMap twoNodeTopology).lookup cpuID = some (Int.ofNat nodeID) := by decide
  exact hall nodeID hlt

/-- The CPUs of node 0 are reserved, some of its memory is not. -/
def reservedCPUsAllocatable : AllocatableResourcesResponse where
  devices := []
  cpuIds := [2, 3]
  memory := [⟨"memory", 1024, some ⟨[⟨0⟩]⟩⟩]

/-- The zone of a node with reserved CPUs and allocatable memory does not list CPUs. -/
theorem reserved_node_lists_no_cpu :
    ContiguousIDs twoNodeTopology ∧ AllocatableOnTopology twoNodeTopology reservedCPUsAllocatable
      ∧ ¬ Excluded ∅ "worker" resourceCPU
      ∧ ¬ ScanAfterRefresh .sorted .sorted ∅ reservedCPUsAllocatable
          (initialMonitor "worker" ⟨"", false, ""⟩ twoNodeTopology) namesFingerprint ∅ []
          (fun nodeID zone => ReportsCPU (makeCoreIDToNodeIDMap twoNodeTopology)
            reservedCPUsAllocatable nodeID zone) := by
  refine ⟨by decide, by decide, not_excluded_empty _ _, fun h => ?_⟩
  rw [scanAfterRefresh_iff (by decide) (by decide)] at h
  have hlt : 0 < (initialMonitor "worker" ⟨"", false, ""⟩ twoNodeTopology).topo.nodes.length := by
    decide
  have hzone := getElem?_scanZones .sorted (refreshed .sorted ∅ reservedCPUsAllocatable
    (initialMonitor "worker" ⟨"", false, ""⟩ twoNodeTopology)) ∅ [] hlt
  obtain ⟨info, hinfo, hname, -⟩ := h 0 _ hzone
  obtain ⟨r, hlisted, -, rfl⟩ := (mem_zone_iff hzone info).mp hinfo
  obtain rfl : r = resourceCPU := hname
  rcases hlisted with hreported | ⟨-, hnone⟩
  · have hno : ¬ AllocatableOn (makeCoreIDToNodeIDMap twoNodeTopology) reservedCPUsAllocatable
        (0 : Nat) resourceCPU := by decide
    exact hno hreported
  · have hmemory : AllocatableOn (makeCoreIDToNodeIDMap twoNodeTopology) reservedCPUsAllocatable
        (0 : Nat) "memory" := by decide
    exact hnone "memory" hmemory

end TopologyExporter
