/-
TopologyExporter/ZoneOrder.lean

Does a published zone depend on how Go enumerates a map?

`Scan` appends the resources of a zone in the order in which it ranges over the
counters of the node, and nothing sorts them afterwards (`SortedZones` is called
by tests only).  Two scans of one state agree up to that order (`SameZones`);
they are equal as lists, whatever the orders, only if no zone has two resources
to publish.  `zones_order_independent_iff` is the exact condition.  It matters in
patch mode: the patch replaces the zone list as a whole as soon as one entry
has moved.
-/
import TopologyExporter.Fingerprint
import TopologyExporter.Updater

namespace TopologyExporter

open GoMap MergePatch

/-! ### Reversing a scan -/

/-- The same scan, with the resources of each zone the other way round. -/
def ScanOrders.reverse (ord : ScanOrders) : ScanOrders :=
  { ord with resources := fun nodeID => (ord.resources nodeID).reverse }

section Zone

variable {rm : ResourceMonitor} {excludeSet : GoMap String (Finset String)}
variable {allocated : PerNUMAResourceCounter} {nodeID : Nat}

theorem scanZone_reverse_resources (ord : RangeOrder String Int) :
    (scanZone ord.reverse rm excludeSet allocated nodeID).resources
      = (scanZone ord rm excludeSet allocated nodeID).resources.reverse := by
  show (ord.range (zoneCounters rm nodeID)).reverse.filterMap _ = _
  rw [List.filterMap_reverse]
  rfl

/-- Two zones that differ in the order of at most one resource do not differ. -/
theorem Zone.Same.eq_of_length_le_one {zone zone' : Zone} (h : zone.Same zone')
    (hlen : zone.resources.length ≤ 1) : zone = zone' := by
  obtain ⟨hname, htype, hcosts, hperm⟩ := h
  have hresources : zone.resources = zone'.resources := by
    match hz : zone.resources, hlen with
    | [], _ => rw [hz] at hperm; exact hperm.nil_eq
    | [info], _ => rw [hz] at hperm; exact (List.singleton_perm.mp hperm)
  obtain ⟨name, type, costs, resources⟩ := zone
  obtain ⟨name', type', costs', resources'⟩ := zone'
  simp only at hname htype hcosts hresources
  rw [hname, htype, hcosts, hresources]

/-- If a zone reads the same both ways, it has at most one resource. -/
theorem length_resources_le_one {ord : RangeOrder String Int}
    (h : scanZone ord.reverse rm excludeSet allocated nodeID
      = scanZone ord rm excludeSet allocated nodeID) :
    (scanZone ord rm excludeSet allocated nodeID).resources.length ≤ 1 := by
  apply length_le_one_of_reverse_eq
  · exact List.Nodup.of_map _ (nodup_names_scanZone ord rm excludeSet allocated nodeID)
  · rw [← scanZone_reverse_resources, h]

end Zone

/-! ### Nodes with one resource -/

/-- No node has counters for two resources that are not excluded.  A node without
counters publishes its CPUs only. -/
def OneResourcePerNode (rm : ResourceMonitor) (excludeList : ResourceExclude) : Prop :=
  ∀ nodeID : Nat, nodeID < rm.topo.nodes.length → ∀ counters,
    rm.nodeAllocatable.lookup (nodeID : Int) = some counters →
      ∀ resName ∈ counters, ¬ Excluded excludeList rm.nodeName resName →
        ∀ resName' ∈ counters, ¬ Excluded excludeList rm.nodeName resName' → resName = resName'

section Scans

variable {rm : ResourceMonitor} {excludeList : ResourceExclude}
variable {allocated : PerNUMAResourceCounter} {nodeID : Nat}

theorem mem_names_scanZone_iff (excludes : RangeOrder String (List String))
    (resources : RangeOrder String Int) (resName : String) :
    resName ∈ (scanZone resources rm (toMapSet excludes excludeList) allocated
        nodeID).resources.map (fun info => info.name)
      ↔ resName ∈ zoneCounters rm nodeID ∧ ¬ Excluded excludeList rm.nodeName resName := by
  rw [names_scanZone, List.mem_filter, (resources.enumerates (zoneCounters rm nodeID)).mem_keys,
    Bool.not_eq_true', ← Bool.not_eq_true, inExcludeSet_toMapSet]

/-- How many resources a zone has is decided by its counters and the exclude list. -/
theorem length_resources_le_one_iff (excludes : RangeOrder String (List String))
    (resources : RangeOrder String Int) :
    (scanZone resources rm (toMapSet excludes excludeList) allocated nodeID).resources.length ≤ 1
      ↔ ∀ resName ∈ zoneCounters rm nodeID, ¬ Excluded excludeList rm.nodeName resName →
          ∀ resName' ∈ zoneCounters rm nodeID, ¬ Excluded excludeList rm.nodeName resName' →
            resName = resName' := by
  rw [← List.length_map fun info : ResourceInfo => info.name,
    ← List.toFinset_card_of_nodup (nodup_names_scanZone _ _ _ _ _), Finset.card_le_one]
  simp only [List.mem_toFinset, mem_names_scanZone_iff, and_imp]

theorem zoneCounters_of_lookup {counters : ResourceCounter}
    (h : rm.nodeAllocatable.lookup (nodeID : Int) = some counters) :
    zoneCounters rm nodeID = counters := by
  rw [zoneCounters, h]

/-- The substitute for a node without counters has the CPUs only. -/
theorem eq_resourceCPU_of_mem_zoneCounters
    (h : rm.nodeAllocatable.lookup (nodeID : Int) = none) {resName : String}
    (hmem : resName ∈ zoneCounters rm nodeID) : resName = resourceCPU := by
  rw [zoneCounters, h] at hmem
  rcases Finmap.mem_insert.mp hmem with rfl | hmem
  · rfl
  · exact absurd hmem Finmap.notMem_empty

theorem length_resources_le_one_of_oneResource (h : OneResourcePerNode rm excludeList)
    (excludes : RangeOrder String (List String)) (resources : RangeOrder String Int)
    (hnode : nodeID < rm.topo.nodes.length) :
    (scanZone resources rm (toMapSet excludes excludeList) allocated nodeID).resources.length
      ≤ 1 := by
  rw [length_resources_le_one_iff]
  rcases hcounters : rm.nodeAllocatable.lookup (nodeID : Int) with - | counters
  · intro resName hmem _ resName' hmem' _
    rw [eq_resourceCPU_of_mem_zoneCounters hcounters hmem,
      eq_resourceCPU_of_mem_zoneCounters hcounters hmem']
  · rw [zoneCounters_of_lookup hcounters]
    exact h nodeID hnode counters hcounters

/-- A scan that equals its reverse has one resource per node. -/
theorem oneResourcePerNode_of_reverse {ord : ScanOrders} {podRes : List PodResources}
    (h : scanZones ord.reverse rm excludeList podRes = scanZones ord rm excludeList podRes) :
    OneResourcePerNode rm excludeList := by
  intro nodeID hnode counters hcounters
  have hzone := congrArg (fun zones => zones[nodeID]?) h
  simp only [getElem?_scanZones _ _ _ _ hnode, Option.some.injEq] at hzone
  have hlen := length_resources_le_one hzone
  rw [length_resources_le_one_iff, zoneCounters_of_lookup hcounters] at hlen
  exact hlen

/-- With one resource per node, all scans publish the same zones. -/
theorem scanZones_eq_of_oneResource (h : OneResourcePerNode rm excludeList)
    (ord ord' : ScanOrders) (podRes : List PodResources) :
    scanZones ord rm excludeList podRes = scanZones ord' rm excludeList podRes := by
  refine List.map_congr_left fun nodeID hmem => ?_
  have hnode := List.mem_range.mp hmem
  rw [scanZone_demand_congr ord ord' excludeList (ord.resources nodeID) fun _ => rfl]
  apply (scanZone_same_orders _ _).eq_of_length_le_one
  exact length_resources_le_one_of_oneResource h _ _ hnode

end Scans

/-! ### Patches -/

/-- The zones are not in the patch if they are those of the previous object. -/
theorem lookup_zones_makeNRTPatch {te : NRTUpdater} {nodeGetter : NodeGetter} {info : MonitorInfo}
    {prevNRT : NodeResourceTopology} {patch : Object Leaf 2} (h : info.zones = prevNRT.zones)
    (hpatch : makeNRTPatch te.lib prevNRT (te.mutate nodeGetter info prevNRT) = some patch) :
    patch.lookup "zones" = none := by
  rw [makeNRTPatch_eq] at hpatch
  obtain rfl := Option.some.inj hpatch
  apply lookup_diff_of_eq
  have hzones : (te.mutate nodeGetter info prevNRT).zones = prevNRT.zones :=
    (te.published_mutate nodeGetter info prevNRT).zones.trans h
  simp only [lookup_encode, nrtMember, NodeResourceTopology.rounded, hzones]

/-- Scans of one state and one answer of the kubelet, in any two orders, give equal
zone lists, and no patch from one to the other has a `zones` member. -/
structure OrderIndependent (pfp : PodFingerprint) (rm : ResourceMonitor)
    (excludeList : ResourceExclude) (resp : Except String (List PodResources)) : Prop where
  zones : ∀ ord ord', (scan pfp ord rm excludeList resp).1.zones
    = (scan pfp ord' rm excludeList resp).1.zones
  patch : ∀ ord ord' (te : NRTUpdater) nodeGetter (info : MonitorInfo) prevNRT patch,
    prevNRT.zones = (scan pfp ord rm excludeList resp).1.zones →
    info.zones = (scan pfp ord' rm excludeList resp).1.zones →
    makeNRTPatch te.lib prevNRT (te.mutate nodeGetter info prevNRT) = some patch →
    patch.lookup "zones" = none

/-- **When the enumeration order does not show.**  Unless the scan fails, the zones
are independent of it exactly if no node has two resources to publish. -/
theorem zones_order_independent_iff (pfp : PodFingerprint) (rm : ResourceMonitor)
    (excludeList : ResourceExclude) (resp : Except String (List PodResources)) :
    OrderIndependent pfp rm excludeList resp
      ↔ (∃ err, resp = .error err) ∨ OneResourcePerNode rm excludeList := by
  constructor
  · intro h
    rcases resp with err | podRes
    · exact .inl ⟨err, rfl⟩
    · right
      -- one order against its reverse is enough
      have hzones := h.zones (ScanOrders.sorted).reverse .sorted
      rw [(scan_zones pfp _ rm excludeList podRes).1, (scan_zones pfp _ rm excludeList podRes).1]
        at hzones
      exact oneResourcePerNode_of_reverse (Option.some.inj hzones)
  · intro h
    have hzones : ∀ ord ord', (scan pfp ord rm excludeList resp).1.zones
        = (scan pfp ord' rm excludeList resp).1.zones := by
      intro ord ord'
      rcases resp with err | podRes
      · rfl
      · rcases h with ⟨err, herr⟩ | h
        · cases herr
        · rw [(scan_zones pfp ord rm excludeList podRes).1,
            (scan_zones pfp ord' rm excludeList podRes).1,
            scanZones_eq_of_oneResource h ord ord' podRes]
    refine ⟨hzones, ?_⟩
    intro ord ord' te nodeGetter info prevNRT patch hprev hinfo hpatch
    refine lookup_zones_makeNRTPatch ?_ hpatch
    rw [hinfo, hprev, hzones]

/-- A node with CPUs and memory. -/
def cpuMemoryMonitor : ResourceMonitor :=
  { initialMonitor "worker" ⟨"", false, ""⟩ ⟨[⟨0, [⟨[0, 1]⟩], [10]⟩]⟩ with
    nodeAllocatable := (∅ : PerNUMAResourceCounter).insert 0
      (((∅ : ResourceCounter).insert resourceCPU 2).insert resourceMemory 1024) }

/-- What the observer reports of a scan of it. -/
def cpuMemoryReport (ord : ScanOrders) : MonitorInfo where
  timer := true
  zones := (scan namesFingerprint ord cpuMemoryMonitor ∅ (.ok [])).1.zones
  attributes := []
  annotations := none

/-- One state scanned twice, in opposite orders: the zones differ, and the second
report is patched in with a `zones` member. -/
theorem opposite_scans_patch_zones :
    let te := newNRTUpdater threeWayLibrary ⟨false, false, "worker", true, 10⟩ ⟨"", ""⟩
    let nodeGetter : NodeGetter := fun _ => .error .notConfigured
    let prevNRT := te.mutate nodeGetter (cpuMemoryReport .sorted) te.freshNRT
    (cpuMemoryReport .sorted).zones ≠ (cpuMemoryReport ScanOrders.sorted.reverse).zones
      ∧ ∃ patch, makeNRTPatch te.lib prevNRT
            (te.mutate nodeGetter (cpuMemoryReport ScanOrders.sorted.reverse) prevNRT) = some patch
          ∧ patch.lookup "zones" ≠ none := by
  refine ⟨by decide +kernel, _, makeNRTPatch_eq _ _ _, ?_⟩
  rw [PatchLibrary.difference, lookup_diffMembers]
  decide +kernel

end TopologyExporter
