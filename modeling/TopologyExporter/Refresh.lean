/-
TopologyExporter/Refresh.lean

What a refresh of the node resources does, and when it completes.

`updateNodeCapacity` walks the positions of the node slice and dereferences the
node with that ID; it completes iff every position is a node ID.
`updateDevicesCapacity` writes, for every device resource that the kubelet
reports on any NUMA node, through the capacity map of that node; it completes
iff each such node has one.  Together (`updateNodeResources_total_iff`): on a
machine with contiguous IDs a refresh completes iff the kubelet reports device
resources only on nodes of the topology.
-/
import TopologyExporter.Monitor

namespace TopologyExporter

open GoMap GoPanic

/-! ### Node capacity -/

/-- The capacity map that `updateNodeCapacity` stores. -/
def hardwareCapacity (topo : MachineTopology) (memCounters : MemoryResourceCounters) :
    PerNUMAResourceCounter :=
  (List.range topo.nodes.length).foldl (fun perNUMARc (nodeID : Nat) =>
    perNUMARc.insert (nodeID : Int)
      (capacityCounters memCounters nodeID (nodeCPUs topo nodeID))) ∅

theorem lookup_hardwareCapacity (topo : MachineTopology) (memCounters : MemoryResourceCounters)
    (k : Int) :
    (hardwareCapacity topo memCounters).lookup k
      = if 0 ≤ k ∧ k < topo.nodes.length then
          some (capacityCounters memCounters k (nodeCPUs topo k))
        else none := by
  unfold hardwareCapacity
  induction topo.nodes.length with
  | zero =>
      rw [if_neg (by omega)]
      rfl
  | succ n ih =>
      rw [List.range_succ, List.foldl_append, List.foldl_cons, List.foldl_nil,
        lookup_insert_eq, ih]
      by_cases hk : k = n
      · subst hk
        rw [if_pos rfl, if_pos (by omega)]
      · rw [if_neg hk]
        exact if_congr (by omega) rfl rfl

/-- The figure of a resource on a node, as the topology and the sysfs counters have
it: CPUs, memory and hugepages, and none for a device. -/
def hardwareFigure (topo : MachineTopology) (memCounters : MemoryResourceCounters) (k : Int)
    (r : String) : Option Int :=
  if r = resourceCPU then some (nodeCPUs topo k)
  else if r ∈ [resourceMemory, resourceHugepages2Mi, resourceHugepages1Gi] then
    some ((getD memCounters r ∅).getD k 0)
  else none

theorem lookup_capacityCounters (topo : MachineTopology) (memCounters : MemoryResourceCounters)
    (k : Int) (r : String) :
    (capacityCounters memCounters k (nodeCPUs topo k)).lookup r
      = hardwareFigure topo memCounters k r := by
  have hcpu : resourceCPU ≠ resourceMemory ∧ resourceCPU ≠ resourceHugepages2Mi
      ∧ resourceCPU ≠ resourceHugepages1Gi := by decide
  unfold capacityCounters hardwareFigure
  simp only [lookup_insert_eq, Finmap.lookup_empty, List.mem_cons, List.not_mem_nil, or_false]
  by_cases hr : r = resourceCPU
  · subst hr
    simp [hcpu]
  · rw [if_neg hr, if_neg hr]
    split_ifs <;> simp_all

theorem addNodeCapacity_of_mem {topo : MachineTopology} {nodeID : Nat}
    (h : (nodeID : Int) ∈ topo.ids) (memCounters : MemoryResourceCounters)
    (perNUMARc : PerNUMAResourceCounter) :
    addNodeCapacity topo memCounters perNUMARc nodeID
      = .ok (perNUMARc.insert (nodeID : Int)
          (capacityCounters memCounters nodeID (nodeCPUs topo nodeID))) := by
  rw [addNodeCapacity, cpuCapacity_of_mem h]
  rfl

theorem addNodeCapacity_of_notMem {topo : MachineTopology} {nodeID : Nat}
    (h : (nodeID : Int) ∉ topo.ids) (memCounters : MemoryResourceCounters)
    (perNUMARc : PerNUMAResourceCounter) :
    addNodeCapacity topo memCounters perNUMARc nodeID = .error .nilDereference := by
  rw [addNodeCapacity, cpuCapacity_of_notMem h]
  rfl

theorem updateNodeCapacity_ok {rm : ResourceMonitor}
    (h : ∀ i < rm.topo.nodes.length, (i : Int) ∈ rm.topo.ids)
    (memCounters : MemoryResourceCounters) :
    updateNodeCapacity (.ok memCounters) rm
      = .ok ({ rm with nodeCapacity := hardwareCapacity rm.topo memCounters }, none) := by
  have hloop : (List.range rm.topo.nodes.length).foldlM (addNodeCapacity rm.topo memCounters) ∅
      = .ok (hardwareCapacity rm.topo memCounters) :=
    foldlM_of_good (fun _ => True) (fun nodeID : Nat => (nodeID : Int) ∈ rm.topo.ids)
      (fun m _ _ hi => addNodeCapacity_of_mem hi memCounters m) (fun _ _ _ _ => trivial)
      (fun i hi => h i (List.mem_range.mp hi)) trivial
  rw [updateNodeCapacity, hloop]
  rfl

/-- **`updateNodeCapacity` completes iff every position is a node ID.** -/
theorem updateNodeCapacity_completes_iff (rm : ResourceMonitor)
    (memCounters : MemoryResourceCounters) :
    (∃ out, updateNodeCapacity (.ok memCounters) rm = .ok out)
      ↔ ∀ i < rm.topo.nodes.length, (i : Int) ∈ rm.topo.ids := by
  have hloop := foldlM_dichotomy (fun _ => True)
    (fun nodeID : Nat => (nodeID : Int) ∈ rm.topo.ids)
    (fun m _ _ hi => addNodeCapacity_of_mem hi memCounters m) (fun _ _ _ _ => trivial)
    (fun m _ _ hi => ⟨_, addNodeCapacity_of_notMem hi memCounters m⟩)
    (List.range rm.topo.nodes.length) (b := ∅) trivial
  constructor
  · rintro ⟨out, hout⟩ i hi
    refine hloop.mp ?_ i (List.mem_range.mpr hi)
    rcases hfold : (List.range rm.topo.nodes.length).foldlM
        (addNodeCapacity rm.topo memCounters) ∅ with p | m
    · rw [updateNodeCapacity, hfold] at hout
      cases hout
    · exact ⟨m, rfl⟩
  · intro h
    exact ⟨_, updateNodeCapacity_ok h memCounters⟩

/-! ### Device capacity -/

/-- One assignment of `updateDevicesCapacity`. -/
structure CapacityWrite where
  numaId : Int
  resName : String
  quan : Int

/-- The assignments of `updateDevicesCapacity`, in the order they are made. -/
def capacityWrites (ord : RefreshOrders) (nodeAllocatable : PerNUMAResourceCounter) :
    List CapacityWrite :=
  (ord.nodes.range nodeAllocatable).flatMap fun e =>
    (((ord.resources e.1).range e.2).filter fun rc => !isNativeResource rc.1).map fun rc =>
      ⟨e.1, rc.1, rc.2⟩

theorem mem_capacityWrites (ord : RefreshOrders) (nodeAllocatable : PerNUMAResourceCounter)
    (w : CapacityWrite) :
    w ∈ capacityWrites ord nodeAllocatable
      ↔ isNativeResource w.resName = false
        ∧ cell nodeAllocatable w.numaId w.resName = some w.quan := by
  rw [capacityWrites, List.mem_flatMap]
  constructor
  · rintro ⟨⟨k, rc⟩, hk, hw⟩
    obtain ⟨⟨r, q⟩, hr, rfl⟩ := List.mem_map.mp hw
    rw [List.mem_filter] at hr
    have hrc := ((ord.nodes.enumerates _).mem_iff k rc).mp hk
    have hq := (((ord.resources k).enumerates rc).mem_iff r q).mp hr.1
    exact ⟨by simpa using hr.2, by simp [cell, hrc, hq]⟩
  · rintro ⟨hnative, hcell⟩
    obtain ⟨rc, hrc, hq⟩ := Option.bind_eq_some_iff.mp hcell
    refine ⟨(w.numaId, rc), ((ord.nodes.enumerates _).mem_iff _ _).mpr hrc, ?_⟩
    refine List.mem_map.mpr ⟨(w.resName, w.quan), List.mem_filter.mpr ⟨?_, by simp [hnative]⟩, rfl⟩
    exact (((ord.resources w.numaId).enumerates rc).mem_iff _ _).mpr hq

theorem updateDevicesCapacity_eq (ord : RefreshOrders) (rm : ResourceMonitor) :
    updateDevicesCapacity ord rm
      = (fun nodeCapacity => { rm with nodeCapacity := nodeCapacity }) <$>
          (capacityWrites ord rm.nodeAllocatable).foldlM
            (fun m w => setCapacity m w.numaId w.resName w.quan) rm.nodeCapacity := by
  have hinner : ∀ (numaId : Int) (l : List (String × Int)) (m : PerNUMAResourceCounter),
      ((l.filter fun rc => !isNativeResource rc.1).map fun rc =>
        (⟨numaId, rc.1, rc.2⟩ : CapacityWrite)).foldlM
          (fun m w => setCapacity m w.numaId w.resName w.quan) m
      = l.foldlM (fun m rc => if isNativeResource rc.1 then pure m
          else setCapacity m numaId rc.1 rc.2) m := by
    intro numaId l m
    rw [List.foldlM_map, foldlM_filter]
    congr 1
    funext m rc
    by_cases hn : isNativeResource rc.1 <;> simp [hn]
  rw [updateDevicesCapacity, capacityWrites, foldlM_flatMap]
  simp only [hinner]
  exact bind_pure_comp _ _

/-- The effect of one assignment on a map that has the node. -/
def writeCapacity (nodeCapacity : PerNUMAResourceCounter) (w : CapacityWrite) :
    PerNUMAResourceCounter :=
  nodeCapacity.insert w.numaId ((getD nodeCapacity w.numaId ∅).insert w.resName w.quan)

theorem setCapacity_of_mem {nodeCapacity : PerNUMAResourceCounter} {w : CapacityWrite}
    (h : w.numaId ∈ nodeCapacity) :
    setCapacity nodeCapacity w.numaId w.resName w.quan = .ok (writeCapacity nodeCapacity w) := by
  obtain ⟨rc, hrc⟩ := Finmap.mem_iff.mp h
  simp only [setCapacity, assign, hrc, writeCapacity, getD, Option.getD_some]
  rfl

theorem setCapacity_of_notMem {nodeCapacity : PerNUMAResourceCounter} {w : CapacityWrite}
    (h : w.numaId ∉ nodeCapacity) :
    setCapacity nodeCapacity w.numaId w.resName w.quan = .error .nilMapWrite := by
  simp only [setCapacity, assign, Finmap.lookup_eq_none.mpr h]
  rfl

theorem cell_writeCapacity (nodeCapacity : PerNUMAResourceCounter) (w : CapacityWrite) (k : Int)
    (r : String) :
    cell (writeCapacity nodeCapacity w) k r
      = if k = w.numaId ∧ r = w.resName then some w.quan else cell nodeCapacity k r := by
  unfold cell writeCapacity
  rw [lookup_insert_eq]
  by_cases hk : k = w.numaId
  · subst hk
    rw [if_pos rfl, Option.bind_some, lookup_insert_eq]
    by_cases hr : r = w.resName
    · simp [hr]
    · rcases hrc : nodeCapacity.lookup w.numaId with - | rc <;> simp [hr, getD, hrc]
  · simp [hk]

/-- After the assignments, the cells written hold the allocatable figure and
the others are as before. -/
theorem cell_foldl_writeCapacity {alloc : PerNUMAResourceCounter} {l : List CapacityWrite}
    (h : ∀ w ∈ l, cell alloc w.numaId w.resName = some w.quan) (m : PerNUMAResourceCounter)
    (k : Int) (r : String) :
    cell (l.foldl writeCapacity m) k r
      = if ∃ w ∈ l, k = w.numaId ∧ r = w.resName then cell alloc k r else cell m k r := by
  classical
  induction l generalizing m with
  | nil => simp
  | cons w l ih =>
      rw [List.foldl_cons, ih (fun w' hw' => h w' (by simp [hw'])), cell_writeCapacity]
      by_cases hl : ∃ w ∈ l, k = w.numaId ∧ r = w.resName
      · rw [if_pos hl, if_pos]
        obtain ⟨w', hw', hkr⟩ := hl
        exact ⟨w', by simp [hw'], hkr⟩
      · rw [if_neg hl]
        by_cases hw : k = w.numaId ∧ r = w.resName
        · rw [if_pos hw, if_pos ⟨w, by simp, hw⟩, hw.1, hw.2, h w (by simp)]
        · rw [if_neg hw, if_neg]
          rintro ⟨w', hw', hkr⟩
          rcases List.mem_cons.mp hw' with rfl | hmem
          · exact hw hkr
          · exact hl ⟨w', hmem, hkr⟩

theorem mem_writeCapacity_iff {nodeCapacity : PerNUMAResourceCounter} {w : CapacityWrite}
    (h : w.numaId ∈ nodeCapacity) (k : Int) :
    k ∈ writeCapacity nodeCapacity w ↔ k ∈ nodeCapacity := by
  rw [writeCapacity, Finmap.mem_insert, or_iff_right_iff_imp]
  rintro rfl
  exact h

/-- The state after a completed `updateDevicesCapacity`. -/
def withDevicesCapacity (ord : RefreshOrders) (rm : ResourceMonitor) : ResourceMonitor :=
  { rm with nodeCapacity :=
      (capacityWrites ord rm.nodeAllocatable).foldl writeCapacity rm.nodeCapacity }

theorem updateDevicesCapacity_ok {ord : RefreshOrders} {rm : ResourceMonitor}
    (h : ∀ w ∈ capacityWrites ord rm.nodeAllocatable, w.numaId ∈ rm.nodeCapacity) :
    updateDevicesCapacity ord rm = .ok (withDevicesCapacity ord rm) := by
  have hloop := foldlM_of_good
    -- the writes never add or remove a node
    (fun m : PerNUMAResourceCounter => ∀ k, k ∈ m ↔ k ∈ rm.nodeCapacity)
    (fun w : CapacityWrite => w.numaId ∈ rm.nodeCapacity)
    (fun m w hm hw => setCapacity_of_mem ((hm w.numaId).mpr hw))
    (fun m w hm hw k => (mem_writeCapacity_iff ((hm w.numaId).mpr hw) k).trans (hm k))
    h (fun _ => Iff.rfl)
  rw [updateDevicesCapacity_eq, hloop]
  rfl

theorem updateDevicesCapacity_completes_iff (ord : RefreshOrders) (rm : ResourceMonitor) :
    (∃ rm', updateDevicesCapacity ord rm = .ok rm')
      ↔ ∀ w ∈ capacityWrites ord rm.nodeAllocatable, w.numaId ∈ rm.nodeCapacity := by
  have hloop := foldlM_dichotomy
    (fun m : PerNUMAResourceCounter => ∀ k, k ∈ m ↔ k ∈ rm.nodeCapacity)
    (fun w : CapacityWrite => w.numaId ∈ rm.nodeCapacity)
    (fun m w hm hw => setCapacity_of_mem ((hm w.numaId).mpr hw))
    (fun m w hm hw k => (mem_writeCapacity_iff ((hm w.numaId).mpr hw) k).trans (hm k))
    (fun m w hm hw => ⟨_, setCapacity_of_notMem (mt (hm w.numaId).mp hw)⟩)
    (capacityWrites ord rm.nodeAllocatable) (fun _ => Iff.rfl)
  rw [← hloop, updateDevicesCapacity_eq]
  constructor
  · rintro ⟨rm', h⟩
    rcases hfold : (capacityWrites ord rm.nodeAllocatable).foldlM
        (fun m w => setCapacity m w.numaId w.resName w.quan) rm.nodeCapacity with p | m
    · rw [hfold] at h
      cases h
    · exact ⟨m, hfold⟩
  · rintro ⟨m, h⟩
    exact ⟨_, by rw [h]; rfl⟩

theorem lookup_getD_empty (counters : PerNUMAResourceCounter) (k : Int) (r : String) :
    (getD counters k ∅).lookup r = cell counters k r := by
  rw [getD, cell]
  rcases counters.lookup k with - | rc
  · exact Finmap.lookup_empty r
  · rfl

/-- After `updateDevicesCapacity` a device's capacity is its allocatable figure;
native resources keep theirs. -/
theorem cell_withDevicesCapacity (ord : RefreshOrders) (rm : ResourceMonitor) (k : Int)
    (r : String) :
    cell (withDevicesCapacity ord rm).nodeCapacity k r
      = if isNativeResource r = false ∧ (cell rm.nodeAllocatable k r).isSome then
          cell rm.nodeAllocatable k r
        else cell rm.nodeCapacity k r := by
  rw [withDevicesCapacity, cell_foldl_writeCapacity
    fun w hw => ((mem_capacityWrites ord _ w).mp hw).2]
  refine if_congr ?_ rfl rfl
  constructor
  · rintro ⟨w, hw, rfl, rfl⟩
    obtain ⟨hnative, hcell⟩ := (mem_capacityWrites ord _ w).mp hw
    exact ⟨hnative, by simp [hcell]⟩
  · rintro ⟨hnative, hsome⟩
    obtain ⟨q, hq⟩ := Option.isSome_iff_exists.mp hsome
    exact ⟨⟨k, r, q⟩, (mem_capacityWrites ord _ _).mpr ⟨hnative, hq⟩, rfl, rfl⟩

/-- The assignments neither add nor remove a node. -/
theorem mem_foldl_writeCapacity {l : List CapacityWrite} {m : PerNUMAResourceCounter}
    (h : ∀ w ∈ l, w.numaId ∈ m) (k : Int) : k ∈ l.foldl writeCapacity m ↔ k ∈ m := by
  induction l generalizing m with
  | nil => rfl
  | cons w l ih =>
      have hw := mem_writeCapacity_iff (h w (by simp))
      rw [List.foldl_cons, ih fun w' hw' => (hw w'.numaId).mpr (h w' (by simp [hw'])), hw]

/-- The only panic of `updateDevicesCapacity` is a write to a nil map. -/
theorem updateDevicesCapacity_panics {ord : RefreshOrders} {rm : ResourceMonitor}
    (h : ¬ ∀ w ∈ capacityWrites ord rm.nodeAllocatable, w.numaId ∈ rm.nodeCapacity) :
    updateDevicesCapacity ord rm = .error .nilMapWrite := by
  rw [← updateDevicesCapacity_completes_iff] at h
  rcases hdev : updateDevicesCapacity ord rm with p | rm'
  · rw [updateDevicesCapacity_eq] at hdev
    rcases hfold : (capacityWrites ord rm.nodeAllocatable).foldlM
        (fun m w => setCapacity m w.numaId w.resName w.quan) rm.nodeCapacity with p' | m
    · rw [hfold] at hdev
      cases hdev
      refine congrArg Except.error (foldlM_error_eq (fun m w p' hp => ?_) _ hfold)
      by_cases hw : w.numaId ∈ m
      · rw [setCapacity_of_mem hw] at hp
        cases hp
      · rw [setCapacity_of_notMem hw] at hp
        exact (Except.error.inj hp).symm
    · rw [hfold] at hdev
      cases hdev
  · exact absurd ⟨rm', hdev⟩ h

/-- The order of the assignments does not show, not even in a panic. -/
theorem updateDevicesCapacity_orders (ord ord' : RefreshOrders) (rm : ResourceMonitor) :
    updateDevicesCapacity ord rm = updateDevicesCapacity ord' rm := by
  have hwrites : ∀ w, w ∈ capacityWrites ord rm.nodeAllocatable
      ↔ w ∈ capacityWrites ord' rm.nodeAllocatable := fun w => by
    rw [mem_capacityWrites, mem_capacityWrites]
  by_cases h : ∀ w ∈ capacityWrites ord rm.nodeAllocatable, w.numaId ∈ rm.nodeCapacity
  · have h' : ∀ w ∈ capacityWrites ord' rm.nodeAllocatable, w.numaId ∈ rm.nodeCapacity :=
      fun w hw => h w ((hwrites w).mpr hw)
    have hcapacity : (withDevicesCapacity ord rm).nodeCapacity
        = (withDevicesCapacity ord' rm).nodeCapacity := by
      apply eq_of_cell_eq
      · intro k
        exact (mem_foldl_writeCapacity h k).trans (mem_foldl_writeCapacity h' k).symm
      · intro k r
        rw [cell_withDevicesCapacity, cell_withDevicesCapacity]
    rw [updateDevicesCapacity_ok h, updateDevicesCapacity_ok h']
    refine congrArg Except.ok ?_
    exact congrArg (fun nodeCapacity => { rm with nodeCapacity := nodeCapacity }) hcapacity
  · rw [updateDevicesCapacity_panics h, updateDevicesCapacity_panics]
    simp only [← hwrites]
    exact h

/-! ### The whole refresh -/

/-- **A refresh does not depend on iteration orders.** -/
theorem updateNodeResources_orders (ord ord' : RefreshOrders)
    (mem : Except String MemoryResourceCounters)
    (alloc : Except String AllocatableResourcesResponse) (rm : ResourceMonitor) :
    updateNodeResources ord mem alloc rm = updateNodeResources ord' mem alloc rm := by
  have halloc : ∀ rm, updateNodeAllocatable ord.cpus alloc rm
      = updateNodeAllocatable ord'.cpus alloc rm := by
    intro rm
    rcases alloc with err | allocRes
    · rfl
    · simp only [updateNodeAllocatable]
      rw [counters_normalize_orders ord.cpus _ _ _ _ ord'.cpus]
  simp only [updateNodeResources, halloc, updateDevicesCapacity_orders ord ord']


/-- Device resources are reported on nodes of the topology only.  A memory block
of a type that is not native counts as a device. -/
def DevicesOnTopology (topo : MachineTopology) (allocRes : AllocatableResourcesResponse) : Prop :=
  (∀ device ∈ allocRes.devices, isNativeResource device.resourceName = false →
    ∀ node ∈ getNodes device.topology, node.id ∈ topo.ids)
  ∧ ∀ block ∈ allocRes.memory, block.size ≠ 0 → isNativeResource block.memoryType = false →
    ∀ node ∈ getNodes block.topology, node.id ∈ topo.ids

instance (topo : MachineTopology) (allocRes : AllocatableResourcesResponse) :
    Decidable (DevicesOnTopology topo allocRes) :=
  inferInstanceAs (Decidable (_ ∧ _))

/-- Every device resource allocatable on a node of the topology has that figure
as its capacity. -/
def DevicesCapacityIsAllocatable (rm : ResourceMonitor) : Prop :=
  ∀ k ∈ rm.topo.ids, ∀ r, isNativeResource r = false → ∀ quan,
    cell rm.nodeAllocatable k r = some quan → cell rm.nodeCapacity k r = some quan

section Whole

variable (ord : RefreshOrders) (memCounters : MemoryResourceCounters)
variable (allocRes : AllocatableResourcesResponse) (rm : ResourceMonitor)

/-- The normalised entries of a kubelet answer. -/
def allocatableDevices : List ContainerDevices :=
  normalizeContainerDevices ord.cpus allocRes.devices allocRes.memory allocRes.cpuIds
    rm.coreIDToNodeIDMap

/-- The state just before `updateDevicesCapacity`. -/
def withHardware : ResourceMonitor :=
  { rm with
    nodeCapacity := hardwareCapacity rm.topo memCounters
    nodeAllocatable :=
      containerDevicesToPerNUMAResourceCounters (allocatableDevices ord allocRes rm) }

theorem devicesOnTopology_iff_mentions :
    DevicesOnTopology rm.topo allocRes
      ↔ ∀ k r, isNativeResource r = false → Mentions (allocatableDevices ord allocRes rm) k r →
          k ∈ rm.topo.ids := by
  constructor
  · rintro ⟨hdev, hmem⟩ k r hnative hk
    rcases (mentions_normalizeContainerDevices ..).mp hk with
      ⟨device, hdevice, rfl, node, hnode, rfl⟩ | ⟨rfl, -⟩ | ⟨block, hblock, hsize, rfl, node, hnode, rfl⟩
    · exact hdev device hdevice hnative node hnode
    · exact absurd hnative (by decide)
    · exact hmem block hblock hsize hnative node hnode
  · intro h
    refine ⟨fun device hdevice hnative node hnode => ?_,
      fun block hblock hsize hnative node hnode => ?_⟩
    · exact h _ _ hnative ((mentions_normalizeContainerDevices ..).mpr
        (.inl ⟨device, hdevice, rfl, node, hnode, rfl⟩))
    · exact h _ _ hnative ((mentions_normalizeContainerDevices ..).mpr
        (.inr (.inr ⟨block, hblock, hsize, rfl, node, hnode, rfl⟩)))

/-- On contiguous IDs, the writes of `updateDevicesCapacity` find their node iff
all devices are on the topology. -/
theorem capacityWrites_on_topology_iff (hids : ContiguousIDs rm.topo) :
    (∀ w ∈ capacityWrites ord (withHardware ord memCounters allocRes rm).nodeAllocatable,
        w.numaId ∈ (withHardware ord memCounters allocRes rm).nodeCapacity)
      ↔ DevicesOnTopology rm.topo allocRes := by
  have hmem : ∀ k : Int, k ∈ hardwareCapacity rm.topo memCounters ↔ k ∈ rm.topo.ids := by
    intro k
    rw [hids.mem_iff, ← Finmap.lookup_isSome, lookup_hardwareCapacity]
    split_ifs with hk <;> simp [hk]
  rw [devicesOnTopology_iff_mentions ord]
  simp only [mem_capacityWrites, withHardware, hmem]
  constructor
  · intro h k r hnative hk
    obtain ⟨quan, hquan⟩ := Option.isSome_iff_exists.mp (isSome_cell_counters_iff.mpr hk)
    exact h ⟨k, r, quan⟩ ⟨hnative, hquan⟩
  · rintro h ⟨k, r, quan⟩ ⟨hnative, hcell⟩
    exact h k r hnative (isSome_cell_counters_iff.mp (Option.isSome_of_mem hcell))

theorem updateNodeResources_eq (hids : ContiguousIDs rm.topo) :
    updateNodeResources ord (.ok memCounters) (.ok allocRes) rm
      = (fun rm' => (rm', none)) <$>
          updateDevicesCapacity ord (withHardware ord memCounters allocRes rm) := by
  have hall : ∀ i < rm.topo.nodes.length, (i : Int) ∈ rm.topo.ids := fun i hi =>
    (hids.mem_iff i).mpr ⟨Int.natCast_nonneg i, Int.ofNat_lt.mpr hi⟩
  rw [updateNodeResources, updateNodeCapacity_ok hall]
  exact bind_pure_comp (fun rm' => (rm', none))
    (updateDevicesCapacity ord (withHardware ord memCounters allocRes rm))

/-- A refresh that completes, and the state it leaves. -/
theorem updateNodeResources_ok (hids : ContiguousIDs rm.topo)
    (hdev : DevicesOnTopology rm.topo allocRes) :
    updateNodeResources ord (.ok memCounters) (.ok allocRes) rm
      = .ok (withDevicesCapacity ord (withHardware ord memCounters allocRes rm), none) := by
  rw [updateNodeResources_eq ord memCounters allocRes rm hids, updateDevicesCapacity_ok
    ((capacityWrites_on_topology_iff ord memCounters allocRes rm hids).mpr hdev)]
  rfl

/-- **A refresh completes with matching device capacities iff the kubelet
reports device resources on nodes of the topology only.**  A device without
locality, which reports node `-1`, already makes it panic. -/
theorem updateNodeResources_total_iff (hids : ContiguousIDs rm.topo) :
    (∃ out, updateNodeResources ord (.ok memCounters) (.ok allocRes) rm = .ok out
        ∧ DevicesCapacityIsAllocatable out.1)
      ↔ DevicesOnTopology rm.topo allocRes := by
  constructor
  · rintro ⟨out, hout, -⟩
    rw [← capacityWrites_on_topology_iff ord memCounters allocRes rm hids,
      ← updateDevicesCapacity_completes_iff]
    rw [updateNodeResources_eq ord memCounters allocRes rm hids] at hout
    rcases h : updateDevicesCapacity ord (withHardware ord memCounters allocRes rm) with p | rm'
    · rw [h] at hout
      cases hout
    · exact ⟨rm', rfl⟩
  · intro hdev
    refine ⟨_, updateNodeResources_ok ord memCounters allocRes rm hids hdev, ?_⟩
    intro k _ r hnative quan hquan
    rw [cell_withDevicesCapacity, if_pos ⟨hnative, Option.isSome_of_mem hquan⟩]
    exact hquan

/-- The capacity a scan looks up after a refresh: of a device that is reported, what is
allocatable; of anything else, the hardware figure. -/
theorem lookup_nodeCapacity {nodeID : Nat} (hlt : nodeID < rm.topo.nodes.length) (r : String) :
    (getD (withDevicesCapacity ord (withHardware ord memCounters allocRes rm)).nodeCapacity
        nodeID ∅).lookup r
      = if isNativeResource r = false
            ∧ (cell (containerDevicesToPerNUMAResourceCounters
                (allocatableDevices ord allocRes rm)) nodeID r).isSome
        then cell (containerDevicesToPerNUMAResourceCounters
          (allocatableDevices ord allocRes rm)) nodeID r
        else hardwareFigure rm.topo memCounters nodeID r := by
  have hhardware : cell (withHardware ord memCounters allocRes rm).nodeCapacity nodeID r
      = hardwareFigure rm.topo memCounters nodeID r := by
    show ((hardwareCapacity rm.topo memCounters).lookup (nodeID : Int)).bind _ = _
    rw [lookup_hardwareCapacity, if_pos ⟨Int.natCast_nonneg _, Int.ofNat_lt.mpr hlt⟩]
    exact lookup_capacityCounters ..
  rw [lookup_getD_empty, cell_withDevicesCapacity, hhardware]
  rfl

/-- The capacity of a native resource is looked up in the hardware figures. -/
theorem lookup_nodeCapacity_native {nodeID : Nat} (hlt : nodeID < rm.topo.nodes.length)
    {r : String} (hr : isNativeResource r = true) :
    (getD (withDevicesCapacity ord (withHardware ord memCounters allocRes rm)).nodeCapacity
        nodeID ∅).lookup r
      = hardwareFigure rm.topo memCounters nodeID r := by
  rw [lookup_nodeCapacity ord memCounters allocRes rm hlt, if_neg]
  rintro ⟨hdevice, -⟩
  rw [hr] at hdevice
  cases hdevice

/-- What a successful refresh leaves behind. -/
theorem updateNodeResources_inv {ord : RefreshOrders} {mem : Except String MemoryResourceCounters}
    {allocRes : AllocatableResourcesResponse} {rm rm' : ResourceMonitor}
    (hids : ContiguousIDs rm.topo)
    (h : updateNodeResources ord mem (.ok allocRes) rm = .ok (rm', none)) :
    ∃ memCounters, rm' = withDevicesCapacity ord (withHardware ord memCounters allocRes rm) := by
  rcases mem with err | memCounters
  · -- a failed sysfs read is reported
    cases h
  · rw [updateNodeResources_eq ord memCounters allocRes rm hids] at h
    rcases hdev : updateDevicesCapacity ord (withHardware ord memCounters allocRes rm) with p | rm''
    · rw [hdev] at h
      cases h
    · have hok := updateDevicesCapacity_ok
        ((updateDevicesCapacity_completes_iff ord _).mp ⟨rm'', hdev⟩)
      rw [hok] at h
      cases h
      exact ⟨memCounters, rfl⟩

end Whole

/-- The two CPUs and the one device of a single-node machine: the refresh
completes and the device's capacity is its allocatable figure. -/
theorem updateNodeResources_total_local_device :
    ∃ out, updateNodeResources .sorted (.ok ∅)
        (.ok ⟨[⟨"vendor.com/nic", ["nic0"], some ⟨[⟨0⟩]⟩⟩], [0, 1], []⟩)
        (initialMonitor "worker" ⟨"", false, ""⟩ ⟨[⟨0, [⟨[0, 1]⟩], [10]⟩]⟩) = .ok out
      ∧ DevicesCapacityIsAllocatable out.1 :=
  (updateNodeResources_total_iff .sorted ∅ _ _ (by decide)).mpr (by decide)

/-- On the same machine, a device plugin that reports node `-1`: the refresh
writes to a nil map. -/
theorem updateNodeResources_nonlocal_device_panics :
    ContiguousIDs ⟨[⟨0, [⟨[0, 1]⟩], [10]⟩]⟩
      ∧ updateNodeResources .sorted (.ok ∅)
          (.ok ⟨[⟨"vendor.com/nic", ["nic0"], some ⟨[⟨-1⟩]⟩⟩], [0, 1], []⟩)
          (initialMonitor "worker" ⟨"", false, ""⟩ ⟨[⟨0, [⟨[0, 1]⟩], [10]⟩]⟩)
        = .error .nilMapWrite :=
  ⟨by decide, by rfl⟩

end TopologyExporter
