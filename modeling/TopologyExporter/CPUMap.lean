/-
TopologyExporter/CPUMap.lean

Two ways of counting the CPUs of a NUMA node.

Capacity walks over the cores of the node (`cpuCapacity`).  Allocatable and used figures
go the other way: `MakeCoreIDToNodeIDMap` turns the topology into a map from processors
to nodes, and a list of CPU IDs is grouped through it.  The map is written processor by
processor, so a processor that occurs twice would end up on one node only; where every
processor occurs once, `lookup_makeCoreIDToNodeIDMap_iff` says that the map is the
topology read backwards.

`cpu_map_agrees` draws the conclusions: the map sends to a node as many processors as it
has, the counter of a list is the number of its processors on the node, and no listed
processor is lost or counted on two nodes.
-/
import TopologyExporter.Scan
import Mathlib.Algebra.BigOperators.Ring.Finset

namespace TopologyExporter

open GoMap

/-! ### Processors -/

/-- The logical processors of a node, core by core. -/
def TopologyNode.processors (node : TopologyNode) : List Int :=
  node.cores.flatMap fun core => core.logicalProcessors

/-- The logical processors of the machine. -/
def MachineTopology.processors (topo : MachineTopology) : List Int :=
  topo.nodes.flatMap fun node => node.processors

/-- The processors of the machine, each with the node that it is on. -/
def MachineTopology.placedProcessors (topo : MachineTopology) : List (Int × Int) :=
  topo.nodes.flatMap fun node => node.processors.map fun procID => (procID, node.id)

/-- The capacity loop counts the processors. -/
theorem logicalCores_eq (node : TopologyNode) : logicalCores node = node.processors.length := by
  have hfold : ∀ (cores : List ProcessorCore) (acc : Nat),
      cores.foldl (fun acc core => acc + core.logicalProcessors.length) acc
        = acc + (cores.flatMap fun core => core.logicalProcessors).length := by
    intro cores
    induction cores with
    | nil => intro acc; rfl
    | cons core cores ih =>
        intro acc
        rw [List.foldl_cons, ih, List.flatMap_cons, List.length_append, Nat.add_assoc]
  rw [logicalCores, hfold, Nat.zero_add]
  rfl

theorem makeCoreIDToNodeIDMap_eq_foldl (topo : MachineTopology) :
    makeCoreIDToNodeIDMap topo
      = topo.placedProcessors.foldl (fun (m : GoMap Int Int) e => m.insert e.1 e.2) ∅ := by
  simp only [makeCoreIDToNodeIDMap, MachineTopology.placedProcessors, TopologyNode.processors,
    List.foldl_flatMap, List.foldl_map]

theorem map_fst_placedProcessors (topo : MachineTopology) :
    topo.placedProcessors.map Prod.fst = topo.processors := by
  rw [MachineTopology.placedProcessors, List.map_flatMap, MachineTopology.processors]
  congr 1
  funext node
  rw [List.map_map]
  exact List.map_id _

/-! ### The map -/

section Map

variable {topo : MachineTopology} (hprocs : topo.processors.Nodup)
include hprocs

/-- **The map is the topology read backwards**, if every processor occurs once. -/
theorem lookup_makeCoreIDToNodeIDMap_iff (procID k : Int) :
    (makeCoreIDToNodeIDMap topo).lookup procID = some k
      ↔ ∃ node ∈ topo.nodes, procID ∈ node.processors ∧ node.id = k := by
  have hnodup : (topo.placedProcessors.map Prod.fst).Nodup := by
    rw [map_fst_placedProcessors]
    exact hprocs
  rw [makeCoreIDToNodeIDMap_eq_foldl, lookup_foldl_insert_iff hnodup,
    MachineTopology.placedProcessors, List.mem_flatMap]
  refine exists_congr fun node => and_congr_right fun _ => ?_
  rw [List.mem_map]
  constructor
  · rintro ⟨procID', hmem, heq⟩
    obtain ⟨rfl, rfl⟩ := Prod.mk.inj heq
    exact ⟨hmem, rfl⟩
  · rintro ⟨hmem, rfl⟩
    exact ⟨procID, hmem, rfl⟩

/-- With distinct IDs as well, the map sends to a node the processors of the node. -/
theorem lookup_eq_id_iff (hids : topo.ids.Nodup) {node : TopologyNode} (hnode : node ∈ topo.nodes)
    (procID : Int) :
    (makeCoreIDToNodeIDMap topo).lookup procID = some node.id ↔ procID ∈ node.processors := by
  rw [lookup_makeCoreIDToNodeIDMap_iff hprocs]
  constructor
  · rintro ⟨node', hnode', hmem, hid⟩
    rw [← List.inj_on_of_nodup_map hids hnode' hnode hid]
    exact hmem
  · intro hmem
    exact ⟨node, hnode, hmem, rfl⟩

/-- A processor is known to the map if it is in the topology. -/
theorem lookup_isSome_iff (procID : Int) :
    ((makeCoreIDToNodeIDMap topo).lookup procID).isSome ↔ procID ∈ topo.processors := by
  rw [Option.isSome_iff_exists, MachineTopology.processors, List.mem_flatMap]
  simp only [lookup_makeCoreIDToNodeIDMap_iff hprocs]
  constructor
  · rintro ⟨k, node, hnode, hmem, -⟩
    exact ⟨node, hnode, hmem⟩
  · rintro ⟨node, hnode, hmem⟩
    exact ⟨node.id, node, hnode, hmem, rfl⟩

end Map

/-! ### The counters -/

/-- The processors that the map sends to node `k`. -/
def sentTo (coreIDToNodeIDMap : GoMap Int Int) (k : Int) : Finset Int :=
  coreIDToNodeIDMap.keys.filter fun procID => coreIDToNodeIDMap.lookup procID = some k

theorem mem_sentTo_iff {coreIDToNodeIDMap : GoMap Int Int} {k procID : Int} :
    procID ∈ sentTo coreIDToNodeIDMap k ↔ coreIDToNodeIDMap.lookup procID = some k := by
  rw [sentTo, Finset.mem_filter, Finmap.mem_keys]
  exact and_iff_right_of_imp Finmap.mem_of_lookup_eq_some

/-- The counter of CPUs on node `k` that the three lists come to. -/
def cpuCounter (ord : RangeOrder Int (List String)) (devices : List ContainerDevices)
    (memoryBlocks : List ContainerMemory) (cpuIds : List Int) (topo : MachineTopology) (k : Int) :
    Int :=
  (cell (containerDevicesToPerNUMAResourceCounters (normalizeContainerDevices ord devices
    memoryBlocks cpuIds (makeCoreIDToNodeIDMap topo))) k resourceCPU).getD 0

/-- If nothing else is named like a CPU, the counter is that of the CPUs. -/
theorem cpuCounter_eq {devices : List ContainerDevices} {memoryBlocks : List ContainerMemory}
    (hdevices : ∀ device ∈ devices, device.resourceName ≠ resourceCPU)
    (hmemory : ∀ block ∈ memoryBlocks, block.memoryType ≠ resourceCPU)
    (ord : RangeOrder Int (List String)) (cpuIds : List Int) (topo : MachineTopology) (k : Int) :
    cpuCounter ord devices memoryBlocks cpuIds topo k
      = cpuCount (makeCoreIDToNodeIDMap topo) cpuIds k := by
  have hentries : demand devices k resourceCPU = 0 :=
    demand_eq_zero fun device hdevice => if_neg (hdevices device hdevice)
  have hblocks : (memoryBlocks.map (blockDemand k resourceCPU)).sum = 0 := by
    refine List.sum_eq_zero fun x hx => ?_
    obtain ⟨block, hblock, rfl⟩ := List.mem_map.mp hx
    exact if_neg fun h => hmemory block hblock h.1
  rw [cpuCounter, cell_counters_getD, counted, isMemoryResource_cpu,
    demand_normalizeContainerDevices, listsDemand, hentries, hblocks]
  simp

/-- Over all nodes, each CPU that the map knows is counted once. -/
theorem sum_cpuCount {coreIDToNodeIDMap : GoMap Int Int} {S : Finset Int}
    (h : ∀ procID k, coreIDToNodeIDMap.lookup procID = some k → k ∈ S) (cpuIds : List Int) :
    ∑ k ∈ S, cpuCount coreIDToNodeIDMap cpuIds k
      = cpuIds.countP fun cpuID => (coreIDToNodeIDMap.lookup cpuID).isSome := by
  unfold cpuCount
  induction cpuIds with
  | nil => simp
  | cons cpuID cpuIds ih =>
      simp only [List.countP_cons, Finset.sum_add_distrib, ih]
      rcases hnode : coreIDToNodeIDMap.lookup cpuID with - | nodeID
      · simp
      · -- the one node that the CPU is sent to
        simp [h cpuID nodeID hnode]

section Node

variable {topo : MachineTopology} (hids : topo.ids.Nodup) (hprocs : topo.processors.Nodup)
variable {node : TopologyNode} (hnode : node ∈ topo.nodes)
include hids hprocs hnode

theorem card_sentTo :
    (sentTo (makeCoreIDToNodeIDMap topo) node.id).card = node.processors.length := by
  have hsent : sentTo (makeCoreIDToNodeIDMap topo) node.id = node.processors.toFinset := by
    ext procID
    rw [mem_sentTo_iff, lookup_eq_id_iff hprocs hids hnode, List.mem_toFinset]
  rw [hsent, List.toFinset_card_of_nodup ((List.nodup_flatMap.mp hprocs).1 node hnode)]

theorem cpuCount_eq (cpuIds : List Int) :
    cpuCount (makeCoreIDToNodeIDMap topo) cpuIds node.id
      = (cpuIds.filter fun cpuID => cpuID ∈ node.processors).length := by
  rw [cpuCount, List.countP_eq_length_filter]
  simp only [lookup_eq_id_iff hprocs hids hnode]

/-- No listed processor occurs twice, so those of the node are part of its processors. -/
theorem cpuCount_le {cpuIds : List Int} (hcpus : cpuIds.Nodup) :
    cpuCount (makeCoreIDToNodeIDMap topo) cpuIds node.id ≤ node.processors.length := by
  have hsub : (cpuIds.filter fun cpuID => cpuID ∈ node.processors).Subperm node.processors :=
    (hcpus.filter _).subperm fun cpuID hmem => of_decide_eq_true (List.mem_filter.mp hmem).2
  rw [cpuCount_eq hids hprocs hnode]
  exact hsub.length_le

end Node

/-- **The CPU map and the CPU capacity agree.**  On a machine with distinct node IDs and
distinct processors: the map sends to each node as many processors as its capacity; the
counter of a list of CPUs on a node is the number of its processors in the list, which is
at most the capacity; and the counters add up to the number of listed CPUs that the
machine has. -/
theorem cpu_map_agrees {topo : MachineTopology} (hids : topo.ids.Nodup)
    (hprocs : topo.processors.Nodup) (ord : RangeOrder Int (List String)) {cpuIds : List Int}
    (hcpus : cpuIds.Nodup) {devices : List ContainerDevices} {memoryBlocks : List ContainerMemory}
    (hdevices : ∀ device ∈ devices, device.resourceName ≠ resourceCPU)
    (hmemory : ∀ block ∈ memoryBlocks, block.memoryType ≠ resourceCPU) :
    (∀ node ∈ topo.nodes,
        cpuCapacity topo node.id = .ok ((sentTo (makeCoreIDToNodeIDMap topo) node.id).card : Int)
        ∧ cpuCounter ord devices memoryBlocks cpuIds topo node.id
          = (cpuIds.filter fun cpuID => cpuID ∈ node.processors).length
        ∧ cpuCounter ord devices memoryBlocks cpuIds topo node.id
          ≤ (sentTo (makeCoreIDToNodeIDMap topo) node.id).card)
      ∧ (∀ k ∉ topo.ids, cpuCounter ord devices memoryBlocks cpuIds topo k = 0)
      ∧ ∑ k ∈ topo.ids.toFinset, cpuCounter ord devices memoryBlocks cpuIds topo k
        = (cpuIds.filter fun cpuID => cpuID ∈ topo.processors).length := by
  have hknown : ∀ procID k, (makeCoreIDToNodeIDMap topo).lookup procID = some k → k ∈ topo.ids := by
    intro procID k hlookup
    obtain ⟨node, hnode, -, rfl⟩ := (lookup_makeCoreIDToNodeIDMap_iff hprocs procID k).mp hlookup
    exact List.mem_map_of_mem hnode
  simp only [cpuCounter_eq hdevices hmemory]
  refine ⟨fun node hnode => ⟨?_, ?_, ?_⟩, fun k hk => ?_, ?_⟩
  · rw [cpuCapacity, findNodeByID_self hids hnode, card_sentTo hids hprocs hnode,
      ← logicalCores_eq]
  · rw [cpuCount_eq hids hprocs hnode]
  · rw [card_sentTo hids hprocs hnode]
    exact Int.ofNat_le.mpr (cpuCount_le hids hprocs hnode hcpus)
  · -- the map sends processors to nodes of the machine only
    rw [cpuCount, List.countP_eq_zero.mpr]
    · rfl
    · intro cpuID _ hlookup
      exact hk (hknown cpuID k (of_decide_eq_true hlookup))
  · have hlisted : ∀ cpuID, ((makeCoreIDToNodeIDMap topo).lookup cpuID).isSome
        = decide (cpuID ∈ topo.processors) := fun cpuID => by
      rw [Bool.eq_iff_iff, decide_eq_true_eq]
      exact lookup_isSome_iff hprocs cpuID
    rw [← Nat.cast_sum, sum_cpuCount fun procID k h => List.mem_toFinset.mpr (hknown procID k h),
      List.countP_eq_length_filter]
    simp only [hlisted]

/-- Of three listed CPUs the machine has two. -/
theorem cpu_map_agrees_two_nodes :
    cpuCapacity twoNodeTopology 1
        = .ok ((sentTo (makeCoreIDToNodeIDMap twoNodeTopology) 1).card : Int)
      ∧ ∑ k ∈ twoNodeTopology.ids.toFinset,
          cpuCounter (sortedOrder Int _) twoNodeAllocatable.devices twoNodeAllocatable.memory
            [2, 0, 9] twoNodeTopology k = 2 := by
  have hids : twoNodeTopology.ids.Nodup := by decide
  have hprocs : twoNodeTopology.processors.Nodup := by decide
  have hcpus : ([2, 0, 9] : List Int).Nodup := by decide
  have hdevices : ∀ device ∈ twoNodeAllocatable.devices, device.resourceName ≠ resourceCPU := by
    decide
  have hmemory : ∀ block ∈ twoNodeAllocatable.memory, block.memoryType ≠ resourceCPU := by decide
  obtain ⟨hnodes, -, hsum⟩ :=
    cpu_map_agrees hids hprocs (sortedOrder Int _) hcpus hdevices hmemory
  exact ⟨(hnodes _ List.mem_cons_self).1, hsum⟩

end TopologyExporter
