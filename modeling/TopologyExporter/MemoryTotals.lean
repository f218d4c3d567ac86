/-
TopologyExporter/MemoryTotals.lean

Memory that pods reserve, summed over all NUMA nodes.

A memory block has one size and a list of nodes.  Normalisation turns it into one entry
per node, each with the full size, so a block that spans several nodes is counted as
often as it names a node.  `totalOverNodes_eq` is the sum of the counters in terms of
the kubelet's lists; what it has too much is the surplus of such blocks, up to the
wrapping of the accumulators.  `memory_counted_once_iff` says exactly when the sum is
what the pods reserve, and `memory_counted_once_iff_single_node` says it for lists as
the kubelet sends them: no block may span two nodes.
-/
import TopologyExporter.ConsistentPods
import Mathlib.Algebra.BigOperators.Ring.Finset

namespace TopologyExporter

open GoMap GoInt

/-! ### Bytes -/

/-- The counters of resource `r`, summed over all NUMA nodes. -/
def totalOverNodes (counters : PerNUMAResourceCounter) (r : String) : Int :=
  ∑ k ∈ counters.keys, (cell counters k r).getD 0

/-- What the blocks of type `r` reserve: each block that names a NUMA node, once. -/
def reservedBytes (r : String) (memory : List ContainerMemory) : Nat :=
  ((memory.filter fun block => block.memoryType = r ∧ getNodes block.topology ≠ []).map
    fun block => block.size.toNat).sum

/-- What the blocks of type `r` are counted for beyond that: once more for every node
after the first. -/
def surplusBytes (r : String) (memory : List ContainerMemory) : Nat :=
  ((memory.filter fun block => block.memoryType = r).map fun block =>
    ((getNodes block.topology).length - 1) * block.size.toNat).sum

/-- The device entries that are named like the memory type `r`: their IDs are read as
sizes, for each node. -/
def deviceBytes (r : String) (devices : List ContainerDevices) : Int :=
  ((devices.filter fun device => device.resourceName = r).map fun device =>
    (getNodes device.topology).length * entryAmount device).sum

/-- The bytes of the blocks of type `r`, once for each time that they name node `k`. -/
def blockBytesOn (k : Int) (r : String) (memory : List ContainerMemory) : Nat :=
  ((memory.filter fun block => block.memoryType = r).map fun block =>
    nodeCount block.topology k * block.size.toNat).sum

/-- What the entries and blocks of type `r` ask of node `k`. -/
def nodeBytes (k : Int) (r : String) (devices : List ContainerDevices)
    (memory : List ContainerMemory) : Int :=
  demand devices k r + blockBytesOn k r memory

/-- The NUMA nodes that the lists name. -/
def namedNodes (devices : List ContainerDevices) (memory : List ContainerMemory) : Finset Int :=
  ((devices.flatMap fun device => getNodes device.topology)
    ++ memory.flatMap fun block => getNodes block.topology).map (fun node => node.id) |>.toFinset

/-- How often the counters of type `r` go around the range of `int64`. -/
def counterWraps (r : String) (devices : List ContainerDevices) (memory : List ContainerMemory) :
    Int :=
  ∑ k ∈ namedNodes devices memory, overflows (nodeBytes k r devices memory)

/-- A block is on no node, or counted once and then again for its other nodes. -/
theorem reservedBytes_add_surplusBytes (r : String) (memory : List ContainerMemory) :
    reservedBytes r memory + surplusBytes r memory
      = ((memory.filter fun block => block.memoryType = r).map fun block =>
          (getNodes block.topology).length * block.size.toNat).sum := by
  induction memory with
  | nil => rfl
  | cons block memory ih =>
      unfold reservedBytes surplusBytes at ih ⊢
      by_cases hr : block.memoryType = r
      · rcases hnodes : getNodes block.topology with - | ⟨node, nodes⟩
        · simpa [hr, hnodes] using ih
        · simp only [List.filter_cons, hr, hnodes, true_and, ne_eq, reduceCtorEq, not_false_eq_true,
            decide_true, if_true, List.map_cons, List.sum_cons, List.length_cons,
            Nat.add_sub_cancel]
          rw [← ih]
          ring
      · simpa [hr] using ih

/-! ### Sums over nodes -/

section Sums

variable {S : Finset Int}

theorem sum_nodeCount {topology : Option TopologyInfo}
    (h : ∀ node ∈ getNodes topology, node.id ∈ S) :
    ∑ k ∈ S, nodeCount topology k = (getNodes topology).length := by
  unfold nodeCount
  generalize getNodes topology = nodes at h ⊢
  induction nodes with
  | nil => simp
  | cons node nodes ih =>
      simp only [List.countP_cons, Finset.sum_add_distrib, List.length_cons]
      rw [ih fun node' hnode => h node' (List.mem_cons_of_mem _ hnode)]
      simp [h node List.mem_cons_self]

theorem sum_demand (r : String) {devices : List ContainerDevices}
    (h : ∀ device ∈ devices, ∀ node ∈ getNodes device.topology, node.id ∈ S) :
    ∑ k ∈ S, demand devices k r = deviceBytes r devices := by
  induction devices with
  | nil => simp [deviceBytes]
  | cons device devices ih =>
      simp only [demand_cons, Finset.sum_add_distrib]
      rw [ih fun d hd => h d (List.mem_cons_of_mem _ hd), deviceBytes, deviceBytes]
      have hcount := sum_nodeCount (h device List.mem_cons_self)
      by_cases hr : device.resourceName = r
      · simp only [entryDemand, hr, if_true, List.filter_cons, decide_true, List.map_cons,
          List.sum_cons]
        rw [← hcount, Nat.cast_sum, Finset.sum_mul]
      · simp [entryDemand, hr]

theorem sum_blockBytesOn (r : String) {memory : List ContainerMemory}
    (h : ∀ block ∈ memory, ∀ node ∈ getNodes block.topology, node.id ∈ S) :
    ∑ k ∈ S, blockBytesOn k r memory = reservedBytes r memory + surplusBytes r memory := by
  rw [reservedBytes_add_surplusBytes]
  unfold blockBytesOn
  induction memory with
  | nil => simp
  | cons block memory ih =>
      have hrest := ih fun b hb => h b (List.mem_cons_of_mem _ hb)
      have hcount := sum_nodeCount (h block List.mem_cons_self)
      by_cases hr : block.memoryType = r
      · simp only [List.filter_cons, hr, decide_true, if_true, List.map_cons, List.sum_cons,
          Finset.sum_add_distrib]
        rw [hrest, ← hcount, Finset.sum_mul]
      · simpa [hr] using hrest

end Sums

/-! ### The counters of the pods -/

section Pods

variable (ord : Nat → Nat → RangeOrder Int (List String)) (podRes : List PodResources)
variable («namespace» : String) (coreIDToNodeIDMap : GoMap Int Int) (r : String)

/-- The counters that a scan computes from the pods. -/
def podCounters : PerNUMAResourceCounter :=
  containerDevicesToPerNUMAResourceCounters
    (getAllContainerDevices ord podRes «namespace» coreIDToNodeIDMap)

/-- The devices of the watched containers. -/
def watchedDevices : List ContainerDevices :=
  (watchedContainers podRes «namespace»).flatMap fun cnt => cnt.devices

/-- The memory blocks of the watched containers. -/
def watchedMemory : List ContainerMemory :=
  (watchedContainers podRes «namespace»).flatMap fun cnt => cnt.memory

/-- The sizes of all memory blocks, added up. -/
def totalSize : Nat :=
  (((allContainers podRes).flatMap fun cnt => cnt.memory).map fun block => block.size.toNat).sum

theorem watchedMemory_sublist :
    (watchedMemory podRes «namespace»).Sublist
      ((allContainers podRes).flatMap fun cnt => cnt.memory) :=
  (watchedContainers_sublist podRes «namespace»).flatMap _

theorem sum_sizes_watchedMemory_le :
    ((watchedMemory podRes «namespace»).map fun block => block.size.toNat).sum ≤ totalSize podRes :=
  ((watchedMemory_sublist podRes «namespace»).map _).sum_le_sum fun _ _ => Nat.zero_le _

variable {podRes «namespace» r}

/-- Blocks whose sizes fit ask for their bytes; those on other nodes do not matter. -/
theorem sum_blockDemand_eq_blockBytesOn {memory : List ContainerMemory} {k : Int}
    (hr : isMemoryResource r = true)
    (hsize : ∀ block ∈ memory, block.memoryType = r → nodeCount block.topology k ≠ 0 →
      block.size.toNat < 2 ^ 63) :
    (memory.map (blockDemand k r)).sum = blockBytesOn k r memory := by
  unfold blockBytesOn
  induction memory with
  | nil => rfl
  | cons block memory ih =>
      rw [List.map_cons, List.sum_cons, ih fun b hb => hsize b (List.mem_cons_of_mem _ hb),
        blockDemand_of_fits fun hname hcount => ⟨hr, hsize block List.mem_cons_self hname hcount⟩]
      by_cases hname : block.memoryType = r
      · simp [hname]
      · simp [hname]

/-- A counter of the pods, wrapped. -/
theorem cell_podCounters_getD (hr : isMemoryResource r = true) (hsize : totalSize podRes < 2 ^ 63)
    (k : Int) :
    (cell (podCounters ord podRes «namespace» coreIDToNodeIDMap) k r).getD 0
      = wrap (nodeBytes k r (watchedDevices podRes «namespace»)
          (watchedMemory podRes «namespace»)) := by
  have hcpu : r ≠ resourceCPU := by
    rintro rfl
    rw [isMemoryResource_cpu] at hr
    cases hr
  have hsizes : ∀ block ∈ watchedMemory podRes «namespace», block.size.toNat < 2 ^ 63 := by
    intro block hblock
    have hle := List.le_sum_of_mem (List.mem_map_of_mem (f := fun b => b.size.toNat) hblock)
    exact lt_of_le_of_lt (hle.trans (sum_sizes_watchedMemory_le podRes «namespace»)) hsize
  rw [podCounters, cell_counters_getD, counted, if_pos hr, demand_getAllContainerDevices,
    sum_containerDemand_flatten, listsDemand, if_neg hcpu, Int.add_zero]
  exact congrArg wrap (congrArg _ (sum_blockDemand_eq_blockBytesOn hr fun block hblock _ _ =>
    hsizes block hblock))

theorem nodeBytes_of_notMem {devices : List ContainerDevices} {memory : List ContainerMemory}
    {k : Int} (h : k ∉ namedNodes devices memory) : nodeBytes k r devices memory = 0 := by
  have hnode : ∀ node, node ∈ (devices.flatMap fun device => getNodes device.topology)
      ++ (memory.flatMap fun block => getNodes block.topology) → node.id ≠ k := by
    rintro node hnode rfl
    exact h (List.mem_toFinset.mpr (List.mem_map_of_mem hnode))
  have hdevices : demand devices k r = 0 := by
    refine demand_eq_zero fun device hdevice => ?_
    have hcount : nodeCount device.topology k = 0 := nodeCount_eq_zero_iff.mpr fun node hmem =>
      hnode node (List.mem_append_left _ (List.mem_flatMap.mpr ⟨device, hdevice, hmem⟩))
    rw [entryDemand, hcount]
    simp
  have hblocks : blockBytesOn k r memory = 0 := by
    refine List.sum_eq_zero fun x hx => ?_
    obtain ⟨block, hblock, rfl⟩ := List.mem_map.mp hx
    have hcount : nodeCount block.topology k = 0 := nodeCount_eq_zero_iff.mpr fun node hmem =>
      hnode node (List.mem_append_right _
        (List.mem_flatMap.mpr ⟨block, List.mem_of_mem_filter hblock, hmem⟩))
    rw [hcount, Nat.zero_mul]
  rw [nodeBytes, hdevices, hblocks]
  rfl

/-- **The sum of the counters**, in terms of the kubelet's lists. -/
theorem totalOverNodes_eq (hr : isMemoryResource r = true) (hsize : totalSize podRes < 2 ^ 63) :
    totalOverNodes (podCounters ord podRes «namespace» coreIDToNodeIDMap) r
      = reservedBytes r (watchedMemory podRes «namespace»)
        + (deviceBytes r (watchedDevices podRes «namespace»)
            + surplusBytes r (watchedMemory podRes «namespace»))
        - 2 ^ 64 * counterWraps r (watchedDevices podRes «namespace»)
            (watchedMemory podRes «namespace») := by
  have hcell : ∀ k, (cell (podCounters ord podRes «namespace» coreIDToNodeIDMap) k r).getD 0
      = wrap (nodeBytes k r (watchedDevices podRes «namespace»)
          (watchedMemory podRes «namespace»)) :=
    cell_podCounters_getD ord coreIDToNodeIDMap hr hsize
  have hnodes : ∀ node, node ∈ ((watchedDevices podRes «namespace»).flatMap fun device =>
      getNodes device.topology) ++ ((watchedMemory podRes «namespace»).flatMap fun block =>
        getNodes block.topology) →
      node.id ∈ namedNodes (watchedDevices podRes «namespace»)
        (watchedMemory podRes «namespace») :=
    fun node hnode => List.mem_toFinset.mpr (List.mem_map_of_mem hnode)
  generalize watchedDevices podRes «namespace» = devices at hcell hnodes ⊢
  generalize watchedMemory podRes «namespace» = memory at hcell hnodes ⊢
  generalize podCounters ord podRes «namespace» coreIDToNodeIDMap = counters at hcell ⊢
  -- a node that is not named, and one without counters, has nothing to add
  have hnamed : ∀ k ∉ namedNodes devices memory, wrap (nodeBytes k r devices memory) = 0 := by
    intro k hk
    rw [nodeBytes_of_notMem hk]
    rfl
  have hkeys : ∀ k ∉ counters.keys, wrap (nodeBytes k r devices memory) = 0 := by
    intro k hk
    rw [← hcell, cell, Finmap.lookup_eq_none.mpr (mt Finmap.mem_keys.mpr hk)]
    rfl
  have hdevices := sum_demand r fun device hdevice node hnode => hnodes node
    (List.mem_append_left _ (List.mem_flatMap.mpr ⟨device, hdevice, hnode⟩))
  have hblocks := sum_blockBytesOn r fun block hblock node hnode => hnodes node
    (List.mem_append_right _ (List.mem_flatMap.mpr ⟨block, hblock, hnode⟩))
  calc totalOverNodes counters r
      = ∑ k ∈ counters.keys, wrap (nodeBytes k r devices memory) :=
        Finset.sum_congr rfl fun k _ => hcell k
    _ = ∑ k ∈ counters.keys ∪ namedNodes devices memory, wrap (nodeBytes k r devices memory) :=
        Finset.sum_subset Finset.subset_union_left fun k _ hk => hkeys k hk
    _ = ∑ k ∈ namedNodes devices memory, wrap (nodeBytes k r devices memory) :=
        (Finset.sum_subset Finset.subset_union_right fun k _ hk => hnamed k hk).symm
    _ = ∑ k ∈ namedNodes devices memory, demand devices k r
          + (∑ k ∈ namedNodes devices memory, blockBytesOn k r memory : Nat)
          - 2 ^ 64 * counterWraps r devices memory := by
        simp only [wrap_eq_sub_overflows, Finset.sum_sub_distrib, ← Finset.mul_sum, counterWraps,
          nodeBytes, Finset.sum_add_distrib, Nat.cast_sum]
    _ = _ := by
        rw [hdevices, hblocks]
        push_cast
        ring

/-- **Memory reserved by pods is counted once**, for every pod list whose sizes fit: exactly
if the bytes counted again for further nodes, and those of devices named like the memory
type, are undone by the wrapping of the counters. -/
theorem memory_counted_once_iff (hr : isMemoryResource r = true)
    (hsize : totalSize podRes < 2 ^ 63) :
    totalOverNodes (podCounters ord podRes «namespace» coreIDToNodeIDMap) r
        = reservedBytes r (watchedMemory podRes «namespace»)
      ↔ deviceBytes r (watchedDevices podRes «namespace»)
            + surplusBytes r (watchedMemory podRes «namespace»)
          = 2 ^ 64 * counterWraps r (watchedDevices podRes «namespace»)
              (watchedMemory podRes «namespace») := by
  rw [totalOverNodes_eq ord coreIDToNodeIDMap hr hsize]
  constructor <;> intro h <;> omega

/-! ### Lists as the kubelet sends them -/

theorem blockBytesOn_le {memory : List ContainerMemory}
    (h : ∀ block ∈ memory, (getNodes block.topology).Nodup) (k : Int) :
    blockBytesOn k r memory ≤ (memory.map fun block => block.size.toNat).sum := by
  have hcount : ∀ block ∈ memory, nodeCount block.topology k ≤ 1 := by
    intro block hblock
    have hid : nodeCount block.topology k = (getNodes block.topology).count ⟨k⟩ := by
      unfold nodeCount List.count
      congr 1
      funext node
      rw [Bool.eq_iff_iff, decide_eq_true_eq, beq_iff_eq, NUMANode.mk.injEq]
    rw [hid]
    exact List.nodup_iff_count_le_one.mp (h block hblock) _
  unfold blockBytesOn
  induction memory with
  | nil => exact le_rfl
  | cons block memory ih =>
      have hrest := ih (fun b hb => h b (List.mem_cons_of_mem _ hb))
        fun b hb => hcount b (List.mem_cons_of_mem _ hb)
      rw [List.map_cons, List.sum_cons]
      by_cases hname : block.memoryType = r
      · rw [List.filter_cons_of_pos (by simpa using hname), List.map_cons, List.sum_cons]
        have hone := Nat.mul_le_mul_right block.size.toNat (hcount block List.mem_cons_self)
        omega
      · rw [List.filter_cons_of_neg (by simpa using hname)]
        omega

theorem surplusBytes_eq_zero_iff {memory : List ContainerMemory} :
    surplusBytes r memory = 0 ↔ ∀ block ∈ memory, block.memoryType = r → block.size ≠ 0 →
      (getNodes block.topology).length ≤ 1 := by
  have hzero : ∀ block : ContainerMemory, block.size.toNat = 0 ↔ block.size = 0 := fun block =>
    ⟨fun h => UInt64.toNat_inj.mp h, fun h => by rw [h]; rfl⟩
  rw [surplusBytes, List.sum_eq_zero_iff]
  constructor
  · intro h block hblock hname hsize
    have hterm := h _ (List.mem_map_of_mem (List.mem_filter.mpr ⟨hblock, by simpa using hname⟩))
    rcases Nat.mul_eq_zero.mp hterm with hspan | hbytes
    · omega
    · exact absurd ((hzero block).mp hbytes) hsize
  · rintro h x hx
    obtain ⟨block, hblock, rfl⟩ := List.mem_map.mp hx
    obtain ⟨hmem, hname⟩ := List.mem_filter.mp hblock
    by_cases hsize : block.size = 0
    · rw [(hzero block).mpr hsize, Nat.mul_zero]
    · have hspan := h block hmem (of_decide_eq_true hname) hsize
      rw [Nat.sub_eq_zero_of_le hspan, Nat.zero_mul]

/-- If no device is named like memory and no block names a node twice, nothing wraps:
memory is counted once exactly if every block with bytes is on one node. -/
theorem memory_counted_once_iff_single_node (hr : isMemoryResource r = true)
    (hsize : totalSize podRes < 2 ^ 63)
    (hdevices : ∀ device ∈ watchedDevices podRes «namespace», device.resourceName ≠ r)
    (hnodes : ∀ block ∈ watchedMemory podRes «namespace», (getNodes block.topology).Nodup) :
    totalOverNodes (podCounters ord podRes «namespace» coreIDToNodeIDMap) r
        = reservedBytes r (watchedMemory podRes «namespace»)
      ↔ ∀ block ∈ watchedMemory podRes «namespace», block.memoryType = r → block.size ≠ 0 →
          (getNodes block.topology).length ≤ 1 := by
  have hfilter : (watchedDevices podRes «namespace»).filter (fun device => device.resourceName = r)
      = [] := by
    rw [List.filter_eq_nil_iff]
    intro device hdevice
    simpa using hdevices device hdevice
  have hdeviceBytes : deviceBytes r (watchedDevices podRes «namespace») = 0 := by
    rw [deviceBytes, hfilter]
    rfl
  have hdemand : ∀ k, demand (watchedDevices podRes «namespace») k r = 0 := fun k =>
    demand_eq_zero fun device hdevice => if_neg (hdevices device hdevice)
  have hwraps : counterWraps r (watchedDevices podRes «namespace»)
      (watchedMemory podRes «namespace») = 0 := by
    refine Finset.sum_eq_zero fun k _ => overflows_of_inRange ?_
    -- on one node every block counts at most once, and the sizes together fit
    have hle := (blockBytesOn_le hnodes k (r := r)).trans
      (sum_sizes_watchedMemory_le podRes «namespace»)
    rw [nodeBytes, hdemand]
    exact ⟨by omega, by omega⟩
  rw [memory_counted_once_iff ord coreIDToNodeIDMap hr hsize, hdeviceBytes, hwraps,
    ← surplusBytes_eq_zero_iff]
  omega

end Pods

/-- A pod with one container and these memory blocks. -/
def memoryPods (memory : List ContainerMemory) : List PodResources :=
  [⟨"pod", "default", [⟨"cnt", [], [], memory⟩]⟩]

/-- Two blocks, each on its own node, are counted for what they are. -/
theorem memory_counted_once_two_blocks :
    totalOverNodes (podCounters (fun _ _ => sortedOrder Int _)
        (memoryPods [⟨"memory", 512, some ⟨[⟨0⟩]⟩⟩, ⟨"memory", 256, some ⟨[⟨1⟩]⟩⟩]) "" ∅) "memory"
      = reservedBytes "memory" (watchedMemory
          (memoryPods [⟨"memory", 512, some ⟨[⟨0⟩]⟩⟩, ⟨"memory", 256, some ⟨[⟨1⟩]⟩⟩]) "") :=
  (memory_counted_once_iff _ _ (by decide) (by decide)).mpr (by decide)

/-- One block on two nodes is subtracted from both. -/
theorem memory_block_counted_twice :
    totalOverNodes (podCounters (fun _ _ => sortedOrder Int _)
        (memoryPods [⟨"memory", 1024, some ⟨[⟨0⟩, ⟨1⟩]⟩⟩]) "" ∅) "memory" = 2048
      ∧ reservedBytes "memory" (watchedMemory
          (memoryPods [⟨"memory", 1024, some ⟨[⟨0⟩, ⟨1⟩]⟩⟩]) "") = 1024 := by
  refine ⟨?_, by decide⟩
  rw [totalOverNodes_eq _ _ (by decide) (by decide)]
  decide

end TopologyExporter
