/-
TopologyExporter/MemorySizes.lean

Memory sizes at the bounds of the integer types.

A size is a `uint64` on the wire.  It is printed as the device ID of an entry, read
back as an `int64` with the error dropped, and added up with wrap-around.  Below `2^63`
each of the steps is exact; a larger size is read as the largest `int64`, and a larger
sum wraps to a negative one.

`memory_counters_exact_iff` says when no step goes wrong: it is enough that the total of
each memory type on each node is below `2^63`, and without it the counter is another
number, because it is an `int64`.
-/
import TopologyExporter.MemoryTotals

namespace TopologyExporter

open GoMap GoInt GoString

/-- The counter of memory type `r` on node `k` that the three lists come to. -/
def memoryCounter (ord : RangeOrder Int (List String)) (devices : List ContainerDevices)
    (memoryBlocks : List ContainerMemory) (cpuIds : List Int) (coreIDToNodeIDMap : GoMap Int Int)
    (k : Int) (r : String) : Int :=
  (cell (containerDevicesToPerNUMAResourceCounters (normalizeContainerDevices ord devices
    memoryBlocks cpuIds coreIDToNodeIDMap)) k r).getD 0

/-- The sizes of memory blocks survive being printed and read back, and the counters are
their sums: `blockBytesOn` adds up, in the integers, the sizes printed for a node. -/
structure MemoryExact (ord : RangeOrder Int (List String)) (devices : List ContainerDevices)
    (memoryBlocks : List ContainerMemory) (cpuIds : List Int) (coreIDToNodeIDMap : GoMap Int Int) :
    Prop where
  readBack : ∀ block ∈ memoryBlocks, isMemoryResource block.memoryType = true →
    ∀ device ∈ memoryEntries block, ∀ devBlock ∈ device.deviceIds,
      parseInt devBlock = ((block.size.toNat : Int), none)
  sum : ∀ r, isMemoryResource r = true → ∀ k,
    memoryCounter ord devices memoryBlocks cpuIds coreIDToNodeIDMap k r
      = blockBytesOn k r memoryBlocks
  nonneg : ∀ r, isMemoryResource r = true → ∀ k,
    0 ≤ memoryCounter ord devices memoryBlocks cpuIds coreIDToNodeIDMap k r

theorem size_le_blockBytesOn {memoryBlocks : List ContainerMemory} {block : ContainerMemory}
    (hblock : block ∈ memoryBlocks) {k : Int} (hk : nodeCount block.topology k ≠ 0) :
    block.size.toNat ≤ blockBytesOn k block.memoryType memoryBlocks := by
  have hmem : block ∈ memoryBlocks.filter fun b => b.memoryType = block.memoryType :=
    List.mem_filter.mpr ⟨hblock, by simp⟩
  calc block.size.toNat ≤ nodeCount block.topology k * block.size.toNat :=
        Nat.le_mul_of_pos_left _ (Nat.pos_of_ne_zero hk)
    _ ≤ blockBytesOn k block.memoryType memoryBlocks :=
        List.le_sum_of_mem (List.mem_map_of_mem (f := fun b : ContainerMemory =>
          nodeCount b.topology k * b.size.toNat) hmem)

section Lists

variable (ord : RangeOrder Int (List String)) {devices : List ContainerDevices}
variable (memoryBlocks : List ContainerMemory) (cpuIds : List Int)
variable (coreIDToNodeIDMap : GoMap Int Int)

/-- A counter of memory is what the blocks ask for, wrapped. -/
theorem memoryCounter_eq
    (hdevices : ∀ device ∈ devices, isMemoryResource device.resourceName = false)
    {r : String} (hr : isMemoryResource r = true) (k : Int) :
    memoryCounter ord devices memoryBlocks cpuIds coreIDToNodeIDMap k r
      = wrap (memoryBlocks.map (blockDemand k r)).sum := by
  have hentries : demand devices k r = 0 := by
    refine demand_eq_zero fun device hdevice => if_neg ?_
    rintro rfl
    rw [hdevices device hdevice] at hr
    cases hr
  have hcpu : r ≠ resourceCPU := by
    rintro rfl
    rw [isMemoryResource_cpu] at hr
    cases hr
  rw [memoryCounter, cell_counters_getD, counted, if_pos hr, demand_normalizeContainerDevices,
    listsDemand, hentries, if_neg hcpu, Int.add_zero, Int.zero_add]

/-- **When memory counters are exact.**  All sizes are read back, and all counters are the
sums of the sizes, exactly if no such sum reaches `2^63`. -/
theorem memory_counters_exact_iff
    (hdevices : ∀ device ∈ devices, isMemoryResource device.resourceName = false) :
    MemoryExact ord devices memoryBlocks cpuIds coreIDToNodeIDMap
      ↔ ∀ r, isMemoryResource r = true → ∀ k, blockBytesOn k r memoryBlocks < 2 ^ 63 := by
  constructor
  · intro h r hr k
    -- a counter is an `int64`
    have hrange := wrap_inRange (memoryBlocks.map (blockDemand k r)).sum
    rw [← memoryCounter_eq ord memoryBlocks cpuIds coreIDToNodeIDMap hdevices hr, h.sum r hr]
      at hrange
    exact_mod_cast hrange.2
  · intro h
    have hsize : ∀ block ∈ memoryBlocks, isMemoryResource block.memoryType = true →
        ∀ k, nodeCount block.topology k ≠ 0 → block.size.toNat < 2 ^ 63 :=
      fun block hblock hr k hk => (size_le_blockBytesOn hblock hk).trans_lt (h _ hr k)
    have hsum : ∀ r, isMemoryResource r = true → ∀ k,
        memoryCounter ord devices memoryBlocks cpuIds coreIDToNodeIDMap k r
          = blockBytesOn k r memoryBlocks := by
      intro r hr k
      have hlt := h r hr k
      rw [memoryCounter_eq ord memoryBlocks cpuIds coreIDToNodeIDMap hdevices hr,
        sum_blockDemand_eq_blockBytesOn hr fun block hblock hname hk =>
          hsize block hblock (hname ▸ hr) k hk]
      exact wrap_of_inRange ⟨by omega, by omega⟩
    refine ⟨fun block hblock hr device hdevice devBlock hdev => ?_, hsum, fun r hr k => ?_⟩
    · -- an entry is printed for each node that the block names
      rw [memoryEntries] at hdevice
      split_ifs at hdevice
      · cases hdevice
      · obtain ⟨node, hnode, rfl⟩ := List.mem_map.mp hdevice
        obtain rfl := List.mem_singleton.mp hdev
        have hk : nodeCount block.topology node.id ≠ 0 := fun hzero =>
          nodeCount_eq_zero_iff.mp hzero node hnode rfl
        have hlt := hsize block hblock hr node.id hk
        rw [parseInt_repr block.size.toNat_lt, if_neg (by omega)]
    · rw [hsum r hr k]
      exact Int.natCast_nonneg _

end Lists

/-- Sizes that fit, next to a device. -/
theorem memory_counters_exact_two_nodes :
    MemoryExact (sortedOrder Int _) twoNodeAllocatable.devices twoNodeAllocatable.memory
      twoNodeAllocatable.cpuIds (makeCoreIDToNodeIDMap twoNodeTopology) := by
  have hdevices : ∀ device ∈ twoNodeAllocatable.devices,
      isMemoryResource device.resourceName = false := by decide
  refine (memory_counters_exact_iff _ _ _ _ hdevices).mpr fun r _ k => ?_
  -- there is one block, of 1024 bytes
  have hle : blockBytesOn k r twoNodeAllocatable.memory ≤ 1024 :=
    blockBytesOn_le (by decide) k
  omega

/-- Two blocks of half the range on one node: the counter is negative.  A block of the
whole range: it is not read back. -/
theorem memory_counter_wraps :
    memoryCounter (sortedOrder Int _) []
        [⟨"memory", 0x4000000000000000, some ⟨[⟨0⟩]⟩⟩,
          ⟨"memory", 0x4000000000000000, some ⟨[⟨0⟩]⟩⟩] [] ∅ 0 "memory"
      = -2 ^ 63
      ∧ memoryEntries ⟨"memory", 0x8000000000000000, some ⟨[⟨0⟩]⟩⟩
        = [⟨"memory", ["9223372036854775808"], some ⟨[⟨0⟩]⟩⟩]
      ∧ parseInt "9223372036854775808" = (2 ^ 63 - 1, some .errRange) := by
  refine ⟨?_, by decide +kernel, by decide +kernel⟩
  rw [memoryCounter_eq _ _ _ _ (by decide) (by decide)]
  decide +kernel

end TopologyExporter
