/-
TopologyExporter/Counters.lean

Per-NUMA resource counters: the two passes by which the resource monitor turns
the lists of the podresources API into figures.

`normalizeContainerDevices` rewrites CPUs and memory blocks as synthetic device
entries: CPUs are grouped by NUMA node through the CPU map, a memory block
becomes one entry per node with its size printed as the device ID.
`containerDevicesToPerNUMAResourceCounters` then adds up all entries into a map
of maps.

The abstract side is `demand devices k r`, the plain sum over the entries of
what each one asks of resource `r` on node `k`.  Main results: a counter cell
holds the demand (`cell_counters`, wrapped to `int64` for memory), the demand
of a normalised list splits into devices, CPUs and memory
(`demand_normalizeContainerDevices`), and the order in which Go enumerates the
CPU groups does not matter.
-/
import TopologyExporter.PodResources
import Mathlib.Tactic.Ring

namespace TopologyExporter

open GoMap GoInt GoString

/-- `resourceCounter`: resource name to count. -/
abbrev ResourceCounter := GoMap String Int

/-- `perNUMAResourceCounter`: NUMA node to resource counter. -/
abbrev PerNUMAResourceCounter := GoMap Int ResourceCounter

/-! ### Counting -/

/-- The sum of the sizes that the device IDs of a memory entry spell out.  The
error of `ParseInt` is dropped; the value next to it is used. -/
def memSize (deviceIds : List String) : Int :=
  deviceIds.foldl (fun memSize devBlock => wrap (memSize + (parseInt devBlock).1)) 0

/-- What one entry adds to its counter. -/
def entryAmount (device : ContainerDevices) : Int :=
  if isMemoryResource device.resourceName then memSize device.deviceIds
  else device.deviceIds.length

/-- `nodeRes[resName] += amount`.  Sizes wrap; a count of list elements cannot
reach the bounds of `int64`. -/
def addAmount (resName : String) (count amount : Int) : Int :=
  if isMemoryResource resName then wrap (count + amount) else count + amount

/-- `ContainerDevicesToPerNUMAResourceCounters`. -/
def containerDevicesToPerNUMAResourceCounters (devices : List ContainerDevices) :
    PerNUMAResourceCounter :=
  devices.foldl (fun perNUMARc device =>
    (getNodes device.topology).foldl (fun perNUMARc node =>
      perNUMARc.upsert node.id fun nodeRes =>
        upsert (nodeRes.getD ∅) device.resourceName fun count =>
          addAmount device.resourceName (count.getD 0) (entryAmount device)) perNUMARc) ∅

/-- The cell of a counter map for resource `r` on node `k`, if there is one. -/
def cell (counters : PerNUMAResourceCounter) (k : Int) (r : String) : Option Int :=
  (counters.lookup k).bind fun rc => rc.lookup r

/-- Counter maps with the same nodes and the same cells are equal. -/
theorem eq_of_cell_eq {m m' : PerNUMAResourceCounter} (hnodes : ∀ k, k ∈ m ↔ k ∈ m')
    (hcells : ∀ k r, cell m k r = cell m' k r) : m = m' := by
  apply Finmap.ext_lookup
  intro k
  rcases hk : m.lookup k with - | rc
  · have hk' : k ∉ m' := fun h => Finmap.lookup_eq_none.mp hk ((hnodes k).mpr h)
    exact (Finmap.lookup_eq_none.mpr hk').symm
  · obtain ⟨rc', hrc'⟩ := Finmap.mem_iff.mp ((hnodes k).mp (Finmap.mem_of_lookup_eq_some hk))
    rw [hrc']
    refine congrArg some (Finmap.ext_lookup fun r => ?_)
    have hcell := hcells k r
    rw [cell, cell, hk, hrc'] at hcell
    exact hcell

/-! ### Demand -/

/-- What an entry asks of resource `r` on node `k`: its amount, once for each
time it names `k`. -/
def entryDemand (k : Int) (r : String) (device : ContainerDevices) : Int :=
  if device.resourceName = r then nodeCount device.topology k * entryAmount device else 0

/-- What a list of entries asks of resource `r` on node `k`. -/
def demand (devices : List ContainerDevices) (k : Int) (r : String) : Int :=
  (devices.map (entryDemand k r)).sum

/-- Some entry for resource `r` names node `k`. -/
def Mentions (devices : List ContainerDevices) (k : Int) (r : String) : Prop :=
  ∃ device ∈ devices, device.resourceName = r ∧ ∃ node ∈ getNodes device.topology, node.id = k

/-- The figure a counter shows for a demand. -/
def counted (r : String) (amount : Int) : Int :=
  if isMemoryResource r then wrap amount else amount

@[simp] theorem demand_nil (k : Int) (r : String) : demand [] k r = 0 := rfl

@[simp] theorem demand_cons (device : ContainerDevices) (devices : List ContainerDevices)
    (k : Int) (r : String) :
    demand (device :: devices) k r = entryDemand k r device + demand devices k r := rfl

@[simp] theorem demand_append (l₁ l₂ : List ContainerDevices) (k : Int) (r : String) :
    demand (l₁ ++ l₂) k r = demand l₁ k r + demand l₂ k r := by
  simp [demand]

@[simp] theorem demand_flatMap {α : Type} (l : List α) (f : α → List ContainerDevices)
    (k : Int) (r : String) :
    demand (l.flatMap f) k r = (l.map fun x => demand (f x) k r).sum := by
  induction l with
  | nil => rfl
  | cons x l ih => rw [List.flatMap_cons, demand_append, ih]; rfl

theorem demand_eq_zero {devices : List ContainerDevices} {k : Int} {r : String}
    (h : ∀ device ∈ devices, entryDemand k r device = 0) : demand devices k r = 0 := by
  refine List.sum_eq_zero fun x hx => ?_
  obtain ⟨device, hdevice, rfl⟩ := List.mem_map.mp hx
  exact h device hdevice

/-! ### Counters show the demand -/

/-- The visits of the counting loop, one for each node an entry names. -/
def visits (devices : List ContainerDevices) : List (ContainerDevices × NUMANode) :=
  devices.flatMap fun device => (getNodes device.topology).map fun node => (device, node)

theorem counters_eq_foldl_visits (devices : List ContainerDevices) :
    containerDevicesToPerNUMAResourceCounters devices
      = (visits devices).foldl (fun m x => m.upsert x.2.id fun nodeRes =>
          upsert (nodeRes.getD ∅) x.1.resourceName fun count =>
            addAmount x.1.resourceName (count.getD 0) (entryAmount x.1)) ∅ := by
  simp only [containerDevicesToPerNUMAResourceCounters, visits, List.foldl_flatMap,
    List.foldl_map]

theorem visits_filter_eq_nil_iff (devices : List ContainerDevices) (k : Int) (r : String) :
    (visits devices).filter (fun x => x.2.id = k ∧ x.1.resourceName = r) = []
      ↔ ¬ Mentions devices k r := by
  rw [List.filter_eq_nil_iff]
  constructor
  · rintro h ⟨device, hmem, hr, node, hnode, hk⟩
    refine h (device, node) ?_ (by simp [hr, hk])
    exact List.mem_flatMap.mpr ⟨device, hmem, List.mem_map_of_mem hnode⟩
  · rintro h ⟨device, node⟩ hx hp
    obtain ⟨device', hmem, hx'⟩ := List.mem_flatMap.mp hx
    obtain ⟨node', hnode, he⟩ := List.mem_map.mp hx'
    obtain ⟨rfl, rfl⟩ := Prod.mk.inj he
    obtain ⟨hk, hr⟩ := of_decide_eq_true hp
    exact h ⟨device', hmem, hr, node', hnode, hk⟩

/-- The amounts added to one cell sum up to the demand. -/
theorem sum_visits_filter (devices : List ContainerDevices) (k : Int) (r : String) :
    (((visits devices).filter fun x => x.2.id = k ∧ x.1.resourceName = r).map
      fun x => entryAmount x.1).sum = demand devices k r := by
  induction devices with
  | nil => rfl
  | cons device devices ih =>
      rw [visits, List.flatMap_cons, List.filter_append, List.map_append, List.sum_append,
        demand_cons]
      refine congrArg₂ (· + ·) ?_ ih
      rw [List.filter_map, List.map_map]
      by_cases hr : device.resourceName = r
      · simp only [entryDemand, hr, Function.comp_def, and_true, if_true]
        rw [List.map_const', List.sum_replicate, nodeCount, List.countP_eq_length_filter]
        simp
      · simp [entryDemand, hr, Function.comp_def]

/-- Adding amounts one by one, from zero. -/
theorem foldl_addAmount {α : Type} (r : String) (f : α → Int) (l : List α) :
    l.foldl (fun count x => addAmount r count (f x)) 0 = counted r (l.map f).sum := by
  unfold addAmount counted
  split_ifs with hr
  · rw [foldl_wrap_add f l (by decide), Int.zero_add]
  · have haux : ∀ (l : List α) (a : Int),
        l.foldl (fun count x => count + f x) a = a + (l.map f).sum := by
      intro l
      induction l with
      | nil => intro a; simp
      | cons x l ih =>
          intro a
          rw [List.foldl_cons, ih, List.map_cons, List.sum_cons, Int.add_assoc]
    rw [haux, Int.zero_add]

open Classical in
/-- **A counter cell holds the demand**, and is missing exactly when no entry
mentions it. -/
theorem cell_counters (devices : List ContainerDevices) (k : Int) (r : String) :
    cell (containerDevicesToPerNUMAResourceCounters devices) k r
      = if Mentions devices k r then some (counted r (demand devices k r)) else none := by
  rw [counters_eq_foldl_visits, cell,
    lookup_lookup_foldl_upsert (fun x : ContainerDevices × NUMANode => x.2.id)
      (fun x => x.1.resourceName)
      (fun count x => addAmount x.1.resourceName count (entryAmount x.1)) 0]
  simp only [visits_filter_eq_nil_iff, ite_not]
  refine if_congr Iff.rfl (congrArg some ?_) rfl
  rw [← sum_visits_filter, ← foldl_addAmount]
  refine List.foldl_ext _ _ _ fun count x hx => ?_
  rw [(of_decide_eq_true (List.mem_filter.mp hx).2).2]

theorem isSome_cell_counters_iff {devices : List ContainerDevices} {k : Int} {r : String} :
    (cell (containerDevicesToPerNUMAResourceCounters devices) k r).isSome
      ↔ Mentions devices k r := by
  rw [cell_counters]
  split_ifs with h <;> simp [h]

/-- A node has a counter map iff some entry mentions it. -/
theorem lookup_counters_eq_none_iff {devices : List ContainerDevices} {k : Int} :
    (containerDevicesToPerNUMAResourceCounters devices).lookup k = none
      ↔ ∀ r, ¬ Mentions devices k r := by
  rw [counters_eq_foldl_visits,
    lookup_foldl_upsert_getD (fun x : ContainerDevices × NUMANode => x.2.id)
      (fun nodeRes x => upsert nodeRes x.1.resourceName fun count =>
        addAmount x.1.resourceName (count.getD 0) (entryAmount x.1)) ∅]
  simp only [ite_eq_left_iff, reduceCtorEq, imp_false, not_not, ← visits_filter_eq_nil_iff,
    List.filter_eq_nil_iff, decide_eq_true_eq, not_and]
  exact ⟨fun h _ x hx hk => absurd hk (h x hx), fun h x hx hk => h _ x hx hk rfl⟩

/-- Reading a cell as Go does, a missing one as zero: the demand either way,
since entries that are not there ask for nothing. -/
theorem cell_counters_getD (devices : List ContainerDevices) (k : Int) (r : String) :
    (cell (containerDevicesToPerNUMAResourceCounters devices) k r).getD 0
      = counted r (demand devices k r) := by
  rw [cell_counters]
  split_ifs with h
  · rfl
  · have hzero : demand devices k r = 0 := by
      refine demand_eq_zero fun device hmem => ?_
      unfold entryDemand
      split_ifs with hr
      · have hcount : nodeCount device.topology k = 0 :=
          nodeCount_eq_zero_iff.mpr fun node hnode hk => h ⟨device, hmem, hr, node, hnode, hk⟩
        simp [hcount]
      · rfl
    rw [hzero]
    simp [counted, wrap]

/-- Counters are a function of what the entries mention and ask for. -/
theorem counters_congr {devices devices' : List ContainerDevices}
    (hmentions : ∀ k r, Mentions devices k r ↔ Mentions devices' k r)
    (hdemand : ∀ k r, demand devices k r = demand devices' k r) :
    containerDevicesToPerNUMAResourceCounters devices
      = containerDevicesToPerNUMAResourceCounters devices' := by
  apply eq_of_cell_eq
  · intro k
    rw [← not_iff_not, ← Finmap.lookup_eq_none, ← Finmap.lookup_eq_none,
      lookup_counters_eq_none_iff, lookup_counters_eq_none_iff]
    simp only [hmentions]
  · intro k r
    have hprop : Mentions devices k r = Mentions devices' k r := propext (hmentions k r)
    rw [cell_counters, cell_counters, hdemand, hprop]

/-! ### Normalisation -/

/-- The CPU loop: the printed IDs, grouped by NUMA node.  A CPU that the map
does not know is dropped. -/
def cpusPerNuma (cpuIds : List Int) (coreIDToNodeIDMap : GoMap Int Int) :
    GoMap Int (List String) :=
  cpuIds.foldl (fun cpusPerNuma cpuID =>
    match coreIDToNodeIDMap.lookup cpuID with
    | none => cpusPerNuma
    | some nodeID => cpusPerNuma.upsert nodeID fun l => l.getD [] ++ [toString cpuID]) ∅

/-- The synthetic entry for the CPUs of one NUMA node. -/
def cpuEntry (nodeID : Int) (cpuList : List String) : ContainerDevices where
  resourceName := resourceCPU
  deviceIds := cpuList
  topology := some ⟨[⟨nodeID⟩]⟩

/-- The synthetic entry for a memory block on one NUMA node: the size is printed
as the only device ID. -/
def memoryEntry (block : ContainerMemory) (node : NUMANode) : ContainerDevices where
  resourceName := block.memoryType
  deviceIds := [Nat.repr block.size.toNat]
  topology := some ⟨[⟨node.id⟩]⟩

/-- The memory loop: no entries for an empty block, otherwise one per NUMA node. -/
def memoryEntries (block : ContainerMemory) : List ContainerDevices :=
  if block.size = 0 then [] else (getNodes block.topology).map (memoryEntry block)

/-- `NormalizeContainerDevices`; `ord` is the order in which Go enumerates the
CPU groups. -/
def normalizeContainerDevices (ord : RangeOrder Int (List String))
    (devices : List ContainerDevices) (memoryBlocks : List ContainerMemory)
    (cpuIds : List Int) (coreIDToNodeIDMap : GoMap Int Int) : List ContainerDevices :=
  devices
    ++ (ord.range (cpusPerNuma cpuIds coreIDToNodeIDMap)).map (fun e => cpuEntry e.1 e.2)
    ++ memoryBlocks.flatMap memoryEntries

/-- How many of the CPUs the map sends to node `k`. -/
def cpuCount (coreIDToNodeIDMap : GoMap Int Int) (cpuIds : List Int) (k : Int) : Nat :=
  cpuIds.countP fun cpuID => coreIDToNodeIDMap.lookup cpuID = some k

/-- What a printed size is read back as. -/
def parsedSize (size : UInt64) : Int :=
  if 2 ^ 63 ≤ size.toNat then 2 ^ 63 - 1 else size.toNat

/-- What a memory block adds to its counter on each node. -/
def blockAmount (block : ContainerMemory) : Int :=
  if isMemoryResource block.memoryType then parsedSize block.size else 1

/-- What a memory block asks of resource `r` on node `k`. -/
def blockDemand (k : Int) (r : String) (block : ContainerMemory) : Int :=
  if block.memoryType = r ∧ block.size ≠ 0 then nodeCount block.topology k * blockAmount block
  else 0

/-- A block whose size fits an `int64` asks for its bytes, once for each time that it names
the node.  Blocks that do not name it may have any size. -/
theorem blockDemand_of_fits {k : Int} {r : String} {block : ContainerMemory}
    (h : block.memoryType = r → nodeCount block.topology k ≠ 0 →
      isMemoryResource r = true ∧ block.size.toNat < 2 ^ 63) :
    blockDemand k r block = if block.memoryType = r
      then ((nodeCount block.topology k * block.size.toNat : Nat) : Int) else 0 := by
  rw [blockDemand]
  by_cases hname : block.memoryType = r
  · by_cases hcount : nodeCount block.topology k = 0
    · simp [hname, hcount]
    · -- the printed size is read back as it is
      obtain ⟨hr, hlt⟩ := h hname hcount
      have hamount : blockAmount block = block.size.toNat := by
        rw [blockAmount, hname, if_pos hr, parsedSize, if_neg (by omega)]
      by_cases hzero : block.size = 0
      · simp [hname, hzero]
      · simp [hname, hzero, hamount]
  · simp [hname]

/-- What devices, CPUs and memory blocks together ask of resource `r` on node `k`. -/
def listsDemand (coreIDToNodeIDMap : GoMap Int Int) (k : Int) (r : String)
    (devices : List ContainerDevices) (cpuIds : List Int) (memoryBlocks : List ContainerMemory) :
    Int :=
  demand devices k r
    + (if r = resourceCPU then (cpuCount coreIDToNodeIDMap cpuIds k : Int) else 0)
    + (memoryBlocks.map (blockDemand k r)).sum

/-! ### CPUs -/

/-- The CPUs that the map knows, each with its NUMA node. -/
def knownCpus (cpuIds : List Int) (coreIDToNodeIDMap : GoMap Int Int) : List (Int × Int) :=
  cpuIds.filterMap fun cpuID =>
    (coreIDToNodeIDMap.lookup cpuID).map fun nodeID => (nodeID, cpuID)

theorem cpusPerNuma_eq_foldl (cpuIds : List Int) (coreIDToNodeIDMap : GoMap Int Int) :
    cpusPerNuma cpuIds coreIDToNodeIDMap
      = (knownCpus cpuIds coreIDToNodeIDMap).foldl (fun (m : GoMap Int (List String)) x =>
          m.upsert x.1 fun l => l.getD [] ++ [toString x.2]) ∅ := by
  rw [knownCpus, List.foldl_filterMap]
  refine List.foldl_ext _ _ _ fun m cpuID _ => ?_
  rcases coreIDToNodeIDMap.lookup cpuID with - | nodeID <;> rfl

theorem knownCpus_filter (cpuIds : List Int) (coreIDToNodeIDMap : GoMap Int Int) (k : Int) :
    (knownCpus cpuIds coreIDToNodeIDMap).filter (fun x => x.1 = k)
      = (cpuIds.filter fun cpuID => coreIDToNodeIDMap.lookup cpuID = some k).map
          fun cpuID => (k, cpuID) := by
  unfold knownCpus
  induction cpuIds with
  | nil => rfl
  | cons cpuID cpuIds ih =>
      rcases hc : coreIDToNodeIDMap.lookup cpuID with - | nodeID
      · simpa [hc] using ih
      · by_cases hk : nodeID = k
        · simpa [hc, hk] using ih
        · simpa [hc, hk] using ih

theorem lookup_cpusPerNuma (cpuIds : List Int) (coreIDToNodeIDMap : GoMap Int Int) (k : Int) :
    (cpusPerNuma cpuIds coreIDToNodeIDMap).lookup k
      = if cpuIds.filter (fun cpuID => coreIDToNodeIDMap.lookup cpuID = some k) = [] then none
        else some ((cpuIds.filter fun cpuID =>
          coreIDToNodeIDMap.lookup cpuID = some k).map toString) := by
  have hfold : ∀ (l : List (Int × Int)) (acc : List String),
      l.foldl (fun acc x => acc ++ [toString x.2]) acc = acc ++ l.map fun x => toString x.2 := by
    intro l
    induction l with
    | nil => intro acc; simp
    | cons x l ih => intro acc; rw [List.foldl_cons, ih]; simp
  rw [cpusPerNuma_eq_foldl,
    lookup_foldl_upsert_getD Prod.fst (fun acc x => acc ++ [toString x.2]) [],
    knownCpus_filter, hfold, List.map_map]
  simp only [List.map_eq_nil_iff, List.nil_append]
  rfl

theorem entryDemand_cpuEntry (k : Int) (r : String) (nodeID : Int) (cpuList : List String) :
    entryDemand k r (cpuEntry nodeID cpuList)
      = if r = resourceCPU ∧ nodeID = k then (cpuList.length : Int) else 0 := by
  by_cases hr : r = resourceCPU
  · subst hr
    by_cases hk : nodeID = k <;>
      simp [entryDemand, cpuEntry, nodeCount, getNodes, entryAmount, isMemoryResource_cpu, hk]
  · simp [entryDemand, cpuEntry, hr, Ne.symm hr]

/-- The CPU entries ask for the CPUs of each node, in any order of the groups. -/
theorem demand_cpuEntries (ord : RangeOrder Int (List String)) (cpuIds : List Int)
    (coreIDToNodeIDMap : GoMap Int Int) (k : Int) (r : String) :
    demand ((ord.range (cpusPerNuma cpuIds coreIDToNodeIDMap)).map fun e => cpuEntry e.1 e.2) k r
      = if r = resourceCPU then (cpuCount coreIDToNodeIDMap cpuIds k : Int) else 0 := by
  have hgroup := (ord.enumerates (cpusPerNuma cpuIds coreIDToNodeIDMap)).filter_key k
  generalize ord.range (cpusPerNuma cpuIds coreIDToNodeIDMap) = l at hgroup
  by_cases hr : r = resourceCPU
  · subst hr
    have hsum : ∀ l : List (Int × List String),
        demand (l.map fun e => cpuEntry e.1 e.2) k resourceCPU
          = ((l.filter fun e => e.1 = k).map fun e => (e.2.length : Int)).sum := by
      intro l
      induction l with
      | nil => rfl
      | cons e l ih =>
          rw [List.map_cons, demand_cons, ih, entryDemand_cpuEntry]
          by_cases hk : e.1 = k <;> simp [hk]
    rw [hsum, hgroup, lookup_cpusPerNuma, if_pos rfl, cpuCount, List.countP_eq_length_filter]
    split_ifs with hnil
    · simp [hnil]
    · simp
  · rw [if_neg hr]
    refine demand_eq_zero fun device hdevice => ?_
    obtain ⟨e, -, rfl⟩ := List.mem_map.mp hdevice
    rw [entryDemand_cpuEntry, if_neg fun h => hr h.1]

theorem mentions_cpuEntries (ord : RangeOrder Int (List String)) (cpuIds : List Int)
    (coreIDToNodeIDMap : GoMap Int Int) (k : Int) (r : String) :
    Mentions ((ord.range (cpusPerNuma cpuIds coreIDToNodeIDMap)).map fun e => cpuEntry e.1 e.2) k r
      ↔ r = resourceCPU ∧ ∃ cpuID ∈ cpuIds, coreIDToNodeIDMap.lookup cpuID = some k := by
  have hkeys := (ord.enumerates (cpusPerNuma cpuIds coreIDToNodeIDMap)).mem_keys k
  have hsome : k ∈ cpusPerNuma cpuIds coreIDToNodeIDMap
      ↔ ∃ cpuID ∈ cpuIds, coreIDToNodeIDMap.lookup cpuID = some k := by
    rw [← Finmap.lookup_isSome, lookup_cpusPerNuma]
    split_ifs with hnil
    · simpa [List.filter_eq_nil_iff] using hnil
    · simpa [List.filter_eq_nil_iff] using hnil
  rw [← hsome, ← hkeys]
  constructor
  · rintro ⟨device, hmem, hr, node, hnode, hk⟩
    obtain ⟨e, he, rfl⟩ := List.mem_map.mp hmem
    have hnode' : node = ⟨e.1⟩ := by simpa [cpuEntry, getNodes] using hnode
    refine ⟨hr.symm, List.mem_map.mpr ⟨e, he, ?_⟩⟩
    rw [← hk, hnode']
  · rintro ⟨rfl, hk⟩
    obtain ⟨e, he, rfl⟩ := List.mem_map.mp hk
    exact ⟨cpuEntry e.1 e.2, List.mem_map.mpr ⟨e, he, rfl⟩, rfl, ⟨e.1⟩,
      by simp [cpuEntry, getNodes], rfl⟩

/-! ### Memory blocks -/

theorem memSize_repr (size : UInt64) : memSize [Nat.repr size.toNat] = parsedSize size := by
  rw [memSize, List.foldl_cons, List.foldl_nil, Int.zero_add, parseInt_repr size.toNat_lt,
    parsedSize]
  split_ifs with h
  · exact wrap_of_inRange (by decide)
  · exact wrap_of_inRange ⟨by omega, by omega⟩

theorem entryDemand_memoryEntry (block : ContainerMemory) (node : NUMANode) (k : Int)
    (r : String) :
    entryDemand k r (memoryEntry block node)
      = if block.memoryType = r ∧ node.id = k then blockAmount block else 0 := by
  have hamount : entryAmount (memoryEntry block node) = blockAmount block := by
    simp [entryAmount, blockAmount, memoryEntry, memSize_repr]
  rw [entryDemand, hamount]
  by_cases hr : block.memoryType = r
  · by_cases hk : node.id = k <;> simp [memoryEntry, nodeCount, getNodes, hr, hk]
  · simp [memoryEntry, hr]

theorem demand_memoryEntries (block : ContainerMemory) (k : Int) (r : String) :
    demand (memoryEntries block) k r = blockDemand k r block := by
  unfold memoryEntries blockDemand
  by_cases hsize : block.size = 0
  · simp [hsize]
  · rw [if_neg hsize, nodeCount]
    induction getNodes block.topology with
    | nil => simp
    | cons node nodes ih =>
        rw [List.map_cons, demand_cons, ih, entryDemand_memoryEntry, List.countP_cons]
        by_cases hr : block.memoryType = r
        · by_cases hk : node.id = k
          · simp [hr, hk, hsize]; ring
          · simp [hr, hk, hsize]
        · simp [hr]

theorem mentions_memoryEntries (block : ContainerMemory) (k : Int) (r : String) :
    Mentions (memoryEntries block) k r
      ↔ block.size ≠ 0 ∧ block.memoryType = r ∧ ∃ node ∈ getNodes block.topology, node.id = k := by
  unfold memoryEntries
  by_cases hsize : block.size = 0
  · simp [Mentions, hsize]
  · rw [if_neg hsize]
    constructor
    · rintro ⟨device, hmem, hr, node, hnode, hk⟩
      obtain ⟨node', hnode', rfl⟩ := List.mem_map.mp hmem
      have hnode'' : node = ⟨node'.id⟩ := by simpa [memoryEntry, getNodes] using hnode
      exact ⟨hsize, hr, node', hnode', by rw [← hk, hnode'']⟩
    · rintro ⟨-, hr, node, hnode, hk⟩
      exact ⟨memoryEntry block node, List.mem_map_of_mem hnode, hr, ⟨node.id⟩,
        by simp [memoryEntry, getNodes], hk⟩

/-! ### The normalised list -/

section Normalize

variable (ord : RangeOrder Int (List String)) (devices : List ContainerDevices)
variable (memoryBlocks : List ContainerMemory) (cpuIds : List Int)
variable (coreIDToNodeIDMap : GoMap Int Int)

/-- **The demand of a normalised list** is that of its devices, CPUs and memory
blocks; the order of the CPU groups has dropped out. -/
theorem demand_normalizeContainerDevices (k : Int) (r : String) :
    demand (normalizeContainerDevices ord devices memoryBlocks cpuIds coreIDToNodeIDMap) k r
      = listsDemand coreIDToNodeIDMap k r devices cpuIds memoryBlocks := by
  simp only [normalizeContainerDevices, demand_append, demand_cpuEntries, demand_flatMap,
    demand_memoryEntries, listsDemand]

/-- Which resources a normalised list mentions on node `k`. -/
theorem mentions_normalizeContainerDevices (k : Int) (r : String) :
    Mentions (normalizeContainerDevices ord devices memoryBlocks cpuIds coreIDToNodeIDMap) k r
      ↔ Mentions devices k r
        ∨ (r = resourceCPU ∧ ∃ cpuID ∈ cpuIds, coreIDToNodeIDMap.lookup cpuID = some k)
        ∨ ∃ block ∈ memoryBlocks, block.size ≠ 0 ∧ block.memoryType = r
            ∧ ∃ node ∈ getNodes block.topology, node.id = k := by
  have happend : ∀ l₁ l₂, Mentions (l₁ ++ l₂) k r ↔ Mentions l₁ k r ∨ Mentions l₂ k r := by
    intro l₁ l₂
    simp only [Mentions, List.mem_append, or_and_right, exists_or]
  have hflat : Mentions (memoryBlocks.flatMap memoryEntries) k r
      ↔ ∃ block ∈ memoryBlocks, Mentions (memoryEntries block) k r := by
    simp only [Mentions, List.mem_flatMap]
    constructor
    · rintro ⟨device, ⟨block, hblock, hmem⟩, h⟩
      exact ⟨block, hblock, device, hmem, h⟩
    · rintro ⟨block, hblock, device, hmem, h⟩
      exact ⟨device, ⟨block, hblock, hmem⟩, h⟩
  rw [normalizeContainerDevices, happend, happend, hflat, mentions_cpuEntries, or_assoc]
  simp only [mentions_memoryEntries]

/-- The counters do not depend on the order of the CPU groups. -/
theorem counters_normalize_orders (ord' : RangeOrder Int (List String)) :
    containerDevicesToPerNUMAResourceCounters
        (normalizeContainerDevices ord devices memoryBlocks cpuIds coreIDToNodeIDMap)
      = containerDevicesToPerNUMAResourceCounters
        (normalizeContainerDevices ord' devices memoryBlocks cpuIds coreIDToNodeIDMap) := by
  apply counters_congr
  · intro k r
    rw [mentions_normalizeContainerDevices, mentions_normalizeContainerDevices]
  · intro k r
    rw [demand_normalizeContainerDevices, demand_normalizeContainerDevices]

end Normalize

end TopologyExporter
