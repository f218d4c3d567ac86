/-
TopologyExporter/SysfsRoot.lean

Where the figures of the hardware come from.

The monitor has two readers of sysfs.  The topology is read by the hardware library,
which is given the configured `SysfsRoot` in place of `/sys`.  Memory and hugepages
are read by package `sysinfo`, through the handle `Handle{}`, whose root is empty:
it reads `/sys/devices/system/node`, whatever the configuration says.

Two file systems that cannot be told apart below `SysfsRoot` should give the same
figures.  For the topology that is what is assumed of the library
(`ReadsBelowOverride`).  For the capacities, `hardware_from_sysfsRoot_iff` says that
it holds only if `SysfsRoot` is one of the directories on the way to
`/sys/devices/system/node`.
-/
import TopologyExporter.Refresh
import TopologyExporter.Sysinfo

namespace TopologyExporter

open GoMap GoString

/-! ### File systems that agree -/

/-- Nothing in the directory `dir` tells the two file systems apart. -/
structure AgreeBelow (dir : String) (fs fs' : FileSystem) : Prop where
  readDir : ∀ path, Below dir path → fs.readDir path = fs'.readDir path
  readFile : ∀ path, Below dir path → fs.readFile path = fs'.readFile path
  evalSymlinks : ∀ path, Below dir path → fs.evalSymlinks path = fs'.evalSymlinks path

theorem hasPrefix_child (dir name : String) : hasPrefix (child dir name) dir = true :=
  hasPrefix_trans (hasPrefix_append (dir ++ "/") name) (hasPrefix_append dir "/")

/-- What lies in the directory of the nodes. -/
theorem below_sysDevicesNode {path : String} (h : hasPrefix path (sysDevicesNode ++ "/") = true) :
    Below sysDevicesNode path := by
  right
  rw [if_neg (by decide)]
  exact h

theorem hasPrefix_nodeFile (node name : String) :
    hasPrefix (child (child sysDevicesNode node) name) (sysDevicesNode ++ "/") = true :=
  hasPrefix_trans (hasPrefix_child _ name) (hasPrefix_append _ node)

/-- A directory that holds the directory of the nodes holds all that is in it. -/
theorem Below.trans_sysDevicesNode {dir path : String} (h : Below dir sysDevicesNode)
    (h' : Below sysDevicesNode path) : Below dir path := by
  rcases h' with rfl | h'
  · exact h
  · rw [if_neg (by decide)] at h'
    have hnode := hasPrefix_trans h' (hasPrefix_append sysDevicesNode "/")
    rcases h with rfl | h
    · exact below_sysDevicesNode h'
    · exact .inr (hasPrefix_trans hnode h)

theorem AgreeBelow.sysDevicesNode {dir : String} {fs fs' : FileSystem} (h : AgreeBelow dir fs fs')
    (hdir : Below dir sysDevicesNode) : AgreeBelow sysDevicesNode fs fs' where
  readDir path hpath := h.readDir path (hdir.trans_sysDevicesNode hpath)
  readFile path hpath := h.readFile path (hdir.trans_sysDevicesNode hpath)
  evalSymlinks path hpath := h.evalSymlinks path (hdir.trans_sysDevicesNode hpath)

/-! ### `sysinfo` reads below the directory of the nodes -/

section Readers

variable {fs fs' : FileSystem} (h : AgreeBelow sysDevicesNode fs fs')
include h

/-- The resolved path of a counter is compared with the path of its directory before
it is read, so a link does not lead out of the directory of the node. -/
theorem hugepagesEntry_congr (nodeID : Int) (node : String) :
    hugepagesEntry fs nodeID (child (child sysDevicesNode node) "hugepages")
      = hugepagesEntry fs' nodeID (child (child sysDevicesNode node) "hugepages") := by
  set hpPath := child (child sysDevicesNode node) "hugepages" with hhpPath
  have hprefix : hasPrefix hpPath (sysDevicesNode ++ "/") = true := hasPrefix_nodeFile _ _
  funext entry
  have hlink : fs.evalSymlinks (child (child hpPath entry.name) "nr_hugepages")
      = fs'.evalSymlinks (child (child hpPath entry.name) "nr_hugepages") := by
    apply h.evalSymlinks
    apply below_sysDevicesNode
    exact hasPrefix_trans (hasPrefix_trans (hasPrefix_child _ _) (hasPrefix_child _ _)) hprefix
  simp only [hugepagesEntry, hlink]
  rcases scanHugepageSize entry.name with - | size
  · rfl
  · rcases fs'.evalSymlinks (child (child hpPath entry.name) "nr_hugepages") with err | hpCountPath
    · rfl
    · by_cases hpath : hasPrefix hpCountPath hpPath = true
      · have hread : readIntFromFile fs hpCountPath = readIntFromFile fs' hpCountPath := by
          rw [readIntFromFile, readIntFromFile,
            h.readFile _ (below_sysDevicesNode (hasPrefix_trans hpath hprefix))]
        simp only [hread]
      · simp only [hpath, Bool.false_eq_true, if_false]

theorem hugepagesForNode_congr (nodeID : Int) :
    hugepagesForNode fs ⟨""⟩ nodeID = hugepagesForNode fs' ⟨""⟩ nodeID := by
  show (fs.readDir (child (child sysDevicesNode _) "hugepages") >>= _)
    = fs'.readDir (child (child sysDevicesNode _) "hugepages") >>= _
  rw [h.readDir _ (below_sysDevicesNode (hasPrefix_nodeFile _ _))]
  apply bind_congr
  intro entries
  exact congrArg (fun f => List.mapM f _) (hugepagesEntry_congr h nodeID _)

theorem memoryForNode_congr (nodeID : Int) :
    memoryForNode fs ⟨""⟩ nodeID = memoryForNode fs' ⟨""⟩ nodeID := by
  show (fs.readFile (child (child sysDevicesNode _) "meminfo") >>= _)
    = fs'.readFile (child (child sysDevicesNode _) "meminfo") >>= _
  rw [h.readFile _ (below_sysDevicesNode (hasPrefix_nodeFile _ _))]

/-- **The counters of `Handle{}` are read below `/sys/devices/system/node`.** -/
theorem getMemoryResourceCounters_congr (qty : QuantityLibrary) :
    getMemoryResourceCounters qty fs ⟨""⟩ = getMemoryResourceCounters qty fs' ⟨""⟩ := by
  have hnodes : fs.readDir sysDevicesNode = fs'.readDir sysDevicesNode :=
    h.readDir _ (.inl rfl)
  have hhugepages : getHugepages fs ⟨""⟩ = getHugepages fs' ⟨""⟩ := by
    show (fs.readDir sysDevicesNode >>= _) = fs'.readDir sysDevicesNode >>= _
    simp only [hnodes, hugepagesForNode_congr h]
  have hmemory : getMemory fs ⟨""⟩ = getMemory fs' ⟨""⟩ := by
    show (fs.readDir sysDevicesNode >>= _) = fs'.readDir sysDevicesNode >>= _
    simp only [hnodes, memoryForNode_congr h]
  rw [getMemoryResourceCounters, getMemoryResourceCounters, hhugepages, hmemory]

end Readers

/-! ### The monitor on a file system -/

/-- The hardware library: the topology of a machine, read with `/sys` overridden. -/
abbrev Ghw := FileSystem → String → Except String MachineTopology

/-- The directory that an override denotes: the library joins it to the root directory. -/
def sysfsPath (sysfsRoot : String) : String := cleanPath ("/" ++ sysfsRoot)

/-- The library reads below the override only. -/
def ReadsBelowOverride (ghw : Ghw) : Prop :=
  ∀ sysfsRoot fs fs', AgreeBelow (sysfsPath sysfsRoot) fs fs' →
    ghw fs sysfsRoot = ghw fs' sysfsRoot

/-- `NewResourceMonitor` on a file system. -/
def newResourceMonitorFromSysfs (ghw : Ghw) (qty : QuantityLibrary) (ord : RefreshOrders)
    (fs : FileSystem) (alloc : Except String AllocatableResourcesResponse) (nodeName : String)
    (args : MonitorArgs) (sysfsRoot : String) : Except Panic (Except String ResourceMonitor) :=
  match ghw fs sysfsRoot with
  | .error err => .ok (.error err)
  | .ok topo =>
      newResourceMonitor ord (getMemoryResourceCounters qty fs ⟨""⟩) alloc nodeName args topo

/-- The topology and the capacities of the new monitor. -/
def hardware (out : Except Panic (Except String ResourceMonitor)) :
    Except Panic (Except String (MachineTopology × PerNUMAResourceCounter)) :=
  out.map fun result => result.map fun rm => (rm.topo, rm.nodeCapacity)

/-- Two file systems that agree below `SysfsRoot` give the same topology and capacities
for the same answers of the kubelet. -/
def HardwareFromSysfsRoot (sysfsRoot : String) : Prop :=
  ∀ ghw, ReadsBelowOverride ghw → ∀ qty ord ord' fs fs' alloc nodeName args,
    AgreeBelow (sysfsPath sysfsRoot) fs fs' →
      hardware (newResourceMonitorFromSysfs ghw qty ord fs alloc nodeName args sysfsRoot)
        = hardware (newResourceMonitorFromSysfs ghw qty ord' fs' alloc nodeName args sysfsRoot)

theorem newResourceMonitor_orders (ord ord' : RefreshOrders)
    (mem : Except String MemoryResourceCounters)
    (alloc : Except String AllocatableResourcesResponse) (nodeName : String) (args : MonitorArgs)
    (topo : MachineTopology) :
    newResourceMonitor ord mem alloc nodeName args topo
      = newResourceMonitor ord' mem alloc nodeName args topo := by
  rw [newResourceMonitor, newResourceMonitor, updateNodeResources_orders ord ord']

/-! ### A file system with one node -/

/-- One NUMA node with 1 MB of memory and no hugepages; `listed` says whether its
directory shows. -/
def oneNodeFileSystem (listed : Bool) : FileSystem where
  readDir path :=
    if listed && path = sysDevicesNode then .ok [⟨"node0", true, by decide⟩] else .ok []
  readFile _ := .ok "Node 0 MemTotal:       1024 kB\n"
  evalSymlinks path := .ok path

/-- The two differ in the directory of the nodes only. -/
theorem agreeBelow_oneNodeFileSystem {dir : String} (h : ¬ Below dir sysDevicesNode) :
    AgreeBelow dir (oneNodeFileSystem true) (oneNodeFileSystem false) where
  readDir path hpath := by
    have hne : path ≠ sysDevicesNode := fun heq => h (heq ▸ hpath)
    simp [oneNodeFileSystem, hne]
  readFile _ _ := rfl
  evalSymlinks _ _ := rfl

/-- A library that finds one NUMA node with two CPUs. -/
def oneNodeGhw : Ghw := fun _ _ => .ok ⟨[⟨0, [⟨[0, 1]⟩], [10]⟩]⟩

theorem hardware_oneNodeFileSystem_ne (sysfsRoot : String) :
    hardware (newResourceMonitorFromSysfs oneNodeGhw binaryNotation .sorted (oneNodeFileSystem true)
        (.ok ⟨[], [], []⟩) "worker" ⟨"", false, ""⟩ sysfsRoot)
      ≠ hardware (newResourceMonitorFromSysfs oneNodeGhw binaryNotation .sorted (oneNodeFileSystem false)
        (.ok ⟨[], [], []⟩) "worker" ⟨"", false, ""⟩ sysfsRoot) := by
  show hardware (newResourceMonitor .sorted
      (getMemoryResourceCounters binaryNotation (oneNodeFileSystem true) ⟨""⟩) (.ok ⟨[], [], []⟩) "worker" ⟨"", false, ""⟩ ⟨[⟨0, [⟨[0, 1]⟩], [10]⟩]⟩)
    ≠ hardware (newResourceMonitor .sorted
      (getMemoryResourceCounters binaryNotation (oneNodeFileSystem false) ⟨""⟩) (.ok ⟨[], [], []⟩) "worker" ⟨"", false, ""⟩ ⟨[⟨0, [⟨[0, 1]⟩], [10]⟩]⟩)
  decide +kernel

/-! ### The condition -/

/-- **Where the hardware figures come from.**  They are a function of what lies below
`SysfsRoot` exactly if the directory `/sys/devices/system/node` does. -/
theorem hardware_from_sysfsRoot_iff (sysfsRoot : String) :
    HardwareFromSysfsRoot sysfsRoot ↔ Below (sysfsPath sysfsRoot) sysDevicesNode := by
  constructor
  · intro h
    by_contra hnot
    have hagree := agreeBelow_oneNodeFileSystem hnot
    apply hardware_oneNodeFileSystem_ne sysfsRoot
    exact h oneNodeGhw (fun _ _ _ _ => rfl) binaryNotation .sorted .sorted _ _ _ _ _ hagree
  · intro hbelow ghw hghw qty ord ord' fs fs' alloc nodeName args hagree
    have hcounters := getMemoryResourceCounters_congr (hagree.sysDevicesNode hbelow) qty
    rw [newResourceMonitorFromSysfs, newResourceMonitorFromSysfs, hghw sysfsRoot fs fs' hagree,
      hcounters]
    rcases ghw fs' sysfsRoot with err | topo
    · rfl
    · simp only [newResourceMonitor_orders ord ord']

example : Below (sysfsPath "/sys/") sysDevicesNode := by decide

/-- The root of the shipped manifests: two hosts with the same `/host-sys` and different
capacities. -/
theorem hardware_outside_host_sys :
    AgreeBelow (sysfsPath "/host-sys") (oneNodeFileSystem true) (oneNodeFileSystem false)
      ∧ hardware (newResourceMonitorFromSysfs oneNodeGhw binaryNotation .sorted (oneNodeFileSystem true)
          (.ok ⟨[], [], []⟩) "worker" ⟨"", false, ""⟩ "/host-sys")
        ≠ hardware (newResourceMonitorFromSysfs oneNodeGhw binaryNotation .sorted (oneNodeFileSystem false)
          (.ok ⟨[], [], []⟩) "worker" ⟨"", false, ""⟩ "/host-sys") :=
  ⟨agreeBelow_oneNodeFileSystem (by decide), hardware_oneNodeFileSystem_ne "/host-sys"⟩

end TopologyExporter
