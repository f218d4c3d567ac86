/-
TopologyExporter/Monitor.lean

The resource monitor of `resourcemonitor.go`: its state, the refresh of the
node's capacity and allocatable figures, and `Scan`.

What the monitor obtains from outside is an argument: the sysfs memory counters
and the answers of the two kubelet calls, each of which may be an error.  The
third-party pod fingerprint is a structure of constants and a signing function
over the sequence of added pods.  A refresh may panic, so it runs in
`Except Panic`; a returned error is data, because the fields assigned before it
keep their new values.

Every `range` over a map has its own iteration order (`RefreshOrders`,
`ScanOrders`).
-/
import TopologyExporter.Counters
import TopologyExporter.NumaLocality
import TopologyExporter.Topology
import Mathlib.Data.String.Basic

namespace TopologyExporter

open GoMap GoInt GoPanic

/-! ### Hugepage resource names -/

/-- The library of `resource.Quantity`: what `String` makes of a number of bytes in the format
`BinarySI`, and what is asked of it.  The monitor knows hugepages of two sizes by their names;
beyond that the names must tell the sizes apart. -/
structure QuantityLibrary where
  binarySI : Int → String
  binarySI_2Mi : binarySI (2048 * 1024) = "2Mi"
  binarySI_1Gi : binarySI (1048576 * 1024) = "1Gi"
  binarySI_injective : ∀ n m : Nat, n < 2 ^ 63 → m < 2 ^ 63 → binarySI n = binarySI m → n = m

/-- `sysinfo.HugepageResourceNameFromSize`. -/
def hugepageResourceNameFromSize (qty : QuantityLibrary) (sizeKB : Int) : String :=
  "hugepages-" ++ qty.binarySI (wrap (sizeKB * 1024))

/-- `sysinfo.HugepageSize2Mi`. -/
def hugepageSize2Mi : Int := 2048

/-- `sysinfo.HugepageSize1Gi`. -/
def hugepageSize1Gi : Int := 1048576

/-- The name of hugepages of `hugepageSize2Mi`. -/
def resourceHugepages2Mi : String := "hugepages-2Mi"

/-- The name of hugepages of `hugepageSize1Gi`. -/
def resourceHugepages1Gi : String := "hugepages-1Gi"

theorem hugepageResourceNameFromSize_eq (qty : QuantityLibrary) {sizeKB : Int}
    (h : InRange (sizeKB * 1024)) :
    hugepageResourceNameFromSize qty sizeKB = "hugepages-" ++ qty.binarySI (sizeKB * 1024) := by
  rw [hugepageResourceNameFromSize, wrap_of_inRange h]

/-- The two names do not depend on the library. -/
theorem hugepageResourceNameFromSize_2Mi (qty : QuantityLibrary) :
    hugepageResourceNameFromSize qty hugepageSize2Mi = resourceHugepages2Mi := by
  rw [hugepageResourceNameFromSize_eq qty ⟨by decide, by decide⟩, hugepageSize2Mi, qty.binarySI_2Mi]
  rfl

theorem hugepageResourceNameFromSize_1Gi (qty : QuantityLibrary) :
    hugepageResourceNameFromSize qty hugepageSize1Gi = resourceHugepages1Gi := by
  rw [hugepageResourceNameFromSize_eq qty ⟨by decide, by decide⟩, hugepageSize1Gi, qty.binarySI_1Gi]
  rfl

/-! ### State -/

/-- The fields of `resourcemonitor.Args` that refresh and scan read. -/
structure MonitorArgs where
  «namespace» : String
  podSetFingerprint : Bool
  podSetFingerprintMethod : String
  deriving DecidableEq, Repr

/-- `resourceMonitor`. -/
structure ResourceMonitor where
  nodeName : String
  args : MonitorArgs
  topo : MachineTopology
  coreIDToNodeIDMap : GoMap Int Int
  nodeCapacity : PerNUMAResourceCounter
  nodeAllocatable : PerNUMAResourceCounter

/-- What `sysinfo.GetMemoryResourceCounters` returns: per resource name, the
total on each NUMA node. -/
abbrev MemoryResourceCounters := GoMap String (GoMap Int Int)

/-! ### Refresh -/

/-- The iteration orders of one refresh. -/
structure RefreshOrders where
  cpus : RangeOrder Int (List String)
  nodes : RangeOrder Int ResourceCounter
  resources : Int → RangeOrder String Int

/-- Every map by increasing keys. -/
def RefreshOrders.sorted : RefreshOrders where
  cpus := sortedOrder Int _
  nodes := sortedOrder Int _
  resources := fun _ => sortedOrder String Int

/-- The counters of one node, as `updateNodeCapacity` assembles them.  The names of the
hugepages are those of `hugepageResourceNameFromSize_2Mi` and `_1Gi`. -/
def capacityCounters (memCounters : MemoryResourceCounters) (nodeID : Int) (cpus : Int) :
    ResourceCounter :=
  let hp2Mi := resourceHugepages2Mi
  let hp1Gi := resourceHugepages1Gi
  let counter := fun resName => (getD memCounters resName ∅).getD nodeID 0
  ((((∅ : ResourceCounter).insert resourceCPU cpus).insert resourceMemory
    (counter resourceMemory)).insert hp2Mi (counter hp2Mi)).insert hp1Gi (counter hp1Gi)

/-- The body of the loop of `updateNodeCapacity`. -/
def addNodeCapacity (topo : MachineTopology) (memCounters : MemoryResourceCounters)
    (perNUMARc : PerNUMAResourceCounter) (nodeID : Nat) : Except Panic PerNUMAResourceCounter := do
  let cpus ← cpuCapacity topo nodeID
  pure (perNUMARc.insert nodeID (capacityCounters memCounters nodeID cpus))

/-- `updateNodeCapacity`: the loop runs over the positions of the node slice. -/
def updateNodeCapacity (mem : Except String MemoryResourceCounters) (rm : ResourceMonitor) :
    Except Panic (ResourceMonitor × Option String) :=
  match mem with
  | .error err => .ok (rm, some err)
  | .ok memCounters => do
      let perNUMARc ← (List.range rm.topo.nodes.length).foldlM
        (addNodeCapacity rm.topo memCounters) ∅
      pure ({ rm with nodeCapacity := perNUMARc }, none)

/-- `updateNodeAllocatable`. -/
def updateNodeAllocatable (ord : RangeOrder Int (List String))
    (alloc : Except String AllocatableResourcesResponse) (rm : ResourceMonitor) :
    ResourceMonitor × Option String :=
  match alloc with
  | .error err => (rm, some err)
  | .ok allocRes =>
      let allDevs := normalizeContainerDevices ord allocRes.devices allocRes.memory
        allocRes.cpuIds rm.coreIDToNodeIDMap
      ({ rm with nodeAllocatable := containerDevicesToPerNUMAResourceCounters allDevs }, none)

/-- `rm.nodeCapacity[numaId][resName] = quan`: the inner map is looked up, and
written to without a check. -/
def setCapacity (nodeCapacity : PerNUMAResourceCounter) (numaId : Int) (resName : String)
    (quan : Int) : Except Panic PerNUMAResourceCounter := do
  let capacityResCnt ← assign (nodeCapacity.lookup numaId) resName quan
  pure (nodeCapacity.insert numaId capacityResCnt)

/-- `updateDevicesCapacity`. -/
def updateDevicesCapacity (ord : RefreshOrders) (rm : ResourceMonitor) :
    Except Panic ResourceMonitor := do
  let nodeCapacity ← (ord.nodes.range rm.nodeAllocatable).foldlM
    (fun nodeCapacity (numaId, resourceCnt) =>
      ((ord.resources numaId).range resourceCnt).foldlM
        (fun nodeCapacity (resName, quan) =>
          if isNativeResource resName then pure nodeCapacity
          else setCapacity nodeCapacity numaId resName quan) nodeCapacity) rm.nodeCapacity
  pure { rm with nodeCapacity := nodeCapacity }

/-- `updateNodeResources`. -/
def updateNodeResources (ord : RefreshOrders) (mem : Except String MemoryResourceCounters)
    (alloc : Except String AllocatableResourcesResponse) (rm : ResourceMonitor) :
    Except Panic (ResourceMonitor × Option String) := do
  match ← updateNodeCapacity mem rm with
  | (rm, some err) => pure (rm, some ("error while updating node capacity: " ++ err))
  | (rm, none) =>
      match updateNodeAllocatable ord.cpus alloc rm with
      | (rm, some err) => pure (rm, some ("error while updating node allocatable: " ++ err))
      | (rm, none) => do
          let rm ← updateDevicesCapacity ord rm
          pure (rm, none)

/-- The monitor as `NewResourceMonitor` sets it up, before its first refresh. -/
def initialMonitor (nodeName : String) (args : MonitorArgs) (topo : MachineTopology) :
    ResourceMonitor where
  nodeName := nodeName
  args := args
  topo := topo
  coreIDToNodeIDMap := makeCoreIDToNodeIDMap topo
  nodeCapacity := ∅
  nodeAllocatable := ∅

/-- `NewResourceMonitor`, up to the start of the informer that repeats the refresh. -/
def newResourceMonitor (ord : RefreshOrders) (mem : Except String MemoryResourceCounters)
    (alloc : Except String AllocatableResourcesResponse) (nodeName : String) (args : MonitorArgs)
    (topo : MachineTopology) : Except Panic (Except String ResourceMonitor) := do
  match ← updateNodeResources ord mem alloc (initialMonitor nodeName args topo) with
  | (_, some err) => pure (.error err)
  | (rm, none) => pure (.ok rm)

/-! ### Exclusions -/

/-- `ResourceExclude`. -/
abbrev ResourceExclude := GoMap String (List String)

/-- `ResourceExclude.ToMapSet`. -/
def toMapSet (ord : RangeOrder String (List String)) (rel : ResourceExclude) :
    GoMap String (Finset String) :=
  (ord.range rel).foldl (fun asSet e => asSet.insert e.1 e.2.toFinset) ∅

/-- `inExcludeSet`. -/
def inExcludeSet (excludeSet : GoMap String (Finset String)) (resName nodeName : String) :
    Bool :=
  let has := fun key => match excludeSet.lookup key with
    | some set => decide (resName ∈ set)
    | none => false
  has "*" || has nodeName

/-! ### Scan -/

/-- `ResourceInfo`; quantities are integers. -/
structure ResourceInfo where
  name : String
  available : Int
  allocatable : Int
  capacity : Int
  deriving DecidableEq, Repr

/-- `Zone`, as far as the exporter fills it. -/
structure Zone where
  name : String
  type : String
  costs : List CostInfo
  resources : List ResourceInfo
  deriving DecidableEq, Repr

/-- `AttributeInfo`. -/
structure AttributeInfo where
  name : String
  value : String
  deriving DecidableEq, Repr

/-- `ScanResponse`.  A nil zone list or annotation map is `none`. -/
structure ScanResponse where
  zones : Option (List Zone)
  attributes : List AttributeInfo
  annotations : Option (GoMap String String)

/-- `ScanResponse{}`. -/
def ScanResponse.zero : ScanResponse := { zones := none, attributes := [], annotations := none }

/-- The pod fingerprint library. -/
structure PodFingerprint where
  methodAll : String
  attributeName : String
  attributeMethod : String
  annotation : String
  sign : List PodResources → String

/-- `computePodFingerprintFromPodResources`. -/
def computePodFingerprintFromPodResources (pfp : PodFingerprint)
    (podRes : List PodResources) (verifyFunc : PodResources → FilterResult) : String :=
  pfp.sign (podRes.filter fun pr => (verifyFunc pr).allow)

/-- The iteration orders of one scan: the CPU groups of each container of each
pod, the exclude list, and the resources of each zone. -/
structure ScanOrders where
  cpus : Nat → Nat → RangeOrder Int (List String)
  excludes : RangeOrder String (List String)
  resources : Nat → RangeOrder String Int

/-- Every map by increasing keys. -/
def ScanOrders.sorted : ScanOrders where
  cpus := fun _ _ => sortedOrder Int _
  excludes := sortedOrder String _
  resources := fun _ => sortedOrder String Int

/-- `GetAllContainerDevices`. -/
def getAllContainerDevices (ord : Nat → Nat → RangeOrder Int (List String))
    (podRes : List PodResources) («namespace» : String) (coreIDToNodeIDMap : GoMap Int Int) :
    List ContainerDevices :=
  podRes.zipIdx.flatMap fun (pr, i) =>
    if «namespace» ≠ "" ∧ «namespace» ≠ pr.namespace then []
    else pr.containers.zipIdx.flatMap fun (cnt, j) =>
      normalizeContainerDevices (ord i j) cnt.devices cnt.memory cnt.cpuIds coreIDToNodeIDMap

/-- The entry for one resource of a zone. -/
def scanResource (resCapCounters : ResourceCounter) (allocated : PerNUMAResourceCounter)
    (nodeID : Int) (resName : String) (resAlloc : Int) : ResourceInfo :=
  let resCapacity := match resCapCounters.lookup resName with
    | none => resAlloc
    | some resCapacity => if resCapacity = 0 then resAlloc else resCapacity
  let resUsed := (cell allocated nodeID resName).getD 0
  let resAvail := sub resAlloc resUsed
  { name := resName
    available := if resAvail < 0 then 0 else resAvail
    allocatable := resAlloc
    -- the kubelet is trusted more than the hardware figures
    capacity := if resAlloc > resCapacity then resAlloc else resCapacity }

/-- The counters a zone is built from.  A node without any is taken to have all
its CPUs reserved. -/
def zoneCounters (rm : ResourceMonitor) (nodeID : Int) : ResourceCounter :=
  match rm.nodeAllocatable.lookup nodeID with
  | some resCounters => resCounters
  | none => (∅ : ResourceCounter).insert resourceCPU 0

/-- The body of the zone loop. -/
def scanZone (ord : RangeOrder String Int) (rm : ResourceMonitor)
    (excludeSet : GoMap String (Finset String)) (allocated : PerNUMAResourceCounter)
    (nodeID : Nat) : Zone where
  name := makeZoneName nodeID
  type := "Node"
  costs := match makeCostsPerNumaNode rm.topo.nodes nodeID with
    | .ok costs => costs
    | .error _ => []
  resources := (ord.range (zoneCounters rm nodeID)).filterMap fun (resName, resAlloc) =>
    if inExcludeSet excludeSet resName rm.nodeName then none
    else some (scanResource (getD rm.nodeCapacity nodeID ∅) allocated nodeID
      resName resAlloc)

/-- The zones of a scan, one per position of the node slice. -/
def scanZones (ord : ScanOrders) (rm : ResourceMonitor) (excludeList : ResourceExclude)
    (podRes : List PodResources) : List Zone :=
  let allDevs := getAllContainerDevices ord.cpus podRes rm.args.namespace rm.coreIDToNodeIDMap
  let allocated := containerDevicesToPerNUMAResourceCounters allDevs
  let excludeSet := toMapSet ord.excludes excludeList
  (List.range rm.topo.nodes.length).map fun nodeID =>
    scanZone (ord.resources nodeID) rm excludeSet allocated nodeID

/-- The fingerprint of a scan, if it is enabled. -/
def scanFingerprint (pfp : PodFingerprint) (rm : ResourceMonitor)
    (podRes : List PodResources) : Option String :=
  if rm.args.podSetFingerprint then
    let podresVerify :=
      if rm.args.podSetFingerprintMethod = pfp.methodAll then verifyAlwaysPass else verify
    some (computePodFingerprintFromPodResources pfp podRes podresVerify)
  else none

/-- `Scan`, given the answer of the kubelet's `List`. -/
def scan (pfp : PodFingerprint) (ord : ScanOrders) (rm : ResourceMonitor)
    (excludeList : ResourceExclude) (resp : Except String (List PodResources)) :
    ScanResponse × Option String :=
  match resp with
  | .error err => (.zero, some err)
  | .ok podRes =>
      let zones := scanZones ord rm excludeList podRes
      match scanFingerprint pfp rm podRes with
      | none => ({ zones := some zones, attributes := [], annotations := some ∅ }, none)
      | some pfpSign =>
          ({ zones := some zones
             attributes := [⟨pfp.attributeName, pfpSign⟩,
               ⟨pfp.attributeMethod, rm.args.podSetFingerprintMethod⟩]
             annotations := some ((∅ : GoMap String String).insert pfp.annotation pfpSign) },
            none)

end TopologyExporter
