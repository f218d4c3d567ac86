/-
TopologyExporter/PodResources.lean

The messages of the kubelet's podresources API, as far as the exporter reads
them, and the names of the native resources.

A message field that is a pointer in the generated Go code and may be missing
is an `Option`; elements of repeated fields are never nil on the wire, so they
are plain values.  NUMA node and CPU identifiers are `int64`, memory sizes are
`uint64`.
-/
import TopologyExporter.GoMap
import TopologyExporter.GoInt
import TopologyExporter.GoString

namespace TopologyExporter

open GoString

/-! ### Messages -/

/-- `NUMANode`. -/
structure NUMANode where
  id : Int
  deriving DecidableEq, Repr

/-- `TopologyInfo`. -/
structure TopologyInfo where
  nodes : List NUMANode
  deriving DecidableEq, Repr

/-- `ContainerDevices`: the devices of one resource, and where they are. -/
structure ContainerDevices where
  resourceName : String
  deviceIds : List String
  topology : Option TopologyInfo
  deriving DecidableEq, Repr

/-- `ContainerMemory`: a block of memory or hugepages. -/
structure ContainerMemory where
  memoryType : String
  size : UInt64
  topology : Option TopologyInfo
  deriving DecidableEq

/-- `ContainerResources`. -/
structure ContainerResources where
  name : String
  devices : List ContainerDevices
  cpuIds : List Int
  memory : List ContainerMemory
  deriving DecidableEq

/-- `PodResources`. -/
structure PodResources where
  name : String
  «namespace» : String
  containers : List ContainerResources
  deriving DecidableEq

/-- `AllocatableResourcesResponse`. -/
structure AllocatableResourcesResponse where
  devices : List ContainerDevices
  cpuIds : List Int
  memory : List ContainerMemory
  deriving DecidableEq

/-- `topology.GetNodes()`: a missing topology has no nodes. -/
def getNodes : Option TopologyInfo → List NUMANode
  | none => []
  | some topo => topo.nodes

/-- How often a topology names the NUMA node `k`. -/
def nodeCount (topology : Option TopologyInfo) (k : Int) : Nat :=
  (getNodes topology).countP fun node => node.id = k

theorem nodeCount_eq_zero_iff {topology : Option TopologyInfo} {k : Int} :
    nodeCount topology k = 0 ↔ ∀ node ∈ getNodes topology, node.id ≠ k := by
  simp [nodeCount, List.countP_eq_zero]

/-! ### Native resources -/

/-- `v1.ResourceCPU`. -/
def resourceCPU : String := "cpu"

/-- `v1.ResourceMemory`. -/
def resourceMemory : String := "memory"

/-- `v1.ResourceHugePagesPrefix`. -/
def resourceHugePagesPrefix : String := "hugepages-"

/-- The resources whose device IDs are sizes rather than identifiers. -/
def isMemoryResource (resName : String) : Bool :=
  resName == resourceMemory || hasPrefix resName resourceHugePagesPrefix

/-- `isNativeResource`. -/
def isNativeResource (resName : String) : Bool :=
  resName == resourceCPU || resName == resourceMemory
    || hasPrefix resName resourceHugePagesPrefix

theorem isNativeResource_eq (resName : String) :
    isNativeResource resName = (resName == resourceCPU || isMemoryResource resName) := by
  simp [isNativeResource, isMemoryResource, Bool.or_assoc]

theorem isMemoryResource_cpu : isMemoryResource resourceCPU = false := by decide

end TopologyExporter
