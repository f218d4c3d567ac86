/-
TopologyExporter/Topology.lean

The machine topology and the helpers of `resourcemonitor.go` that read it.

The topology is the slice of NUMA nodes that the hardware library reports.  Some
helpers address a node by its position in the slice, others by its `ID`; the
two agree on the set of nodes exactly when the IDs are `0, ..., n-1`
(`ContiguousIDs`).
-/
import TopologyExporter.GoPanic
import Mathlib.Data.List.Perm.Basic
import Mathlib.Data.List.Range

namespace TopologyExporter

open GoMap

/-! ### The hardware library's types -/

/-- `cpu.ProcessorCore`. -/
structure ProcessorCore where
  logicalProcessors : List Int
  deriving DecidableEq, Repr

/-- `topology.Node`. -/
structure TopologyNode where
  id : Int
  cores : List ProcessorCore
  distances : List Int
  deriving DecidableEq, Repr

/-- `topology.Info`. -/
structure MachineTopology where
  nodes : List TopologyNode
  deriving DecidableEq, Repr

/-- The IDs of the NUMA nodes, in the order of the slice. -/
def MachineTopology.ids (topo : MachineTopology) : List Int := topo.nodes.map fun node => node.id

/-- The node IDs are exactly `0, ..., n-1`, in any order. -/
def ContiguousIDs (topo : MachineTopology) : Prop :=
  topo.ids.Perm ((List.range topo.nodes.length).map Int.ofNat)

instance (topo : MachineTopology) : Decidable (ContiguousIDs topo) :=
  inferInstanceAs (Decidable (List.Perm _ _))

/-! ### Helpers of the resource monitor -/

/-- `findNodeByID`. -/
def findNodeByID (nodes : List TopologyNode) (nodeID : Int) : Option TopologyNode :=
  nodes.find? fun node => node.id = nodeID

/-- The logical processors of a node. -/
def logicalCores (node : TopologyNode) : Nat :=
  node.cores.foldl (fun acc core => acc + core.logicalProcessors.length) 0

/-- The logical processors of the node with an ID, zero if there is none. -/
def nodeCPUs (topo : MachineTopology) (nodeID : Int) : Int :=
  match findNodeByID topo.nodes nodeID with
  | none => 0
  | some node => logicalCores node

/-- `cpuCapacity`: the node found is dereferenced without a check. -/
def cpuCapacity (topo : MachineTopology) (nodeID : Int) : Except Panic Int :=
  match findNodeByID topo.nodes nodeID with
  | none => .error .nilDereference
  | some nodeSrc => .ok (logicalCores nodeSrc)

/-- `MakeCoreIDToNodeIDMap`. -/
def makeCoreIDToNodeIDMap (topo : MachineTopology) : GoMap Int Int :=
  topo.nodes.foldl (fun coreToNode node =>
    node.cores.foldl (fun coreToNode core =>
      core.logicalProcessors.foldl (fun coreToNode procID =>
        coreToNode.insert procID node.id) coreToNode) coreToNode) ∅

/-- `makeZoneName`. -/
def makeZoneName (nodeID : Int) : String := "node-" ++ toString nodeID

/-- `CostInfo`. -/
structure CostInfo where
  name : String
  value : Int
  deriving DecidableEq, Repr

/-- `makeCostsPerNumaNode`: the distance vector is read by position. -/
def makeCostsPerNumaNode (nodes : List TopologyNode) (nodeIDSrc : Int) :
    Except String (List CostInfo) :=
  match findNodeByID nodes nodeIDSrc with
  | none => .error ("unknown node: " ++ toString nodeIDSrc)
  | some nodeSrc =>
      .ok (nodeSrc.distances.zipIdx.map fun (dist, nodeIDDst) =>
        { name := makeZoneName nodeIDDst, value := dist })

/-! ### Finding nodes -/

theorem findNodeByID_isSome_iff {nodes : List TopologyNode} {nodeID : Int} :
    (findNodeByID nodes nodeID).isSome ↔ nodeID ∈ nodes.map fun node => node.id := by
  simp [findNodeByID]

theorem findNodeByID_some {nodes : List TopologyNode} {nodeID : Int} {node : TopologyNode}
    (h : findNodeByID nodes nodeID = some node) : node ∈ nodes ∧ node.id = nodeID :=
  ⟨List.mem_of_find?_eq_some h, by simpa using List.find?_some h⟩

theorem cpuCapacity_of_mem {topo : MachineTopology} {nodeID : Int} (h : nodeID ∈ topo.ids) :
    cpuCapacity topo nodeID = .ok (nodeCPUs topo nodeID) := by
  obtain ⟨node, hnode⟩ := Option.isSome_iff_exists.mp (findNodeByID_isSome_iff.mpr h)
  simp [cpuCapacity, nodeCPUs, hnode]

theorem cpuCapacity_of_notMem {topo : MachineTopology} {nodeID : Int}
    (h : nodeID ∉ topo.ids) : cpuCapacity topo nodeID = .error .nilDereference := by
  have hnone : findNodeByID topo.nodes nodeID = none := by
    rw [← Option.not_isSome_iff_eq_none, findNodeByID_isSome_iff]
    exact h
  simp [cpuCapacity, hnone]

/-- With distinct IDs a node is found under its own ID. -/
theorem findNodeByID_self {nodes : List TopologyNode}
    (hnd : (nodes.map fun node => node.id).Nodup) {node : TopologyNode} (h : node ∈ nodes) :
    findNodeByID nodes node.id = some node := by
  have hsome : (findNodeByID nodes node.id).isSome :=
    findNodeByID_isSome_iff.mpr (List.mem_map_of_mem h)
  obtain ⟨node', hfind⟩ := Option.isSome_iff_exists.mp hsome
  obtain ⟨hmem, hid⟩ := findNodeByID_some hfind
  rw [hfind, List.inj_on_of_nodup_map hnd hmem h hid]

/-! ### Contiguous IDs -/

theorem ContiguousIDs.mem_iff {topo : MachineTopology} (h : ContiguousIDs topo) (k : Int) :
    k ∈ topo.ids ↔ 0 ≤ k ∧ k < topo.nodes.length := by
  rw [List.Perm.mem_iff h, List.mem_map]
  constructor
  · rintro ⟨i, hi, rfl⟩
    rw [List.mem_range] at hi
    exact ⟨Int.natCast_nonneg i, Int.ofNat_lt.mpr hi⟩
  · rintro ⟨h₀, hlt⟩
    exact ⟨k.toNat, List.mem_range.mpr (by omega), Int.toNat_of_nonneg h₀⟩

/-- Every position of the slice is a node ID only if the IDs are contiguous:
`n` IDs that include `0, ..., n-1` are no more than these. -/
theorem contiguousIDs_of_forall_mem {topo : MachineTopology}
    (h : ∀ i < topo.nodes.length, (i : Int) ∈ topo.ids) : ContiguousIDs topo := by
  have hrange : ((List.range topo.nodes.length).map Int.ofNat).Nodup :=
    List.Nodup.map (fun _ _ e => Int.ofNat.inj e) List.nodup_range
  have hsub : ((List.range topo.nodes.length).map Int.ofNat) ⊆ topo.ids := by
    intro k hk
    obtain ⟨i, hi, rfl⟩ := List.mem_map.mp hk
    exact h i (List.mem_range.mp hi)
  have hsp := List.subperm_of_subset hrange hsub
  exact (hsp.perm_of_length_le (by simp [MachineTopology.ids])).symm

end TopologyExporter
