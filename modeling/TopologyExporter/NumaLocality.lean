/-
TopologyExporter/NumaLocality.lean

Which pods hold NUMA-local resources: `pkg/podres/filter` and its
`numalocality` package.  The verdict carries the container that decided it and
a one-word reason, as the logs of the resource monitor print them.

`verifyContainer_eq_none_iff` says what a rejected container may still hold.
-/
import TopologyExporter.PodResources

namespace TopologyExporter

/-- `filter.Result`. -/
structure FilterResult where
  allow : Bool
  ident : String
  reason : String
  deriving DecidableEq, Repr

/-- The verdict of a filter that found nothing. -/
def FilterResult.reject : FilterResult := { allow := false, ident := "", reason := "" }

/-- `filter.VerifyAlwaysPass`. -/
def verifyAlwaysPass (_ : PodResources) : FilterResult :=
  { allow := true, ident := "", reason := "" }

/-- `numalocality.IsPresent`: a missing topology, an empty one and the node ID
`-1` all mean "don't care about locality". -/
def isPresent : Option TopologyInfo → Bool
  | none => false
  | some topo => topo.nodes.any fun node => 0 ≤ node.id

/-- The checks of `numalocality.Verify` on one container. -/
def verifyContainer (cr : ContainerResources) : Option FilterResult :=
  if 0 < cr.cpuIds.length then
    some { allow := true, ident := cr.name, reason := "cpu" }
  else if cr.memory.any fun mem => isPresent mem.topology then
    some { allow := true, ident := cr.name, reason := "memory" }
  else if cr.devices.any fun dev => 0 < dev.deviceIds.length && isPresent dev.topology then
    some { allow := true, ident := cr.name, reason := "device" }
  else none

/-- `numalocality.Verify`: the first container that holds something local. -/
def verify (pr : PodResources) : FilterResult :=
  (pr.containers.findSome? verifyContainer).getD .reject

theorem verifyContainer_allow {cr : ContainerResources} {res : FilterResult}
    (h : verifyContainer cr = some res) : res.allow = true := by
  unfold verifyContainer at h
  split_ifs at h <;> cases h <;> rfl

/-- A rejected pod has no container for which a check succeeds. -/
theorem verify_allow_eq_false {pr : PodResources} (h : (verify pr).allow = false) :
    ∀ cr ∈ pr.containers, verifyContainer cr = none := by
  unfold verify at h
  rcases hfind : pr.containers.findSome? verifyContainer with - | res
  · exact List.findSome?_eq_none_iff.mp hfind
  · rw [hfind] at h
    obtain ⟨cr, -, hcr⟩ := List.exists_of_findSome?_eq_some hfind
    rw [Option.getD_some, verifyContainer_allow hcr] at h
    cases h

/-- What a container of a rejected pod may hold: no CPUs, and memory blocks and
devices only where locality does not matter. -/
theorem verifyContainer_eq_none_iff {cr : ContainerResources} :
    verifyContainer cr = none ↔ cr.cpuIds = []
      ∧ (∀ mem ∈ cr.memory, isPresent mem.topology = false)
      ∧ ∀ dev ∈ cr.devices, dev.deviceIds = [] ∨ isPresent dev.topology = false := by
  unfold verifyContainer
  split_ifs with hcpu hmem hdev
  · simp only [false_iff, not_and]
    intro hnil
    simp [hnil] at hcpu
  · simp only [false_iff, not_and]
    intro _ hall
    obtain ⟨mem, hm, hp⟩ := List.any_eq_true.mp hmem
    simp [hall mem hm] at hp
  · simp only [false_iff, not_and]
    intro _ _ hall
    obtain ⟨dev, hd, hp⟩ := List.any_eq_true.mp hdev
    rcases hall dev hd with hnil | hnot
    · simp [hnil] at hp
    · simp [hnot] at hp
  · refine iff_of_true rfl ⟨?_, ?_, ?_⟩
    · exact List.length_eq_zero_iff.mp (by omega)
    · intro mem hm
      by_contra hp
      exact hmem (List.any_eq_true.mpr ⟨mem, hm, by simpa using hp⟩)
    · intro dev hd
      by_contra hp
      rw [not_or] at hp
      refine hdev (List.any_eq_true.mpr ⟨dev, hd, ?_⟩)
      simp [List.length_pos_iff, hp.1, hp.2]

/-- A topology without locality names no NUMA node of the machine. -/
theorem nodeCount_of_isPresent_eq_false {topology : Option TopologyInfo}
    (h : isPresent topology = false) {k : Int} (hk : 0 ≤ k) : nodeCount topology k = 0 := by
  rw [nodeCount_eq_zero_iff]
  rcases topology with - | topo
  · simp [getNodes]
  · intro node hnode hid
    have hneg := List.any_eq_false.mp h node hnode
    rw [hid] at hneg
    exact hneg (by simpa using hk)

end TopologyExporter
