/-
TopologyExporter/FailedRefresh.lean

What a refresh that fails leaves behind.

A node update makes the monitor refresh its figures: first the capacities, from
sysfs, then the allocatable figures, from the kubelet, then the capacities of the
devices.  Each of the first two may fail, and the informer's handler logs the error
and goes on.  The capacities are assigned before the kubelet is asked: if that
call fails, the monitor keeps the new capacities of the hardware next to the old
allocatable figures, and has lost the capacities of its devices.
`failed_refresh_changes_nothing_iff` says when this makes no difference.
-/
import TopologyExporter.Scan

namespace TopologyExporter

open GoMap GoPanic

/-! ### Node updates -/

/-- `v1.Node`, as far as the handler reads it.  The resource lists of its status are
only compared, by `reflect.DeepEqual`. -/
structure NodeObject (R : Type) where
  name : String
  capacity : R
  allocatable : R

/-- An update event of the node informer, with the answers that a refresh made on
its account receives. -/
structure NodeUpdate (R : Type) where
  old : NodeObject R
  new : NodeObject R
  ord : RefreshOrders
  mem : Except String MemoryResourceCounters
  alloc : Except String AllocatableResourcesResponse

section Updates

variable {R : Type} [DecidableEq R]

/-- `resUpdated`.  An error of the refresh is logged only. -/
def resUpdated (rm : ResourceMonitor) (ev : NodeUpdate R) : Except Panic ResourceMonitor :=
  if ev.new.name ≠ rm.nodeName then pure rm
  else if ev.old.capacity ≠ ev.new.capacity ∨ ev.old.allocatable ≠ ev.new.allocatable then do
    let (rm, _) ← updateNodeResources ev.ord ev.mem ev.alloc rm
    pure rm
  else pure rm

/-- The zones of a scan made after some more node updates. -/
def zonesAfter (pfp : PodFingerprint) (ord : ScanOrders) (excludeList : ResourceExclude)
    (resp : Except String (List PodResources)) (later : List (NodeUpdate R))
    (rm : ResourceMonitor) : Except Panic (Option (List Zone)) := do
  let rm ← later.foldlM resUpdated rm
  pure (scan pfp ord rm excludeList resp).1.zones

/-- The event is about the monitor's own node, and its figures changed. -/
def NodeUpdate.Concerns (ev : NodeUpdate R) (rm : ResourceMonitor) : Prop :=
  ev.new.name = rm.nodeName
    ∧ (ev.old.capacity ≠ ev.new.capacity ∨ ev.old.allocatable ≠ ev.new.allocatable)

theorem resUpdated_of_concerns {ev : NodeUpdate R} {rm : ResourceMonitor} (h : ev.Concerns rm) :
    resUpdated rm ev = Prod.fst <$> updateNodeResources ev.ord ev.mem ev.alloc rm := by
  rw [resUpdated, if_neg (not_not.mpr h.1), if_pos h.2]
  exact bind_pure_comp Prod.fst _

end Updates

/-! ### The two failures -/

section Failures

variable (ord : RefreshOrders) (alloc : Except String AllocatableResourcesResponse)
variable (memCounters : MemoryResourceCounters) (err : String) {rm : ResourceMonitor}

/-- A failed sysfs read is found before anything is assigned. -/
theorem updateNodeResources_mem_error (rm : ResourceMonitor) :
    updateNodeResources ord (.error err) alloc rm
      = .ok (rm, some ("error while updating node capacity: " ++ err)) := rfl

/-- A failed kubelet call is found after the capacities are assigned. -/
theorem updateNodeResources_alloc_error
    (h : ∀ i < rm.topo.nodes.length, (i : Int) ∈ rm.topo.ids) :
    updateNodeResources ord (.ok memCounters) (.error err) rm
      = .ok ({ rm with nodeCapacity := hardwareCapacity rm.topo memCounters },
          some ("error while updating node allocatable: " ++ err)) := by
  rw [updateNodeResources, updateNodeCapacity_ok h]
  rfl

/-- A refresh that returns, with or without an error, has found a node for each
position. -/
theorem positions_of_updateNodeResources {out : ResourceMonitor × Option String}
    (h : updateNodeResources ord (.ok memCounters) alloc rm = .ok out) :
    ∀ i < rm.topo.nodes.length, (i : Int) ∈ rm.topo.ids := by
  apply (updateNodeCapacity_completes_iff rm memCounters).mp
  rcases hcapacity : updateNodeCapacity (.ok memCounters) rm with p | out'
  · rw [updateNodeResources, hcapacity] at h
    cases h
  · exact ⟨out', rfl⟩

end Failures

/-! ### Figures that are stored already -/

/-- The monitor stores the figures of the hardware for each node of the topology, and
nothing else.  Each position of the node slice must be a node ID. -/
structure StoresHardware (rm : ResourceMonitor) (memCounters : MemoryResourceCounters) : Prop where
  positions : ∀ i < rm.topo.nodes.length, (i : Int) ∈ rm.topo.ids
  nodes : ∀ k, k ∈ rm.nodeCapacity ↔ 0 ≤ k ∧ k < rm.topo.nodes.length
  figures : ∀ k ∈ rm.nodeCapacity, ∀ r,
    cell rm.nodeCapacity k r = hardwareFigure rm.topo memCounters k r

/-- The hardware capacity is stored already iff each cell of it is. -/
theorem hardwareCapacity_eq_iff {rm : ResourceMonitor} {memCounters : MemoryResourceCounters}
    (h : ∀ i < rm.topo.nodes.length, (i : Int) ∈ rm.topo.ids) :
    hardwareCapacity rm.topo memCounters = rm.nodeCapacity ↔ StoresHardware rm memCounters := by
  have hmem : ∀ k, k ∈ hardwareCapacity rm.topo memCounters
      ↔ 0 ≤ k ∧ k < rm.topo.nodes.length := by
    intro k
    rw [← Finmap.lookup_isSome, lookup_hardwareCapacity]
    split_ifs with hk <;> simp [hk]
  constructor
  · intro heq
    refine ⟨h, fun k => ?_, fun k hk r => ?_⟩
    · rw [← heq, hmem]
    · rw [← heq, hmem] at hk
      rw [← heq, cell, lookup_hardwareCapacity, if_pos hk, Option.bind_some,
        lookup_capacityCounters]
  · rintro ⟨-, hnodes, hfigures⟩
    apply eq_of_cell_eq
    · intro k
      rw [hmem, hnodes]
    · intro k r
      by_cases hk : 0 ≤ k ∧ k < rm.topo.nodes.length
      · rw [hfigures k ((hnodes k).mpr hk), cell, lookup_hardwareCapacity, if_pos hk,
          Option.bind_some, lookup_capacityCounters]
      · -- neither map has the node
        have hnone : rm.nodeCapacity.lookup k = none :=
          Finmap.lookup_eq_none.mpr fun h => hk ((hnodes k).mp h)
        rw [cell, cell, lookup_hardwareCapacity, if_neg hk, hnone]

/-! ### Failed refreshes -/

/-- The refresh of an event returns an error, the stored figures are as before, and so
are the zones of every later scan. -/
def FailsCleanly {R : Type} [DecidableEq R] (ev : NodeUpdate R) (rm : ResourceMonitor) : Prop :=
  ∃ rm' err, updateNodeResources ev.ord ev.mem ev.alloc rm = .ok (rm', some err)
    ∧ resUpdated rm ev = .ok rm'
    ∧ rm'.nodeCapacity = rm.nodeCapacity ∧ rm'.nodeAllocatable = rm.nodeAllocatable
    ∧ ∀ pfp ord excludeList resp (later : List (NodeUpdate R)),
        zonesAfter pfp ord excludeList resp later rm'
          = zonesAfter pfp ord excludeList resp later rm

theorem failsCleanly_iff {R : Type} [DecidableEq R] {ev : NodeUpdate R} {rm : ResourceMonitor}
    {nodeCapacity : PerNUMAResourceCounter} {err : String} (hconcerns : ev.Concerns rm)
    (h : updateNodeResources ev.ord ev.mem ev.alloc rm
      = .ok ({ rm with nodeCapacity := nodeCapacity }, some err)) :
    FailsCleanly ev rm ↔ nodeCapacity = rm.nodeCapacity := by
  constructor
  · rintro ⟨rm', err', hrefresh, -, hcapacity, -⟩
    rw [h] at hrefresh
    cases hrefresh
    exact hcapacity
  · rintro rfl
    refine ⟨rm, err, h, ?_, rfl, rfl, fun _ _ _ _ _ => rfl⟩
    rw [resUpdated_of_concerns hconcerns, h]
    rfl

/-- **When a failed refresh changes nothing.**  If sysfs could not be read; and if it
could, but the kubelet's answer is an error, exactly if the monitor stored the
figures just read and no others. -/
theorem failed_refresh_changes_nothing_iff {R : Type} [DecidableEq R] {rm : ResourceMonitor}
    {ev : NodeUpdate R} (hconcerns : ev.Concerns rm)
    (hfails : (∃ err, ev.mem = .error err) ∨ ∃ err, ev.alloc = .error err) :
    FailsCleanly ev rm
      ↔ (∃ err, ev.mem = .error err) ∨ ∃ memCounters, ev.mem = .ok memCounters
          ∧ StoresHardware rm memCounters := by
  rcases hmem : ev.mem with err | memCounters
  · refine iff_of_true ?_ (.inl ⟨err, rfl⟩)
    have hrefresh := updateNodeResources_mem_error ev.ord ev.alloc err rm
    rw [← hmem] at hrefresh
    exact (failsCleanly_iff hconcerns hrefresh).mpr rfl
  · obtain ⟨err, halloc⟩ : ∃ err, ev.alloc = .error err := by
      rcases hfails with ⟨err, herr⟩ | halloc
      · rw [hmem] at herr
        cases herr
      · exact halloc
    -- the same iff holds with and without the disjunct for a failed read
    suffices hstores : FailsCleanly ev rm ↔ StoresHardware rm memCounters by
      rw [hstores]
      constructor
      · intro h
        exact .inr ⟨memCounters, rfl, h⟩
      · rintro (⟨err', herr⟩ | ⟨memCounters', heq, h⟩)
        · cases herr
        · cases heq
          exact h
    by_cases hpositions : ∀ i < rm.topo.nodes.length, (i : Int) ∈ rm.topo.ids
    · have hrefresh := updateNodeResources_alloc_error ev.ord memCounters err hpositions
      rw [← hmem, ← halloc] at hrefresh
      rw [failsCleanly_iff hconcerns hrefresh, hardwareCapacity_eq_iff hpositions]
    · -- the refresh panics
      refine iff_of_false ?_ fun h => hpositions h.positions
      rintro ⟨rm', err', hrefresh, -⟩
      rw [hmem] at hrefresh
      exact hpositions (positions_of_updateNodeResources _ _ _ hrefresh)

/-- A node update of the monitor's own node, with given answers. -/
def workerUpdate (mem : Except String MemoryResourceCounters)
    (alloc : Except String AllocatableResourcesResponse) : NodeUpdate Nat :=
  ⟨⟨"worker", 1, 1⟩, ⟨"worker", 2, 2⟩, .sorted, mem, alloc⟩

/-- A failed sysfs read on a machine with one node. -/
theorem failed_refresh_changes_nothing_no_sysfs :
    FailsCleanly (workerUpdate (.error "open /sys: not found") (.error "timeout"))
      (initialMonitor "worker" ⟨"", false, ""⟩ ⟨[⟨0, [⟨[0, 1]⟩], [10]⟩]⟩) :=
  (failed_refresh_changes_nothing_iff ⟨rfl, .inl (by decide)⟩ (.inl ⟨_, rfl⟩)).mpr
    (.inl ⟨_, rfl⟩)

/-- A monitor that has read 1024 bytes of memory, and a read that finds 2048 bytes,
after which the kubelet does not answer: the error is returned, but the capacity has
changed and so has the next scan. -/
theorem failed_refresh_keeps_new_capacity :
    ∃ rm rm', newResourceMonitor .sorted
          (.ok ((∅ : MemoryResourceCounters).insert resourceMemory
            ((∅ : GoMap Int Int).insert 0 1024)))
          (.ok ⟨[], [0, 1], [⟨"memory", 1024, some ⟨[⟨0⟩]⟩⟩]⟩) "worker" ⟨"", false, ""⟩
          ⟨[⟨0, [⟨[0, 1]⟩], [10]⟩]⟩ = .ok (.ok rm)
      ∧ updateNodeResources .sorted
          (.ok ((∅ : MemoryResourceCounters).insert resourceMemory
            ((∅ : GoMap Int Int).insert 0 2048))) (.error "timeout") rm
        = .ok (rm', some "error while updating node allocatable: timeout")
      ∧ rm'.nodeCapacity ≠ rm.nodeCapacity
      ∧ (scan namesFingerprint .sorted rm' ∅ (.ok [])).1.zones
          ≠ (scan namesFingerprint .sorted rm ∅ (.ok [])).1.zones := by
  refine ⟨_, _, rfl, rfl, ?_, ?_⟩
  · decide +kernel
  · decide +kernel

end TopologyExporter
