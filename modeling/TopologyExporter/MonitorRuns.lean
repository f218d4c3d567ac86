/-
TopologyExporter/MonitorRuns.lean

The resource monitor over whole runs of node updates.

A refresh stores its figures in three steps, and may fail or panic between them, so
the monitor carries what earlier refreshes have left.  Of all this a scan shows very
little: the last sysfs counters that were read and the last answer of the kubelet that
was stored (`Readings`).  In particular the device capacities that a half-failed refresh
throws away are not missed, because a scan replaces a missing capacity by the
allocatable figure, which is what the refresh would have stored.

`monitor_run_restarts` is the result: a run panics iff one of its refreshes finds a device
off the topology; otherwise no scan can tell the monitor from one that has just been
started with the last readings.
-/
import TopologyExporter.FailedRefresh
import TopologyExporter.ZoneFigures

namespace TopologyExporter

open GoMap GoPanic

/-! ### What a scan shows of the capacities -/

/-- With the same allocatable figures, and capacities that show alike, a scan is the same. -/
theorem scan_withCapacity_congr {rm : ResourceMonitor} {nodeCapacity : PerNUMAResourceCounter}
    (h : ∀ nodeID : Nat, nodeID < rm.topo.nodes.length → ∀ r resAlloc,
      (zoneCounters rm nodeID).lookup r = some resAlloc → ∀ allocated,
        scanResource (getD rm.nodeCapacity nodeID ∅) allocated nodeID r resAlloc
          = scanResource (getD nodeCapacity nodeID ∅) allocated nodeID r resAlloc)
    (pfp : PodFingerprint) (ord : ScanOrders) (excludeList : ResourceExclude)
    (resp : Except String (List PodResources)) :
    scan pfp ord rm excludeList resp
      = scan pfp ord { rm with nodeCapacity := nodeCapacity } excludeList resp := by
  rcases resp with err | podRes
  · rfl
  · have hzones : scanZones ord rm excludeList podRes
        = scanZones ord { rm with nodeCapacity := nodeCapacity } excludeList podRes := by
      refine List.map_congr_left fun nodeID hnodeID => ?_
      unfold scanZone
      congr 1
      refine List.filterMap_congr fun e he => ?_
      have hlookup := (((ord.resources nodeID).enumerates _).mem_iff e.1 e.2).mp he
      show (if _ then _ else _) = (if _ then _ else _)
      rw [h nodeID (List.mem_range.mp hnodeID) e.1 e.2 hlookup]
    rw [scan, hzones]
    rfl

/-- A capacity that is missing shows like one that is the allocatable figure. -/
theorem scanResource_of_lookup_none {cap cap' : ResourceCounter} {r : String} {resAlloc : Int}
    (hnone : cap.lookup r = none) (hsome : cap'.lookup r = some resAlloc)
    (allocated : PerNUMAResourceCounter) (k : Int) :
    scanResource cap allocated k r resAlloc = scanResource cap' allocated k r resAlloc := by
  simp only [scanResource, hnone, hsome, ite_self]

theorem isNativeResource_of_mem_copiedResources :
    ∀ r ∈ copiedResources, isNativeResource r = true := by
  decide

section Stored

variable (rord : RefreshOrders) (memCounters : MemoryResourceCounters)
variable (allocRes : AllocatableResourcesResponse) (rm₀ : ResourceMonitor)

theorem lookup_withHardware {nodeID : Nat} (hlt : nodeID < rm₀.topo.nodes.length) (r : String) :
    (getD (withHardware rord memCounters allocRes rm₀).nodeCapacity nodeID ∅).lookup r
      = hardwareFigure rm₀.topo memCounters nodeID r := by
  rw [lookup_getD_empty]
  show ((hardwareCapacity rm₀.topo memCounters).lookup (nodeID : Int)).bind _ = _
  rw [lookup_hardwareCapacity, if_pos ⟨Int.natCast_nonneg _, Int.ofNat_lt.mpr hlt⟩]
  exact lookup_capacityCounters ..

/-- The capacity of a resource is the figure of the hardware or, for a device, the allocatable
figure. -/
def FromReadings (nodeCapacity : PerNUMAResourceCounter) (nodeID : Nat) (r : String) : Prop :=
  let nodeAllocatable := (withHardware rord memCounters allocRes rm₀).nodeAllocatable
  cell nodeCapacity nodeID r = hardwareFigure rm₀.topo memCounters nodeID r
    ∨ isNativeResource r = false ∧ (cell nodeAllocatable nodeID r).isSome
      ∧ cell nodeCapacity nodeID r = cell nodeAllocatable nodeID r

variable {rord memCounters allocRes rm₀}

theorem fromReadings_refreshed {nodeID : Nat} (hlt : nodeID < rm₀.topo.nodes.length) (r : String) :
    FromReadings rord memCounters allocRes rm₀ (refreshed rord memCounters allocRes rm₀).nodeCapacity
      nodeID r := by
  have hrefreshed := lookup_nodeCapacity rord memCounters allocRes rm₀ hlt r
  rw [lookup_getD_empty] at hrefreshed
  by_cases hdevice : isNativeResource r = false
      ∧ (cell (containerDevicesToPerNUMAResourceCounters (allocatableDevices rord allocRes rm₀))
          nodeID r).isSome
  · exact .inr ⟨hdevice.1, hdevice.2, hrefreshed.trans (if_pos hdevice)⟩
  · exact .inl (hrefreshed.trans (if_neg hdevice))

/-- Either way a zone shows the same. -/
theorem FromReadings.scanResource_eq {nodeCapacity : PerNUMAResourceCounter} {nodeID : Nat}
    {r : String} (h : FromReadings rord memCounters allocRes rm₀ nodeCapacity nodeID r)
    (hlt : nodeID < rm₀.topo.nodes.length) {resAlloc : Int}
    (hlookup : (zoneCounters (withHardware rord memCounters allocRes rm₀) nodeID).lookup r
      = some resAlloc)
    (allocated : PerNUMAResourceCounter) :
    scanResource (getD (withHardware rord memCounters allocRes rm₀).nodeCapacity nodeID ∅) allocated
        nodeID r resAlloc
      = scanResource (getD nodeCapacity nodeID ∅) allocated nodeID r resAlloc := by
  have hhardware := lookup_withHardware rord memCounters allocRes rm₀ hlt r
  have hcapacity := lookup_getD_empty nodeCapacity nodeID r
  rcases h with hsame | ⟨hdevice, hsome, hstored⟩
  · simp only [scanResource, hhardware, hcapacity, hsame]
  · -- a device that is reported: no hardware figure, and the stored one is the allocatable one
    refine scanResource_of_lookup_none ?_ (hcapacity.trans (hstored.trans ?_)) ..
    · rw [hhardware, hardwareFigure_eq, if_neg]
      intro hcopied
      rw [isNativeResource_of_mem_copiedResources r hcopied] at hdevice
      cases hdevice
    · have hquan := ((lookup_zoneCounters_iff rfl nodeID r resAlloc).mp hlookup).2
      have hcell := cell_counters (allocatableDevices rord allocRes rm₀) nodeID r
      rw [if_pos (isSome_cell_counters_iff.mp hsome), ← hquan] at hcell
      exact hcell

variable (rord memCounters allocRes rm₀)

/-- **No scan shows whether the device capacities have been stored.** -/
theorem scan_withHardware (pfp : PodFingerprint) (ord : ScanOrders) (excludeList : ResourceExclude)
    (resp : Except String (List PodResources)) :
    scan pfp ord (withHardware rord memCounters allocRes rm₀) excludeList resp
      = scan pfp ord (refreshed rord memCounters allocRes rm₀) excludeList resp := by
  refine scan_withCapacity_congr (fun nodeID hlt r resAlloc hlookup allocated => ?_) ..
  exact (fromReadings_refreshed hlt r).scanResource_eq hlt hlookup allocated

end Stored

/-- A refresh for which both calls succeed. -/
theorem updateNodeResources_answers (ord : RefreshOrders) (rm : ResourceMonitor)
    (hids : ContiguousIDs rm.topo) (memCounters : MemoryResourceCounters)
    (allocRes : AllocatableResourcesResponse) :
    updateNodeResources ord (.ok memCounters) (.ok allocRes) rm
      = if DevicesOnTopology rm.topo allocRes
        then .ok (refreshed ord memCounters allocRes rm, none) else .error .nilMapWrite := by
  split_ifs with hdev
  · exact updateNodeResources_ok ord memCounters allocRes rm hids hdev
  · have hwrites := capacityWrites_on_topology_iff ord memCounters allocRes rm hids
    rw [updateNodeResources_eq ord memCounters allocRes rm hids,
      updateDevicesCapacity_panics fun hall => hdev (hwrites.mp hall)]
    rfl

/-- A monitor that has just been started. -/
theorem newResourceMonitor_answers (ord : RefreshOrders) {topo : MachineTopology}
    (hids : ContiguousIDs topo) (memCounters : MemoryResourceCounters)
    (allocRes : AllocatableResourcesResponse) (nodeName : String) (args : MonitorArgs) :
    newResourceMonitor ord (.ok memCounters) (.ok allocRes) nodeName args topo
      = if DevicesOnTopology topo allocRes
        then .ok (.ok (refreshed ord memCounters allocRes (initialMonitor nodeName args topo)))
        else .error .nilMapWrite := by
  have hrefresh := updateNodeResources_answers ord (initialMonitor nodeName args topo) hids
    memCounters allocRes
  rw [newResourceMonitor, hrefresh]
  show (if DevicesOnTopology topo allocRes then _ else _) >>= _ = _
  split_ifs <;> rfl

/-! ### The last readings -/

section Runs

variable {R : Type} [DecidableEq R]

/-- The update makes the monitor of that node refresh its figures. -/
def NodeUpdate.refreshes (nodeName : String) (ev : NodeUpdate R) : Bool :=
  decide (ev.new.name = nodeName
    ∧ (ev.old.capacity ≠ ev.new.capacity ∨ ev.old.allocatable ≠ ev.new.allocatable))

/-- The refresh panics: both calls succeed, and there is a device off the topology. -/
def NodeUpdate.Misplaced (nodeName : String) (topo : MachineTopology) (ev : NodeUpdate R) : Prop :=
  ev.refreshes nodeName = true ∧ ∃ memCounters allocRes, ev.mem = .ok memCounters
    ∧ ev.alloc = .ok allocRes ∧ ¬ DevicesOnTopology topo allocRes

/-- The sysfs counters and the answer of the kubelet that the figures of a monitor
come from. -/
structure Readings where
  memCounters : MemoryResourceCounters
  allocRes : AllocatableResourcesResponse

/-- The readings after a node update.  Without the sysfs counters the kubelet is not asked;
without its answer the counters are stored. -/
def Readings.update (nodeName : String) (last : Readings) (ev : NodeUpdate R) : Readings :=
  if ev.refreshes nodeName then
    match ev.mem, ev.alloc with
    | .error _, _ => last
    | .ok memCounters, .error _ => { last with memCounters := memCounters }
    | .ok memCounters, .ok allocRes => ⟨memCounters, allocRes⟩
  else last

/-- The readings after a run of node updates. -/
def Readings.after (nodeName : String) (start : Readings) (evs : List (NodeUpdate R)) : Readings :=
  evs.foldl (Readings.update nodeName) start

variable (ord : RefreshOrders) (rm₀ : ResourceMonitor)

/-- The monitor has the figures of the readings, with or without the device capacities. -/
structure Stores (last : Readings) (rm : ResourceMonitor) : Prop where
  figures : rm = withHardware ord last.memCounters last.allocRes rm₀
    ∨ rm = refreshed ord last.memCounters last.allocRes rm₀
  onTopology : DevicesOnTopology rm₀.topo last.allocRes

variable {ord rm₀}

theorem Stores.nodeName {last : Readings} {rm : ResourceMonitor} (h : Stores ord rm₀ last rm) :
    rm.nodeName = rm₀.nodeName := by
  rcases h.figures with rfl | rfl <;> rfl

/-- A refresh overwrites what is stored. -/
theorem Stores.refreshed_eq {last : Readings} {rm : ResourceMonitor}
    (h : Stores ord rm₀ last rm) (memCounters : MemoryResourceCounters)
    (allocRes : AllocatableResourcesResponse) :
    refreshed ord memCounters allocRes rm = refreshed ord memCounters allocRes rm₀ := by
  rcases h.figures with rfl | rfl <;> rfl

theorem Stores.topo {last : Readings} {rm : ResourceMonitor} (h : Stores ord rm₀ last rm) :
    rm.topo = rm₀.topo := by
  rcases h.figures with rfl | rfl <;> rfl

theorem NodeUpdate.refreshes_iff {ev : NodeUpdate R} {rm : ResourceMonitor} :
    ev.refreshes rm.nodeName = true ↔ ev.Concerns rm := decide_eq_true_iff

/-- The handler, with the condition on the update in one place. -/
theorem resUpdated_eq (ord : RefreshOrders) (rm : ResourceMonitor) (ev : NodeUpdate R) :
    resUpdated rm ev
      = if ev.refreshes rm.nodeName then Prod.fst <$> updateNodeResources ord ev.mem ev.alloc rm
        else .ok rm := by
  rw [updateNodeResources_orders ord ev.ord]
  by_cases hconcerns : ev.Concerns rm
  · rw [resUpdated_of_concerns hconcerns, if_pos (NodeUpdate.refreshes_iff.mpr hconcerns)]
  · rw [if_neg fun hrefreshes => hconcerns (NodeUpdate.refreshes_iff.mp hrefreshes)]
    unfold resUpdated
    split_ifs with hother hchanged
    · rfl
    · exact absurd ⟨not_not.mp hother, hchanged⟩ hconcerns
    · rfl

/-! ### One update -/

/-- **One node update**: it panics, or the monitor stores the next readings. -/
theorem resUpdated_stores (hids : ContiguousIDs rm₀.topo) {last : Readings} {rm : ResourceMonitor}
    (h : Stores ord rm₀ last rm) (ev : NodeUpdate R) :
    (ev.Misplaced rm₀.nodeName rm₀.topo → resUpdated rm ev = .error .nilMapWrite)
      ∧ (¬ ev.Misplaced rm₀.nodeName rm₀.topo →
          ∃ rm', resUpdated rm ev = .ok rm' ∧ Stores ord rm₀ (last.update rm₀.nodeName ev) rm') := by
  rw [resUpdated_eq ord rm ev, h.nodeName, Readings.update]
  by_cases hrefreshes : ev.refreshes rm₀.nodeName = true
  · rw [if_pos hrefreshes, if_pos hrefreshes]
    rcases hmem : ev.mem with err | memCounters
    · refine ⟨?_, fun _ => ⟨rm, rfl, h⟩⟩
      rintro ⟨-, memCounters, -, hok, -⟩
      cases hmem.symm.trans hok
    · rcases halloc : ev.alloc with err | allocRes
      · refine ⟨?_, fun _ => ⟨withHardware ord memCounters last.allocRes rm₀, ?_, .inl rfl, h.onTopology⟩⟩
        · rintro ⟨-, -, allocRes, -, hok, -⟩
          cases halloc.symm.trans hok
        · have hall : ∀ i < rm.topo.nodes.length, (i : Int) ∈ rm.topo.ids := by
            intro i hi
            rw [h.topo] at hi ⊢
            exact (hids.mem_iff i).mpr ⟨Int.natCast_nonneg i, Int.ofNat_lt.mpr hi⟩
          rw [updateNodeResources_alloc_error ord memCounters err hall]
          rcases h.figures with rfl | rfl <;> rfl
      · rw [updateNodeResources_answers ord rm (h.topo ▸ hids), h.topo, h.refreshed_eq]
        constructor
        · rintro ⟨-, _, _, -, hok, hdev⟩
          cases halloc.symm.trans hok
          rw [if_neg hdev]
          rfl
        · intro hplaced
          have hdev : DevicesOnTopology rm₀.topo allocRes := by
            by_contra hdev
            exact hplaced ⟨hrefreshes, memCounters, allocRes, hmem, halloc, hdev⟩
          rw [if_pos hdev]
          exact ⟨_, rfl, .inr rfl, hdev⟩
  · rw [if_neg hrefreshes, if_neg hrefreshes]
    exact ⟨fun hmisplaced => absurd hmisplaced.1 hrefreshes, fun _ => ⟨rm, rfl, h⟩⟩

/-! ### Whole runs -/

/-- **A run of node updates** panics, or the monitor stores the last readings. -/
theorem foldlM_resUpdated (hids : ContiguousIDs rm₀.topo) {last : Readings} {rm : ResourceMonitor}
    (h : Stores ord rm₀ last rm) (evs : List (NodeUpdate R)) :
    ((∃ ev ∈ evs, ev.Misplaced rm₀.nodeName rm₀.topo) →
        evs.foldlM resUpdated rm = .error .nilMapWrite)
      ∧ ((∀ ev ∈ evs, ¬ ev.Misplaced rm₀.nodeName rm₀.topo) →
          ∃ rm', evs.foldlM resUpdated rm = .ok rm'
            ∧ Stores ord rm₀ (last.after rm₀.nodeName evs) rm') := by
  induction evs generalizing last rm with
  | nil => exact ⟨fun ⟨_, hev, _⟩ => (List.not_mem_nil hev).elim, fun _ => ⟨rm, rfl, h⟩⟩
  | cons ev evs ih =>
      obtain ⟨hpanics, hstores⟩ := resUpdated_stores hids h ev
      rw [List.foldlM_cons]
      by_cases hmisplaced : ev.Misplaced rm₀.nodeName rm₀.topo
      · rw [hpanics hmisplaced]
        exact ⟨fun _ => rfl, fun hall => absurd hmisplaced (hall ev List.mem_cons_self)⟩
      · obtain ⟨rm', hok, h'⟩ := hstores hmisplaced
        obtain ⟨hlater, hruns⟩ := ih h'
        rw [hok]
        constructor
        · rintro ⟨ev', hev', hmisplaced'⟩
          rcases List.mem_cons.mp hev' with rfl | hev'
          · exact absurd hmisplaced' hmisplaced
          · exact hlater ⟨ev', hev', hmisplaced'⟩
        · intro hall
          exact hruns fun ev' hev' => hall ev' (List.mem_cons_of_mem ev hev')

section Start

variable {memCounters : MemoryResourceCounters} {allocRes : AllocatableResourcesResponse}
variable {nodeName : String} {args : MonitorArgs} {topo : MachineTopology} {rm : ResourceMonitor}

/-- A monitor starts only on a machine with contiguous IDs: its first refresh looks for a node
under each position. -/
theorem contiguousIDs_of_newResourceMonitor
    (hnew : newResourceMonitor ord (.ok memCounters) (.ok allocRes) nodeName args topo
      = .ok (.ok rm)) : ContiguousIDs topo := by
  rcases hrefresh : updateNodeResources ord (.ok memCounters) (.ok allocRes)
      (initialMonitor nodeName args topo) with p | out
  · rw [newResourceMonitor, hrefresh] at hnew
    cases hnew
  · exact contiguousIDs_of_forall_mem
      (positions_of_updateNodeResources ord (.ok allocRes) memCounters hrefresh)

theorem stores_newResourceMonitor
    (hnew : newResourceMonitor ord (.ok memCounters) (.ok allocRes) nodeName args topo
      = .ok (.ok rm)) :
    Stores ord (initialMonitor nodeName args topo) ⟨memCounters, allocRes⟩ rm := by
  rw [newResourceMonitor_answers ord (contiguousIDs_of_newResourceMonitor hnew)] at hnew
  split_ifs at hnew with hdev
  obtain rfl := Except.ok.inj (Except.ok.inj hnew)
  exact ⟨.inr rfl, hdev⟩

/-- A monitor that has come through a run stores the last readings. -/
theorem stores_of_run {evs : List (NodeUpdate R)} {rm' : ResourceMonitor}
    (hnew : newResourceMonitor ord (.ok memCounters) (.ok allocRes) nodeName args topo = .ok (.ok rm))
    (hrun : evs.foldlM resUpdated rm = .ok rm') :
    Stores ord (initialMonitor nodeName args topo)
      (Readings.after nodeName ⟨memCounters, allocRes⟩ evs) rm' := by
  obtain ⟨hpanics, hstores⟩ := foldlM_resUpdated (contiguousIDs_of_newResourceMonitor hnew)
    (stores_newResourceMonitor hnew) evs
  by_cases hmisplaced : ∃ ev ∈ evs, ev.Misplaced (initialMonitor nodeName args topo).nodeName
      (initialMonitor nodeName args topo).topo
  · rw [hpanics hmisplaced] at hrun
    cases hrun
  · obtain ⟨rm'', hok, h⟩ := hstores fun ev hev hbad => hmisplaced ⟨ev, hev, hbad⟩
    obtain rfl := Except.ok.inj (hrun.symm.trans hok)
    exact h

end Start

/-- **A monitor is as good as a restarted one.**  Take any run of node updates after a
successful start.  It panics iff a refresh finds a device off the topology.  If it does not,
every scan is that of a monitor started with the last sysfs counters read and the last answer
of the kubelet stored, whatever failed in between. -/
theorem monitor_run_restarts {ord : RefreshOrders} {memCounters : MemoryResourceCounters}
    {allocRes : AllocatableResourcesResponse} {nodeName : String} {args : MonitorArgs}
    {topo : MachineTopology} {rm : ResourceMonitor}
    (hnew : newResourceMonitor ord (.ok memCounters) (.ok allocRes) nodeName args topo = .ok (.ok rm))
    (evs : List (NodeUpdate R)) :
    ((∃ ev ∈ evs, ev.Misplaced nodeName topo) → evs.foldlM resUpdated rm = .error .nilMapWrite)
      ∧ ((∀ ev ∈ evs, ¬ ev.Misplaced nodeName topo) →
          ∃ rm' restarted, evs.foldlM resUpdated rm = .ok rm'
            ∧ newResourceMonitor ord (.ok (Readings.after nodeName ⟨memCounters, allocRes⟩ evs).memCounters)
                (.ok (Readings.after nodeName ⟨memCounters, allocRes⟩ evs).allocRes) nodeName args topo
              = .ok (.ok restarted)
            ∧ ∀ pfp sord excludeList resp,
                scan pfp sord rm' excludeList resp = scan pfp sord restarted excludeList resp) := by
  have hids := contiguousIDs_of_newResourceMonitor hnew
  obtain ⟨hpanics, hstores⟩ := foldlM_resUpdated hids (stores_newResourceMonitor hnew) evs
  refine ⟨hpanics, fun hall => ?_⟩
  obtain ⟨rm', hok, hlast⟩ := hstores hall
  have hrestarted := newResourceMonitor_answers ord hids
    (Readings.after nodeName ⟨memCounters, allocRes⟩ evs).memCounters
    (Readings.after nodeName ⟨memCounters, allocRes⟩ evs).allocRes nodeName args
  refine ⟨rm', _, hok, hrestarted.trans (if_pos hlast.onTopology), fun pfp sord excludeList resp => ?_⟩
  rcases hlast.figures with rfl | rfl
  · exact scan_withHardware ..
  · rfl

end Runs

/-- The kubelet's answer on a machine with two CPUs and a device. -/
def nicAllocatable : AllocatableResourcesResponse :=
  ⟨[⟨"vendor.com/nic", ["nic0"], some ⟨[⟨0⟩]⟩⟩], [0, 1], []⟩

/-- A node update on which the kubelet does not answer. -/
def timeoutUpdate : NodeUpdate Nat :=
  workerUpdate (.ok ((∅ : MemoryResourceCounters).insert resourceMemory
    ((∅ : GoMap Int Int).insert 0 2048))) (.error "timeout")

theorem newResourceMonitor_nic :
    newResourceMonitor .sorted (.ok ∅) (.ok nicAllocatable) "worker" ⟨"", false, ""⟩ oneNodeTopology
      = .ok (.ok (refreshed .sorted ∅ nicAllocatable
          (initialMonitor "worker" ⟨"", false, ""⟩ oneNodeTopology))) :=
  (newResourceMonitor_answers .sorted (by decide) ∅ nicAllocatable "worker" ⟨"", false, ""⟩).trans
    (if_pos (by decide))

theorem timeoutUpdate_placed : ∀ ev ∈ [timeoutUpdate], ¬ ev.Misplaced "worker" oneNodeTopology := by
  intro ev hev
  cases List.mem_singleton.mp hev
  rintro ⟨-, _, _, -, halloc, -⟩
  cases halloc

/-- The refresh stores the new sysfs counters and loses the capacity of the device.  The
scans are those of a monitor started with the new counters and the old answer. -/
theorem monitor_run_restarts_device_lost :
    ∃ rm rm' restarted,
      newResourceMonitor .sorted (.ok ∅) (.ok nicAllocatable) "worker" ⟨"", false, ""⟩ oneNodeTopology
        = .ok (.ok rm)
      ∧ [timeoutUpdate].foldlM resUpdated rm = .ok rm'
      ∧ newResourceMonitor .sorted timeoutUpdate.mem (.ok nicAllocatable) "worker" ⟨"", false, ""⟩
          oneNodeTopology = .ok (.ok restarted)
      ∧ ∀ pfp sord excludeList resp,
          scan pfp sord rm' excludeList resp = scan pfp sord restarted excludeList resp := by
  obtain ⟨rm', restarted, hrun, hrestarted, hscans⟩ :=
    (monitor_run_restarts newResourceMonitor_nic [timeoutUpdate]).2 timeoutUpdate_placed
  exact ⟨_, rm', restarted, newResourceMonitor_nic, hrun, hrestarted, hscans⟩

end TopologyExporter
