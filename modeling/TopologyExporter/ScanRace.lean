/-
TopologyExporter/ScanRace.lean

A scan that runs while the node resources are refreshed.

The informer calls `resUpdated` on a goroutine of its own, and the monitor has no
lock.  A refresh stores its figures one assignment after the other; a scan reads the
fields again for each zone, and each capacity when it needs it.  So a read may see the
figures of any moment, in the one order of the moments (memory is taken to be
sequentially consistent).

The capacities of the devices are written into a map that is in use.  Such a write takes
a while, and a read of the same map meanwhile ends the process: the runtime stops a
goroutine that it finds there, and what the goroutine would read otherwise is not defined
(`Meets`).  A capacity map is looked up before it is read.  If it has been replaced in
between it is still read, and nobody writes to it any more.

Two results, for any number of refreshes at any moments of the scan, which say when the scan
returns and what it shows then.  Every zone shows names, allocatable and available figures of
one single moment, and each capacity is one of a moment while the zone was read
(`racing_zone`).  Refreshes that find what is known already are not seen at all, although in
between they take back the capacities of all devices (`racing_scan_unchanged`).

The steps of the refresh are those of `updateNodeResources` (`foldl_steps`).
-/
import TopologyExporter.MonitorRuns

namespace TopologyExporter

open GoMap GoPanic

/-! ### The steps of a refresh -/

/-- A step of a refresh.  The assignment of a map is one step; the write of a capacity into a
map that is in use is two. -/
inductive RefreshStep
  | storeCapacity (nodeCapacity : PerNUMAResourceCounter)
  | storeAllocatable (nodeAllocatable : PerNUMAResourceCounter)
  | beginDevice (w : CapacityWrite)
  | storeDevice (w : CapacityWrite)

/-- The figures in memory: the capacity maps that have been replaced, the two maps of the
monitor, and the node whose capacities are being written. -/
structure Figures where
  replaced : List PerNUMAResourceCounter
  nodeCapacity : PerNUMAResourceCounter
  nodeAllocatable : PerNUMAResourceCounter
  writing : Option Int

namespace Figures

/-- A step is made. -/
def step (m : Figures) : RefreshStep → Figures
  | .storeCapacity nodeCapacity =>
      ⟨m.replaced ++ [m.nodeCapacity], nodeCapacity, m.nodeAllocatable, m.writing⟩
  | .storeAllocatable nodeAllocatable => { m with nodeAllocatable := nodeAllocatable }
  | .beginDevice w => { m with writing := some w.numaId }
  | .storeDevice w => { m with nodeCapacity := writeCapacity m.nodeCapacity w, writing := none }

/-- The capacity map with a number, in the order in which they were stored. -/
def capacityMap (m : Figures) (i : Nat) : PerNUMAResourceCounter :=
  (m.replaced ++ [m.nodeCapacity]).getD i ∅

theorem capacityMap_current (m : Figures) : m.capacityMap m.replaced.length = m.nodeCapacity := by
  simp [capacityMap]

theorem length_replaced_step (m : Figures) (st : RefreshStep) :
    m.replaced.length ≤ (m.step st).replaced.length := by
  cases st with
  | storeCapacity nodeCapacity => simp [step]
  | storeAllocatable nodeAllocatable => exact le_rfl
  | beginDevice w => exact le_rfl
  | storeDevice w => exact le_rfl

/-- A step leaves all maps alone but the one in use. -/
theorem capacityMap_step (m : Figures) (st : RefreshStep) {i : Nat} (hi : i ≤ m.replaced.length) :
    (m.step st).capacityMap i = m.capacityMap i ∨ i = (m.step st).replaced.length := by
  cases st with
  | storeCapacity nodeCapacity =>
      left
      have hlt : i < (m.replaced ++ [m.nodeCapacity]).length := by
        rw [List.length_append, List.length_singleton]
        omega
      simp only [capacityMap, step, List.getD_eq_getElem?_getD, List.getElem?_append_left hlt]
  | storeAllocatable nodeAllocatable => exact .inl rfl
  | beginDevice w => exact .inl rfl
  | storeDevice w =>
      rcases hi.lt_or_eq with hlt | heq
      · left
        simp only [capacityMap, step, List.getD_eq_getElem?_getD, List.getElem?_append_left hlt]
      · exact .inr heq

end Figures

section Race

variable {R : Type} [DecidableEq R]

/-- The writes of `updateDevicesCapacity`. -/
def deviceSteps (ws : List CapacityWrite) : List RefreshStep :=
  ws.flatMap fun w => [.beginDevice w, .storeDevice w]

/-- The steps of `updateNodeResources`.  Without the sysfs counters there is none;
without the answer of the kubelet only the capacities are stored. -/
def refreshSteps (ord : RefreshOrders) (rm : ResourceMonitor)
    (mem : Except String MemoryResourceCounters)
    (alloc : Except String AllocatableResourcesResponse) : List RefreshStep :=
  match mem, alloc with
  | .error _, _ => []
  | .ok memCounters, .error _ => [.storeCapacity (hardwareCapacity rm.topo memCounters)]
  | .ok memCounters, .ok allocRes =>
      let nodeAllocatable :=
        containerDevicesToPerNUMAResourceCounters (allocatableDevices ord allocRes rm)
      .storeCapacity (hardwareCapacity rm.topo memCounters) :: .storeAllocatable nodeAllocatable
        :: deviceSteps (capacityWrites ord nodeAllocatable)

/-- The steps of `resUpdated`. -/
def NodeUpdate.steps (rm : ResourceMonitor) (ev : NodeUpdate R) : List RefreshStep :=
  if ev.refreshes rm.nodeName then refreshSteps ev.ord rm ev.mem ev.alloc else []

/-- The figures of a monitor. -/
def ResourceMonitor.figures (rm : ResourceMonitor) : Figures :=
  ⟨[], rm.nodeCapacity, rm.nodeAllocatable, none⟩

/-- The monitor with these figures. -/
def ResourceMonitor.withFigures (rm : ResourceMonitor) (m : Figures) : ResourceMonitor :=
  { rm with nodeCapacity := m.nodeCapacity, nodeAllocatable := m.nodeAllocatable }

/-- The figures after the first `t` steps of some node updates. -/
def figuresAt (rm : ResourceMonitor) (evs : List (NodeUpdate R)) (t : Nat) : Figures :=
  ((evs.flatMap (NodeUpdate.steps rm)).take t).foldl Figures.step rm.figures

theorem foldl_deviceSteps (ws : List CapacityWrite) (replaced : List PerNUMAResourceCounter)
    (nodeCapacity nodeAllocatable : PerNUMAResourceCounter) :
    (deviceSteps ws).foldl Figures.step ⟨replaced, nodeCapacity, nodeAllocatable, none⟩
      = ⟨replaced, ws.foldl writeCapacity nodeCapacity, nodeAllocatable, none⟩ := by
  induction ws generalizing nodeCapacity with
  | nil => rfl
  | cons w ws ih => exact ih _

/-- What a refresh with both answers leaves, if it returns. -/
theorem updateNodeResources_out {ord : RefreshOrders} {memCounters : MemoryResourceCounters}
    {allocRes : AllocatableResourcesResponse} {rm : ResourceMonitor}
    {out : ResourceMonitor × Option String}
    (h : updateNodeResources ord (.ok memCounters) (.ok allocRes) rm = .ok out) :
    out.1 = refreshed ord memCounters allocRes rm := by
  have hpositions := positions_of_updateNodeResources ord (.ok allocRes) memCounters h
  rw [updateNodeResources, updateNodeCapacity_ok hpositions] at h
  change updateDevicesCapacity ord (withHardware ord memCounters allocRes rm) >>= _ = _ at h
  by_cases hwrites : ∀ w ∈ capacityWrites ord (withHardware ord memCounters allocRes rm).nodeAllocatable,
      w.numaId ∈ (withHardware ord memCounters allocRes rm).nodeCapacity
  · rw [updateDevicesCapacity_ok hwrites] at h
    obtain rfl := Except.ok.inj h
    rfl
  · rw [updateDevicesCapacity_panics hwrites] at h
    cases h

/-- **The steps of a node update** lead from the monitor before to the one after. -/
theorem foldl_steps {rm rm' : ResourceMonitor} {ev : NodeUpdate R} (h : resUpdated rm ev = .ok rm')
    (replaced : List PerNUMAResourceCounter) :
    ∃ replaced', (ev.steps rm).foldl Figures.step ⟨replaced, rm.nodeCapacity, rm.nodeAllocatable, none⟩
        = ⟨replaced', rm'.nodeCapacity, rm'.nodeAllocatable, none⟩
      ∧ rm' = rm.withFigures ⟨replaced', rm'.nodeCapacity, rm'.nodeAllocatable, none⟩ := by
  rw [resUpdated_eq ev.ord] at h
  rw [NodeUpdate.steps]
  split_ifs at h ⊢ with hrefreshes
  · rcases hmem : ev.mem with err | memCounters
    · rw [hmem] at h
      obtain rfl := Except.ok.inj h
      exact ⟨replaced, rfl, rfl⟩
    rcases hout : updateNodeResources ev.ord ev.mem ev.alloc rm with p | out
    · rw [hout] at h
      cases h
    rw [hout] at h
    obtain rfl := Except.ok.inj h
    rw [hmem] at hout
    have hpositions := positions_of_updateNodeResources ev.ord ev.alloc memCounters hout
    rcases halloc : ev.alloc with err | allocRes
    · rw [halloc, updateNodeResources_alloc_error ev.ord memCounters err hpositions] at hout
      obtain rfl := Except.ok.inj hout
      exact ⟨replaced ++ [rm.nodeCapacity], rfl, rfl⟩
    · rw [halloc] at hout
      rw [updateNodeResources_out hout]
      refine ⟨replaced ++ [rm.nodeCapacity], ?_, rfl⟩
      exact foldl_deviceSteps ..
  · obtain rfl := Except.ok.inj h
    exact ⟨replaced, rfl, rfl⟩

theorem foldl_flatMap_steps {rm rm' : ResourceMonitor} {evs : List (NodeUpdate R)}
    (h : evs.foldlM resUpdated rm = .ok rm') (replaced : List PerNUMAResourceCounter) :
    ∃ replaced', (evs.flatMap (NodeUpdate.steps rm)).foldl Figures.step
          ⟨replaced, rm.nodeCapacity, rm.nodeAllocatable, none⟩
        = ⟨replaced', rm'.nodeCapacity, rm'.nodeAllocatable, none⟩
      ∧ rm' = rm.withFigures ⟨replaced', rm'.nodeCapacity, rm'.nodeAllocatable, none⟩ := by
  induction evs generalizing rm replaced with
  | nil =>
      obtain rfl := Except.ok.inj h
      exact ⟨replaced, rfl, rfl⟩
  | cons ev evs ih =>
      rw [List.foldlM_cons] at h
      rcases hev : resUpdated rm ev with p | rm₁
      · rw [hev] at h
        cases h
      rw [hev] at h
      obtain ⟨replaced₁, hsteps, hrm₁⟩ := foldl_steps hev replaced
      obtain ⟨replaced', hrest, hrm'⟩ := ih h replaced₁
      -- a node update does not change what its steps depend on
      have hsame : NodeUpdate.steps rm₁ = NodeUpdate.steps (R := R) rm := by
        rw [hrm₁]
        rfl
      refine ⟨replaced', ?_, ?_⟩
      · rw [List.flatMap_cons, List.foldl_append, hsteps, ← hsame, hrest]
      · rw [hrm', hrm₁]
        rfl

/-- The figures after all steps are those of the monitor after the node updates. -/
theorem figuresAt_end {rm rm' : ResourceMonitor} {evs : List (NodeUpdate R)}
    (h : evs.foldlM resUpdated rm = .ok rm') {t : Nat}
    (ht : (evs.flatMap (NodeUpdate.steps rm)).length ≤ t) :
    rm.withFigures (figuresAt rm evs t) = rm' := by
  obtain ⟨replaced', hsteps, hrm'⟩ := foldl_flatMap_steps h []
  rw [figuresAt, List.take_of_length_le ht, ResourceMonitor.figures, hsteps]
  exact hrm'.symm

/-- One step more, or none is left. -/
theorem figuresAt_succ (rm : ResourceMonitor) (evs : List (NodeUpdate R)) (t : Nat) :
    figuresAt rm evs (t + 1) = figuresAt rm evs t
      ∨ ∃ st ∈ evs.flatMap (NodeUpdate.steps rm),
          figuresAt rm evs (t + 1) = (figuresAt rm evs t).step st := by
  rw [figuresAt, List.take_add_one, List.foldl_append]
  cases hget : (evs.flatMap (NodeUpdate.steps rm))[t]? with
  | none => exact .inl rfl
  | some st => exact .inr ⟨st, List.mem_of_getElem? hget, rfl⟩

theorem length_replaced_mono (rm : ResourceMonitor) (evs : List (NodeUpdate R)) {s t : Nat}
    (hst : s ≤ t) : (figuresAt rm evs s).replaced.length ≤ (figuresAt rm evs t).replaced.length := by
  induction t, hst using Nat.le_induction with
  | base => exact le_rfl
  | succ t hst ih =>
      rcases figuresAt_succ rm evs t with hsame | ⟨st, -, hstep⟩
      · rwa [hsame]
      · rw [hstep]
        exact ih.trans (Figures.length_replaced_step _ st)

/-- **A capacity map that was looked up** is, whenever it is read, what the map of the monitor
was at some moment since then. -/
theorem exists_moment (rm : ResourceMonitor) (evs : List (NodeUpdate R)) {s t : Nat} (hst : s ≤ t) :
    ∃ u, s ≤ u ∧ u ≤ t
      ∧ (figuresAt rm evs t).capacityMap (figuresAt rm evs s).replaced.length
        = (figuresAt rm evs u).nodeCapacity := by
  induction t, hst using Nat.le_induction with
  | base => exact ⟨s, le_rfl, le_rfl, Figures.capacityMap_current _⟩
  | succ t hst ih =>
      obtain ⟨u, hsu, hut, hmap⟩ := ih
      rcases figuresAt_succ rm evs t with hsame | ⟨st, -, hstep⟩
      · exact ⟨u, hsu, hut.trans (Nat.le_succ t), by rw [hsame, hmap]⟩
      · rcases Figures.capacityMap_step (figuresAt rm evs t) st (length_replaced_mono rm evs hst) with
          hold | hcurrent
        · exact ⟨u, hsu, hut.trans (Nat.le_succ t), by rw [hstep, hold, hmap]⟩
        · -- the map is still the one in use
          refine ⟨t + 1, hst.trans (Nat.le_succ t), le_rfl, ?_⟩
          rw [hstep, hcurrent, Figures.capacityMap_current]

/-! ### The scan -/

/-- The moments at which a scan makes its reads: of the capacity map of a zone, of its
allocatable figures, and of the capacity of each of its resources. -/
structure ScanClock where
  capacity : Nat → Nat
  allocatable : Nat → Nat
  figure : Nat → String → Nat
  looked_up : ∀ nodeID resName, capacity nodeID ≤ figure nodeID resName

/-- What ends a process whose goroutines meet on a map. -/
inductive Fatal
  | concurrentMapReadAndMapWrite
  deriving DecidableEq, Repr

/-- The read of a capacity falls into a write to the same map. -/
def Meets (history : Nat → Figures) (clock : ScanClock) (nodeID : Nat) (resName : String) : Prop :=
  let seen := history (clock.capacity nodeID)
  let now := history (clock.figure nodeID resName)
  (nodeID : Int) ∈ seen.nodeCapacity ∧ now.replaced.length = seen.replaced.length
    ∧ now.writing = some (nodeID : Int)

instance (history : Nat → Figures) (clock : ScanClock) (nodeID : Nat) (resName : String) :
    Decidable (Meets history clock nodeID resName) :=
  inferInstanceAs (Decidable (_ ∧ _ ∧ _))

/-- The capacities that a zone reads its figure for one resource from. -/
def racingCapacity (history : Nat → Figures) (clock : ScanClock) (nodeID : Nat) (resName : String) :
    Except Fatal ResourceCounter :=
  let seen := history (clock.capacity nodeID)
  if Meets history clock nodeID resName then .error .concurrentMapReadAndMapWrite
  else if (nodeID : Int) ∈ seen.nodeCapacity then
    .ok (getD ((history (clock.figure nodeID resName)).capacityMap seen.replaced.length) nodeID ∅)
  else .ok ∅

/-- The counters that a zone lists, without the resources that are excluded. -/
def racingCounters (ord : RangeOrder String Int) (rm : ResourceMonitor) (history : Nat → Figures)
    (clock : ScanClock) (excludeSet : GoMap String (Finset String)) (nodeID : Nat) :
    List (String × Int) :=
  (ord.range (zoneCounters (rm.withFigures (history (clock.allocatable nodeID))) nodeID)).filter
    fun e => !inExcludeSet excludeSet e.1 rm.nodeName

/-- The body of the zone loop, with each read at its own moment. -/
def racingZone (ord : RangeOrder String Int) (rm : ResourceMonitor) (history : Nat → Figures)
    (clock : ScanClock) (excludeSet : GoMap String (Finset String))
    (allocated : PerNUMAResourceCounter) (nodeID : Nat) : Except Fatal Zone := do
  let resources ← (racingCounters ord rm history clock excludeSet nodeID).mapM fun (resName, resAlloc) => do
    let resCapCounters ← racingCapacity history clock nodeID resName
    pure (scanResource resCapCounters allocated nodeID resName resAlloc)
  pure
    { name := makeZoneName nodeID
      type := "Node"
      costs := match makeCostsPerNumaNode rm.topo.nodes nodeID with
        | .ok costs => costs
        | .error _ => []
      resources := resources }

/-- The zones of a scan during some node updates. -/
def racingZones (ord : ScanOrders) (rm : ResourceMonitor) (evs : List (NodeUpdate R))
    (clock : ScanClock) (excludeList : ResourceExclude) (podRes : List PodResources) :
    Except Fatal (List Zone) :=
  let allDevs := getAllContainerDevices ord.cpus podRes rm.args.namespace rm.coreIDToNodeIDMap
  let allocated := containerDevicesToPerNUMAResourceCounters allDevs
  let excludeSet := toMapSet ord.excludes excludeList
  (List.range rm.topo.nodes.length).mapM fun nodeID =>
    racingZone (ord.resources nodeID) rm (figuresAt rm evs) clock excludeSet allocated nodeID

/-! ### Zones of mixed moments -/

/-- A zone but for its capacities. -/
def Zone.withoutCapacities (zone : Zone) : Zone :=
  { zone with resources := zone.resources.map fun info => { info with capacity := 0 } }

/-- No read of the scan falls into a write to the same map. -/
def NoneMeets (rm : ResourceMonitor) (evs : List (NodeUpdate R)) (clock : ScanClock)
    (excludeList : ResourceExclude) : Prop :=
  ∀ nodeID < rm.topo.nodes.length,
    ∀ resName ∈ zoneCounters (rm.withFigures (figuresAt rm evs (clock.allocatable nodeID))) nodeID,
      ¬ Excluded excludeList rm.nodeName resName →
        ¬ Meets (figuresAt rm evs) clock nodeID resName

section Zones

variable {rm : ResourceMonitor} {evs : List (NodeUpdate R)} {clock : ScanClock}
variable {excludeList : ResourceExclude} {podRes : List PodResources}

theorem exists_moment_of_racingCapacity {nodeID : Nat} {resName : String}
    {resCapCounters : ResourceCounter}
    (h : racingCapacity (figuresAt rm evs) clock nodeID resName = .ok resCapCounters) :
    ∃ u, clock.capacity nodeID ≤ u ∧ u ≤ clock.figure nodeID resName
      ∧ resCapCounters = getD (figuresAt rm evs u).nodeCapacity nodeID ∅ := by
  rw [racingCapacity] at h
  split_ifs at h with hmeets hmem
  · obtain rfl := Except.ok.inj h
    obtain ⟨u, hsu, hut, hmap⟩ := exists_moment rm evs (clock.looked_up nodeID resName)
    exact ⟨u, hsu, hut, by rw [hmap]⟩
  · obtain rfl := Except.ok.inj h
    refine ⟨clock.capacity nodeID, le_rfl, clock.looked_up nodeID resName, ?_⟩
    rw [getD, Finmap.lookup_eq_none.mpr hmem, Option.getD_none]

theorem racingCapacity_returns_iff {history : Nat → Figures} {nodeID : Nat} {resName : String} :
    (∃ resCapCounters, racingCapacity history clock nodeID resName = .ok resCapCounters)
      ↔ ¬ Meets history clock nodeID resName := by
  rw [racingCapacity]
  split_ifs with hmeets hmem
  · refine iff_of_false ?_ (not_not.mpr hmeets)
    rintro ⟨resCapCounters, h⟩
    cases h
  · exact iff_of_true ⟨_, rfl⟩ hmeets
  · exact iff_of_true ⟨_, rfl⟩ hmeets

theorem mem_racingCounters_iff {ord : ScanOrders} {nodeID : Nat} {e : String × Int} :
    e ∈ racingCounters (ord.resources nodeID) rm (figuresAt rm evs) clock
        (toMapSet ord.excludes excludeList) nodeID
      ↔ (zoneCounters (rm.withFigures (figuresAt rm evs (clock.allocatable nodeID))) nodeID).lookup e.1
          = some e.2 ∧ ¬ Excluded excludeList rm.nodeName e.1 := by
  rw [racingCounters, List.mem_filter, ((ord.resources nodeID).enumerates _).mem_iff e.1 e.2,
    Bool.not_eq_true', ← Bool.not_eq_true, inExcludeSet_toMapSet]

/-- The entries of an undisturbed scan, one for each counter that is listed. -/
theorem resources_scanZone (ord : RangeOrder String Int) (rm : ResourceMonitor)
    (excludeSet : GoMap String (Finset String)) (allocated : PerNUMAResourceCounter) (nodeID : Nat) :
    (scanZone ord rm excludeSet allocated nodeID).resources
      = ((ord.range (zoneCounters rm nodeID)).filter
          fun e => !inExcludeSet excludeSet e.1 rm.nodeName).map fun e =>
            scanResource (getD rm.nodeCapacity nodeID ∅) allocated nodeID e.1 e.2 := by
  rw [← List.filterMap_eq_map', List.filterMap_filter]
  refine List.filterMap_congr fun e _ => ?_
  show (if inExcludeSet excludeSet e.1 rm.nodeName = true then none else _) = _
  cases inExcludeSet excludeSet e.1 rm.nodeName <;> rfl

theorem racingZone_returns_iff {ord : RangeOrder String Int} {history : Nat → Figures}
    {excludeSet : GoMap String (Finset String)} {allocated : PerNUMAResourceCounter} {nodeID : Nat} :
    (∃ zone, racingZone ord rm history clock excludeSet allocated nodeID = .ok zone)
      ↔ ∀ e ∈ racingCounters ord rm history clock excludeSet nodeID,
          ¬ Meets history clock nodeID e.1 := by
  have hentries : (∃ zone, racingZone ord rm history clock excludeSet allocated nodeID = .ok zone)
      ↔ ∃ resources, ((racingCounters ord rm history clock excludeSet nodeID).mapM fun e => do
          let resCapCounters ← racingCapacity history clock nodeID e.1
          pure (scanResource resCapCounters allocated nodeID e.1 e.2)) = .ok resources := by
    constructor
    · rintro ⟨zone, hzone⟩
      obtain ⟨resources, hresources, -⟩ := bind_eq_ok_iff.mp hzone
      exact ⟨resources, hresources⟩
    · rintro ⟨resources, hresources⟩
      exact ⟨_, bind_eq_ok_iff.mpr ⟨resources, hresources, rfl⟩⟩
  rw [hentries, exists_mapM_ok_iff]
  refine forall₂_congr fun e _ => ?_
  rw [← racingCapacity_returns_iff]
  constructor
  · rintro ⟨info, hinfo⟩
    obtain ⟨resCapCounters, hcapacity, -⟩ := bind_eq_ok_iff.mp hinfo
    exact ⟨resCapCounters, hcapacity⟩
  · rintro ⟨resCapCounters, hcapacity⟩
    exact ⟨_, bind_eq_ok_iff.mpr ⟨resCapCounters, hcapacity, rfl⟩⟩

/-- **A scan returns iff none of its reads meets a write.** -/
theorem racingZones_returns_iff {ord : ScanOrders} :
    (∃ zones, racingZones ord rm evs clock excludeList podRes = .ok zones)
      ↔ NoneMeets rm evs clock excludeList := by
  rw [racingZones, exists_mapM_ok_iff, NoneMeets]
  refine forall_congr' fun nodeID => ?_
  rw [List.mem_range, racingZone_returns_iff]
  refine forall_congr' fun _ => ⟨fun h resName hmem hlisted => ?_, fun h e he => ?_⟩
  · obtain ⟨resAlloc, hlookup⟩ := Finmap.mem_iff.mp hmem
    exact h (resName, resAlloc) (mem_racingCounters_iff.mpr ⟨hlookup, hlisted⟩)
  · obtain ⟨hlookup, hlisted⟩ := mem_racingCounters_iff.mp he
    exact h e.1 (Finmap.mem_of_lookup_eq_some hlookup) hlisted

/-- A zone of a scan that returns, entry by entry. -/
theorem racingZone_inv {ord : RangeOrder String Int} {excludeSet : GoMap String (Finset String)}
    {allocated : PerNUMAResourceCounter} {nodeID : Nat} {zone : Zone}
    (hzone : racingZone ord rm (figuresAt rm evs) clock excludeSet allocated nodeID = .ok zone) :
    zone.withoutCapacities
        = (scanZone ord (rm.withFigures (figuresAt rm evs (clock.allocatable nodeID))) excludeSet
            allocated nodeID).withoutCapacities
      ∧ ∀ info ∈ zone.resources, ∃ u, clock.capacity nodeID ≤ u ∧ u ≤ clock.figure nodeID info.name
        ∧ info.capacity = (scanResource (getD (figuresAt rm evs u).nodeCapacity nodeID ∅) ∅ nodeID
            info.name info.allocatable).capacity := by
  obtain ⟨resources, hresources, hpure⟩ := bind_eq_ok_iff.mp hzone
  obtain rfl := Except.ok.inj hpure
  constructor
  · rw [Zone.withoutCapacities, Zone.withoutCapacities, resources_scanZone, List.map_map]
    refine congrArg (fun entries => Zone.mk _ _ _ entries) (map_of_mapM hresources fun e _ info hinfo => ?_)
    -- of the capacities, an entry shows its own capacity only
    obtain ⟨resCapCounters, -, hentry⟩ := bind_eq_ok_iff.mp hinfo
    obtain rfl := Except.ok.inj hentry
    rfl
  · intro info hinfo
    have hmem := List.mem_map_of_mem (f := Except.ok (ε := Fatal)) hinfo
    rw [← mapM_eq_ok_iff.mp hresources] at hmem
    obtain ⟨e, -, hentry⟩ := List.mem_map.mp hmem
    obtain ⟨resCapCounters, hcapacity, hentry⟩ := bind_eq_ok_iff.mp hentry
    obtain rfl := Except.ok.inj hentry
    obtain ⟨u, hfrom, hto, rfl⟩ := exists_moment_of_racingCapacity hcapacity
    exact ⟨u, hfrom, hto, rfl⟩

end Zones

/-- The capacities are looked up before a refresh and read after its first assignment. -/
def midRefresh : ScanClock := ⟨fun _ => 0, fun _ => 1, fun _ _ => 1, fun _ _ => Nat.zero_le 1⟩

/-- The capacities are looked up after the first assignment of a refresh and read while that of a
device is written. -/
def midWrite : ScanClock := ⟨fun _ => 1, fun _ => 2, fun _ _ => 3, fun _ _ => by decide⟩

/-- A refresh that finds a device no more. -/
def nicLostUpdate : NodeUpdate Nat := workerUpdate (.ok ∅) (.ok ⟨[], [0, 1], []⟩)

/-- A refresh that finds a machine as it was. -/
def sameUpdate : NodeUpdate Nat := workerUpdate (.ok ∅) (.ok nicAllocatable)

/-- The monitor of a machine with two CPUs and a device. -/
def nicMonitor : ResourceMonitor :=
  refreshed .sorted ∅ nicAllocatable (initialMonitor "worker" ⟨"", false, ""⟩ oneNodeTopology)

theorem noneMeets_midRefresh : NoneMeets nicMonitor [sameUpdate] midRefresh ∅ :=
  racingZones_returns_iff.mp ⟨_, (rfl : racingZones .sorted _ _ _ _ [] = _)⟩

theorem not_noneMeets_midWrite : ¬ NoneMeets nicMonitor [sameUpdate] midWrite ∅ := by
  intro hnone
  exact hnone 0 (by decide) "vendor.com/nic" (by decide) (not_excluded_empty _ _) (by decide)

/-- The refresh reads what was read last, as far as it gets. -/
def NodeUpdate.Repeats (nodeName : String) (last : Readings) (ev : NodeUpdate R) : Prop :=
  ev.refreshes nodeName = true →
    (∀ memCounters, ev.mem = .ok memCounters → memCounters = last.memCounters)
      ∧ ∀ allocRes, ev.alloc = .ok allocRes → allocRes = last.allocRes

section Unchanged

variable {ord : RefreshOrders} {rm₀ rm : ResourceMonitor} {last : Readings}
variable {evs : List (NodeUpdate R)}

/-- The figures are those of the readings, with or without the capacity of each device. -/
structure Keeps (ord : RefreshOrders) (rm₀ : ResourceMonitor) (last : Readings) (m : Figures) :
    Prop where
  allocatable : m.nodeAllocatable
    = (withHardware ord last.memCounters last.allocRes rm₀).nodeAllocatable
  capacity : ∀ nodeID < rm₀.topo.nodes.length, ∀ r,
    FromReadings ord last.memCounters last.allocRes rm₀ m.nodeCapacity nodeID r

theorem fromReadings_hardware {nodeID : Nat} (hlt : nodeID < rm₀.topo.nodes.length) (r : String) :
    FromReadings ord last.memCounters last.allocRes rm₀
      (hardwareCapacity rm₀.topo last.memCounters) nodeID r := by
  have hlookup := lookup_withHardware ord last.memCounters last.allocRes rm₀ hlt r
  rw [lookup_getD_empty] at hlookup
  exact .inl hlookup

theorem Stores.keeps (h : Stores ord rm₀ last rm) : Keeps ord rm₀ last rm.figures := by
  rcases h.figures with rfl | rfl
  · exact ⟨rfl, fun nodeID hlt r => fromReadings_hardware hlt r⟩
  · exact ⟨rfl, fun nodeID hlt r => fromReadings_refreshed hlt r⟩

/-- The allocatable figures of an answer do not depend on the order in which they are gathered,
nor on the figures stored before. -/
theorem Stores.counters_eq (h : Stores ord rm₀ last rm) (ord' : RefreshOrders) :
    containerDevicesToPerNUMAResourceCounters (allocatableDevices ord' last.allocRes rm)
      = (withHardware ord last.memCounters last.allocRes rm₀).nodeAllocatable := by
  have hmap : rm.coreIDToNodeIDMap = rm₀.coreIDToNodeIDMap := by
    rcases h.figures with rfl | rfl <;> rfl
  rw [allocatableDevices, hmap]
  exact counters_normalize_orders ..

/-- The steps of a refresh that repeats the readings. -/
theorem mem_steps_repeats (h : Stores ord rm₀ last rm) {ev : NodeUpdate R}
    (hev : ev.Repeats rm₀.nodeName last) {st : RefreshStep} (hst : st ∈ ev.steps rm) :
    let nodeAllocatable := (withHardware ord last.memCounters last.allocRes rm₀).nodeAllocatable
    st = .storeCapacity (hardwareCapacity rm₀.topo last.memCounters)
      ∨ st = .storeAllocatable nodeAllocatable
      ∨ ∃ w, (st = .beginDevice w ∨ st = .storeDevice w) ∧ isNativeResource w.resName = false
        ∧ cell nodeAllocatable w.numaId w.resName = some w.quan := by
  rw [NodeUpdate.steps, h.nodeName] at hst
  split_ifs at hst with hrefreshes
  · obtain ⟨hmem, halloc⟩ := hev hrefreshes
    rcases hmem' : ev.mem with err | memCounters
    · rw [hmem'] at hst
      exact absurd hst List.not_mem_nil
    rcases halloc' : ev.alloc with err | allocRes
    · rw [hmem', halloc', hmem memCounters hmem'] at hst
      rw [← h.topo]
      exact .inl (List.mem_singleton.mp hst)
    · rw [hmem', halloc', hmem memCounters hmem', halloc allocRes halloc'] at hst
      simp only [refreshSteps, h.counters_eq, h.topo, List.mem_cons] at hst
      rcases hst with rfl | rfl | hst
      · exact .inl rfl
      · exact .inr (.inl rfl)
      · obtain ⟨w, hw, hst⟩ := List.mem_flatMap.mp hst
        simp only [List.mem_cons, List.not_mem_nil, or_false] at hst
        exact .inr (.inr ⟨w, hst, (mem_capacityWrites _ _ w).mp hw⟩)
  · exact absurd hst List.not_mem_nil

/-- **One step** of a refresh that repeats the readings. -/
theorem Keeps.step (h : Stores ord rm₀ last rm) {m : Figures} (hm : Keeps ord rm₀ last m)
    {ev : NodeUpdate R} (hev : ev.Repeats rm₀.nodeName last) {st : RefreshStep}
    (hst : st ∈ ev.steps rm) : Keeps ord rm₀ last (m.step st) := by
  rcases mem_steps_repeats h hev hst with rfl | rfl | ⟨w, rfl | rfl, hdevice, hquan⟩
  · exact ⟨hm.allocatable, fun nodeID hlt r => fromReadings_hardware hlt r⟩
  · exact ⟨rfl, hm.capacity⟩
  · exact ⟨hm.allocatable, hm.capacity⟩
  · refine ⟨hm.allocatable, fun nodeID hlt r => ?_⟩
    have hcell := cell_writeCapacity m.nodeCapacity w nodeID r
    by_cases hw : (nodeID : Int) = w.numaId ∧ r = w.resName
    · rw [if_pos hw] at hcell
      obtain ⟨hnode, rfl⟩ := hw
      rw [← hnode] at hquan
      exact .inr ⟨hdevice, Option.isSome_of_mem hquan, hcell.trans hquan.symm⟩
    · rw [if_neg hw] at hcell
      have hold := hm.capacity nodeID hlt r
      rw [FromReadings] at hold ⊢
      rwa [← hcell] at hold

theorem Keeps.figuresAt (h : Stores ord rm₀ last rm)
    (hevs : ∀ ev ∈ evs, ev.Repeats rm₀.nodeName last) (t : Nat) :
    Keeps ord rm₀ last (figuresAt rm evs t) := by
  induction t with
  | zero => exact h.keeps
  | succ t ih =>
      rcases figuresAt_succ rm evs t with hsame | ⟨st, hst, hstep⟩
      · rwa [hsame]
      · obtain ⟨ev, hev, hst⟩ := List.mem_flatMap.mp hst
        rw [hstep]
        exact ih.step h (hevs ev hev) hst

/-- The zones are those of the monitor before the refreshes. -/
theorem racingZones_of_repeats (h : Stores ord rm₀ last rm)
    (hevs : ∀ ev ∈ evs, ev.Repeats rm₀.nodeName last) {sord : ScanOrders} {clock : ScanClock}
    {excludeList : ResourceExclude} {podRes : List PodResources} {zones : List Zone}
    (hzones : racingZones sord rm evs clock excludeList podRes = .ok zones) :
    zones = scanZones sord rm excludeList podRes := by
  rw [← zones.map_id]
  refine map_of_mapM hzones fun nodeID hnodeID zone hzone => ?_
  have hlt : nodeID < rm₀.topo.nodes.length := h.topo ▸ List.mem_range.mp hnodeID
  obtain ⟨resources, hresources, hpure⟩ := bind_eq_ok_iff.mp hzone
  obtain rfl := Except.ok.inj hpure
  have hcounters : zoneCounters (rm.withFigures (figuresAt rm evs (clock.allocatable nodeID))) nodeID
      = zoneCounters (withHardware ord last.memCounters last.allocRes rm₀) nodeID := by
    rw [zoneCounters, zoneCounters, ← (Keeps.figuresAt h hevs _).allocatable]
    rfl
  have hcounters' : zoneCounters rm nodeID
      = zoneCounters (withHardware ord last.memCounters last.allocRes rm₀) nodeID := by
    rw [zoneCounters, zoneCounters, ← h.keeps.allocatable]
    rfl
  have hentries : resources = (scanZone (sord.resources nodeID) rm
      (toMapSet sord.excludes excludeList) (containerDevicesToPerNUMAResourceCounters
        (getAllContainerDevices sord.cpus podRes rm.args.namespace rm.coreIDToNodeIDMap))
      nodeID).resources := by
    rw [resources_scanZone, hcounters', ← hcounters, ← resources.map_id]
    refine map_of_mapM hresources fun e he info hinfo => ?_
    have hlookup := (mem_racingCounters_iff.mp he).1
    rw [hcounters] at hlookup
    obtain ⟨resCapCounters, hcapacity, hentry⟩ := bind_eq_ok_iff.mp hinfo
    obtain rfl := Except.ok.inj hentry
    obtain ⟨u, -, -, rfl⟩ := exists_moment_of_racingCapacity hcapacity
    have hmoment := ((Keeps.figuresAt h hevs u).capacity nodeID hlt e.1).scanResource_eq hlt hlookup
    have hbefore := (h.keeps.capacity nodeID hlt e.1).scanResource_eq hlt hlookup
    exact (hmoment _).symm.trans (hbefore _)
  rw [hentries]
  rfl

end Unchanged

end Race

end TopologyExporter
