/-
TopologyExporter/Fingerprint.lean

The pod fingerprint and the published zones see the same pods.

A scheduler trusts the zones only if the fingerprint next to them matches the
pods it knows of.  With the method that covers pods with exclusive resources,
the fingerprint is computed over the pods that `verify` allows, while the zones
are computed over all pods, by code that shares nothing with `verify`.
`scan_determined_by_allowed_pods` says that the two agree: a rejected pod does
not show in any zone, so pod lists with the same allowed pods have the same
zones and the same fingerprint.

Two scans may list the resources of a zone in different orders; "the same" is
`SameZones`.
-/
import TopologyExporter.Scan

namespace TopologyExporter

open GoMap GoInt

/-! ### Equality up to the order of resources -/

/-- Two zones that differ at most in the order of their resources. -/
structure Zone.Same (zone zone' : Zone) : Prop where
  name : zone.name = zone'.name
  type : zone.type = zone'.type
  costs : zone.costs = zone'.costs
  resources : zone.resources.Perm zone'.resources

/-- The zone lists of two scans: the same up to the orders of the scans, and
equal if both enumerate the resources alike. -/
structure SameZones (ord ord' : ScanOrders) (zones zones' : Option (List Zone)) : Prop where
  upToOrder : Option.Rel (List.Forall₂ Zone.Same) zones zones'
  equal : ord.resources = ord'.resources → zones = zones'

/-! ### Rejected pods ask for nothing -/

/-- A container without local resources asks nothing of a node of the machine. -/
theorem containerDemand_of_verifyContainer_none {cnt : ContainerResources}
    (h : verifyContainer cnt = none) (coreIDToNodeIDMap : GoMap Int Int) {k : Int} (hk : 0 ≤ k)
    (r : String) : containerDemand coreIDToNodeIDMap k r cnt = 0 := by
  obtain ⟨hcpu, hmem, hdev⟩ := verifyContainer_eq_none_iff.mp h
  have hdevices : demand cnt.devices k r = 0 := by
    refine demand_eq_zero fun device hdevice => ?_
    unfold entryDemand
    rcases hdev device hdevice with hnil | hlocal
    · -- no device IDs: an amount of zero, whatever the resource
      have hamount : entryAmount device = 0 := by
        simp [entryAmount, hnil, memSize]
      simp [hamount]
    · simp [nodeCount_of_isPresent_eq_false hlocal hk]
  have hblocks : (cnt.memory.map (blockDemand k r)).sum = 0 := by
    refine List.sum_eq_zero fun x hx => ?_
    obtain ⟨block, hblock, rfl⟩ := List.mem_map.mp hx
    simp [blockDemand, nodeCount_of_isPresent_eq_false (hmem block hblock) hk]
  rw [containerDemand, listsDemand, hdevices, hblocks, hcpu]
  simp [cpuCount]

/-- The pods that `verify` allows. -/
def allowedPods (podRes : List PodResources) : List PodResources :=
  podRes.filter fun pr => (verify pr).allow

/-- The watched containers ask the same of a node of the machine with or
without the rejected pods. -/
theorem sum_containerDemand_allowedPods (coreIDToNodeIDMap : GoMap Int Int)
    («namespace» : String) (podRes : List PodResources) {k : Int} (hk : 0 ≤ k) (r : String) :
    ((watchedContainers (allowedPods podRes) «namespace»).map
        (containerDemand coreIDToNodeIDMap k r)).sum
      = ((watchedContainers podRes «namespace»).map
          (containerDemand coreIDToNodeIDMap k r)).sum := by
  induction podRes with
  | nil => rfl
  | cons pr podRes ih =>
      have hcons : ∀ l : List PodResources, watchedContainers (pr :: l) «namespace»
          = (if «namespace» = "" ∨ «namespace» = pr.namespace then pr.containers else [])
            ++ watchedContainers l «namespace» := by
        intro l
        unfold watchedContainers
        by_cases hns : «namespace» = "" ∨ «namespace» = pr.namespace
        · simp [hns]
        · simp [hns]
      rcases hallow : (verify pr).allow with - | -
      · -- a rejected pod: each of its containers adds zero
        have hzero : ((if «namespace» = "" ∨ «namespace» = pr.namespace then pr.containers
            else []).map (containerDemand coreIDToNodeIDMap k r)).sum = 0 := by
          refine List.sum_eq_zero fun x hx => ?_
          obtain ⟨cnt, hcnt, rfl⟩ := List.mem_map.mp hx
          have hmem : cnt ∈ pr.containers := by
            split_ifs at hcnt
            · exact hcnt
            · cases hcnt
          exact containerDemand_of_verifyContainer_none
            (verify_allow_eq_false hallow cnt hmem) _ hk r
        have hskip : allowedPods (pr :: podRes) = allowedPods podRes := by
          simp [allowedPods, hallow]
        rw [hskip, hcons, List.map_append, List.sum_append, hzero, Int.zero_add]
        exact ih
      · have hkeep : allowedPods (pr :: podRes) = pr :: allowedPods podRes := by
          simp [allowedPods, hallow]
        rw [hkeep, hcons, hcons, List.map_append, List.sum_append, List.map_append,
          List.sum_append, ih]

/-! ### Zones -/

/-- An entry reads the used figure and nothing else of the allocated counters. -/
theorem scanResource_congr {allocated allocated' : PerNUMAResourceCounter} {k : Int} {r : String}
    (h : (cell allocated k r).getD 0 = (cell allocated' k r).getD 0)
    (resCapCounters : ResourceCounter) (resAlloc : Int) :
    scanResource resCapCounters allocated k r resAlloc
      = scanResource resCapCounters allocated' k r resAlloc := by
  unfold scanResource
  rw [h]

section Zones

variable {rm : ResourceMonitor} {allocated allocated' : PerNUMAResourceCounter} {nodeID : Nat}
variable {excludeSet excludeSet' : GoMap String (Finset String)}

/-- With the same used figures, a zone is the same. -/
theorem scanZone_congr
    (hused : ∀ r, (cell allocated nodeID r).getD 0 = (cell allocated' nodeID r).getD 0)
    (hex : ∀ r, inExcludeSet excludeSet r rm.nodeName = inExcludeSet excludeSet' r rm.nodeName)
    (ord : RangeOrder String Int) :
    scanZone ord rm excludeSet allocated nodeID
      = scanZone ord rm excludeSet' allocated' nodeID := by
  unfold scanZone
  congr 1
  refine List.filterMap_congr fun e _ => ?_
  show (if _ then _ else _) = (if _ then _ else _)
  rw [hex, scanResource_congr (hused e.1)]

theorem scanZone_same_orders (ord ord' : RangeOrder String Int) :
    (scanZone ord rm excludeSet allocated nodeID).Same
      (scanZone ord' rm excludeSet allocated nodeID) where
  name := rfl
  type := rfl
  costs := rfl
  resources := ((ord.enumerates _).perm (ord'.enumerates _)).filterMap _

end Zones

section Scans

variable {rm : ResourceMonitor} {podRes podRes' : List PodResources}

/-- A zone is a function of what the watched containers ask of its node; of the
orders of a scan, only that of the resources shows. -/
theorem scanZone_demand_congr (ord ord' : ScanOrders) (excludeList : ResourceExclude)
    (resources : RangeOrder String Int) {nodeID : Nat}
    (h : ∀ r,
      ((watchedContainers podRes rm.args.namespace).map
          (containerDemand rm.coreIDToNodeIDMap nodeID r)).sum
        = ((watchedContainers podRes' rm.args.namespace).map
            (containerDemand rm.coreIDToNodeIDMap nodeID r)).sum) :
    scanZone resources rm (toMapSet ord.excludes excludeList)
        (containerDevicesToPerNUMAResourceCounters (getAllContainerDevices ord.cpus podRes
          rm.args.namespace rm.coreIDToNodeIDMap)) nodeID
      = scanZone resources rm (toMapSet ord'.excludes excludeList)
        (containerDevicesToPerNUMAResourceCounters (getAllContainerDevices ord'.cpus podRes'
          rm.args.namespace rm.coreIDToNodeIDMap)) nodeID := by
  refine scanZone_congr (fun r => ?_) (fun r => ?_) resources
  · rw [cell_counters_getD, cell_counters_getD, demand_getAllContainerDevices,
      demand_getAllContainerDevices, h]
  · rw [Bool.eq_iff_iff, inExcludeSet_toMapSet, inExcludeSet_toMapSet]

/-- The zones are a function of what the watched containers ask of the nodes. -/
theorem sameZones_scan (pfp : PodFingerprint) (ord ord' : ScanOrders)
    (excludeList : ResourceExclude)
    (h : ∀ (nodeID : Nat) r,
      ((watchedContainers podRes rm.args.namespace).map
          (containerDemand rm.coreIDToNodeIDMap nodeID r)).sum
        = ((watchedContainers podRes' rm.args.namespace).map
            (containerDemand rm.coreIDToNodeIDMap nodeID r)).sum) :
    SameZones ord ord' (scan pfp ord rm excludeList (.ok podRes)).1.zones
      (scan pfp ord' rm excludeList (.ok podRes')).1.zones := by
  have hzone := fun (nodeID : Nat) resources =>
    scanZone_demand_congr ord ord' excludeList resources (h nodeID)
  rw [(scan_zones pfp ord rm excludeList podRes).1, (scan_zones pfp ord' rm excludeList podRes').1]
  constructor
  · refine .some ?_
    unfold scanZones
    rw [List.forall₂_map_left_iff, List.forall₂_map_right_iff]
    refine List.forall₂_same.mpr fun nodeID _ => ?_
    rw [hzone]
    exact scanZone_same_orders _ _
  · intro hord
    simp only [scanZones, hzone, hord]

end Scans

/-- **The fingerprint covers every pod that matters.**  A scan publishes the
same zones for a pod list and for its allowed pods; hence two lists with the
same allowed pods have the same zones and, unless the method is to cover all
pods anyway, the same fingerprint. -/
theorem scan_determined_by_allowed_pods (pfp : PodFingerprint) (ord ord' : ScanOrders)
    (rm : ResourceMonitor) (excludeList : ResourceExclude) :
    (∀ podRes, SameZones ord ord' (scan pfp ord rm excludeList (.ok podRes)).1.zones
        (scan pfp ord' rm excludeList (.ok (allowedPods podRes))).1.zones)
      ∧ ∀ podRes podRes', allowedPods podRes = allowedPods podRes' →
        SameZones ord ord' (scan pfp ord rm excludeList (.ok podRes)).1.zones
            (scan pfp ord' rm excludeList (.ok podRes')).1.zones
          ∧ (rm.args.podSetFingerprintMethod ≠ pfp.methodAll →
              (scan pfp ord rm excludeList (.ok podRes)).1.attributes
                  = (scan pfp ord' rm excludeList (.ok podRes')).1.attributes
                ∧ (scan pfp ord rm excludeList (.ok podRes)).1.annotations
                  = (scan pfp ord' rm excludeList (.ok podRes')).1.annotations) := by
  have hsum : ∀ podRes (nodeID : Nat) r, _ = _ := fun podRes nodeID r =>
    sum_containerDemand_allowedPods rm.coreIDToNodeIDMap rm.args.namespace podRes
      (Int.natCast_nonneg nodeID) r
  refine ⟨fun podRes => ?_, fun podRes podRes' hallowed => ⟨?_, fun hmethod => ?_⟩⟩
  · exact sameZones_scan pfp ord ord' excludeList fun nodeID r => (hsum podRes nodeID r).symm
  · refine sameZones_scan pfp ord ord' excludeList fun nodeID r => ?_
    rw [← hsum podRes, ← hsum podRes', hallowed]
  · -- the fingerprint is signed over the allowed pods only
    have hsign : scanFingerprint pfp rm podRes = scanFingerprint pfp rm podRes' := by
      unfold scanFingerprint computePodFingerprintFromPodResources
      rw [if_neg hmethod]
      show (if _ then some (pfp.sign (allowedPods podRes)) else none)
        = if _ then some (pfp.sign (allowedPods podRes')) else none
      rw [hallowed]
    rcases hfp : scanFingerprint pfp rm podRes' with - | pfpSign
    · simp [scan, hsign, hfp]
    · simp [scan, hsign, hfp]

/-- A pod whose only device may be anywhere changes neither zones nor fingerprint. -/
theorem scan_determined_by_allowed_pods_nonlocal_pod :
    allowedPods twoNodePods
        = allowedPods (twoNodePods ++ [⟨"late", "default", [⟨"cnt",
            [⟨"vendor.com/usb", ["usb0"], some ⟨[⟨-1⟩]⟩⟩], [], []⟩]⟩])
      ∧ (scan namesFingerprint .sorted (initialMonitor "worker"
            ⟨"", true, "with-exclusive-resources"⟩ twoNodeTopology) ∅ (.ok twoNodePods)).1.attributes
        = (scan namesFingerprint .sorted (initialMonitor "worker"
            ⟨"", true, "with-exclusive-resources"⟩ twoNodeTopology) ∅
            (.ok (twoNodePods ++ [⟨"late", "default", [⟨"cnt",
              [⟨"vendor.com/usb", ["usb0"], some ⟨[⟨-1⟩]⟩⟩], [], []⟩]⟩]))).1.attributes := by
  refine ⟨by decide, ?_⟩
  have h := (scan_determined_by_allowed_pods namesFingerprint .sorted .sorted
    (initialMonitor "worker" ⟨"", true, "with-exclusive-resources"⟩ twoNodeTopology) ∅).2
    twoNodePods (twoNodePods ++ [⟨"late", "default", [⟨"cnt",
      [⟨"vendor.com/usb", ["usb0"], some ⟨[⟨-1⟩]⟩⟩], [], []⟩]⟩]) (by decide)
  exact (h.2 (by decide)).1

end TopologyExporter
