/-
TopologyExporter/PublishedNode.lean

The name of the node, found twice.

The updater publishes its object under `NRTupdater.Hostname`, which `LoadArgs` takes
from a flag, a file, the environment or the operating system.  The monitor picks the
exclusions of its node, and the node updates that concern it, by a name of its own: it
is created without options and reads `NODE_NAME`.  `exclusions_follow_node_iff` says for
which sources the two agree.

The name of a monitor never changes, neither in a refresh nor by node updates, so the
names decide about every scan (`Reached.nodeName_eq`, `not_excluded_of_mem_scan`).

The operating system is the last source of the name, and `Finalize` loses its error:
`loaded_names_node_iff` says when arguments that are loaded name a node at all.
-/
import TopologyExporter.FailedRefresh
import TopologyExporter.Precedence

namespace TopologyExporter

open GoMap GoPanic Assignments

/-! ### The name of a monitor -/

/-- The monitor of `NewResourceObserver`. -/
def newResourceObserver (sys : System) (ord : RefreshOrders)
    (mem : Except String MemoryResourceCounters) (alloc : Except String AllocatableResourcesResponse)
    (topo : MachineTopology) (args : MonitorConfig) : Except Panic (Except String ResourceMonitor) :=
  newResourceMonitor ord mem alloc (getenv sys "NODE_NAME") args.toMonitorArgs topo

/-- A refresh keeps the name. -/
theorem nodeName_updateNodeResources {ord : RefreshOrders}
    {mem : Except String MemoryResourceCounters} {alloc : Except String AllocatableResourcesResponse}
    {rm : ResourceMonitor} {out : ResourceMonitor × Option String}
    (h : updateNodeResources ord mem alloc rm = .ok out) : out.1.nodeName = rm.nodeName := by
  obtain ⟨⟨rm₁, err₁⟩, hcapacity, h⟩ := bind_eq_ok_iff.mp h
  have h₁ : rm₁.nodeName = rm.nodeName := by
    rcases mem with err | memCounters
    · cases hcapacity
      rfl
    · obtain ⟨perNUMARc, -, hcapacity⟩ := bind_eq_ok_iff.mp hcapacity
      cases hcapacity
      rfl
  rcases err₁ with - | err
  · rcases alloc with err | allocRes
    · cases h
      exact h₁
    · obtain ⟨rm₂, hdevices, h⟩ := bind_eq_ok_iff.mp h
      obtain ⟨nodeCapacity, -, hdevices⟩ := bind_eq_ok_iff.mp hdevices
      cases hdevices
      cases h
      exact h₁
  · cases h
    exact h₁

section Runs

variable {R : Type} [DecidableEq R] {sys : System} {args : MonitorConfig} {rm : ResourceMonitor}

/-- A node update keeps the name. -/
theorem nodeName_resUpdated {ev : NodeUpdate R} {rm' : ResourceMonitor}
    (h : resUpdated rm ev = .ok rm') : rm'.nodeName = rm.nodeName := by
  rw [resUpdated] at h
  split_ifs at h
  · cases h
    rfl
  · obtain ⟨out, hout, h⟩ := bind_eq_ok_iff.mp h
    cases h
    exact nodeName_updateNodeResources hout
  · cases h
    rfl

/-- The monitor of the observer, after some node updates. -/
def Reached (R : Type) [DecidableEq R] (sys : System) (args : MonitorConfig)
    (rm : ResourceMonitor) : Prop :=
  ∃ ord mem alloc topo rm₀, newResourceObserver sys ord mem alloc topo args = .ok (.ok rm₀)
    ∧ ∃ later : List (NodeUpdate R), later.foldlM resUpdated rm₀ = .ok rm

/-- **The name of the monitor is that of the environment**, in every state. -/
theorem Reached.nodeName_eq (h : Reached R sys args rm) : rm.nodeName = getenv sys "NODE_NAME" := by
  obtain ⟨ord, mem, alloc, topo, rm₀, hnew, later, hlater⟩ := h
  have h₀ : rm₀.nodeName = getenv sys "NODE_NAME" := by
    obtain ⟨⟨rm₁, err⟩, hrefresh, hnew⟩ := bind_eq_ok_iff.mp hnew
    rcases err with - | err
    · cases hnew
      exact nodeName_updateNodeResources hrefresh
    · cases hnew
  refine foldlM_invariant (fun rm => rm.nodeName = getenv sys "NODE_NAME") ?_ h₀ hlater
  intro rm ev rm' hrm hstep
  exact (nodeName_resUpdated hstep).trans hrm

/-- There is a monitor for every environment. -/
theorem exists_reached (R : Type) [DecidableEq R] (sys : System) (args : MonitorConfig) :
    ∃ rm, Reached R sys args rm :=
  ⟨_, .sorted, .ok ∅, .ok ⟨[], [], []⟩, ⟨[]⟩, _, rfl, [], rfl⟩

/-- A scan leaves out what is excluded for the name of the monitor. -/
theorem not_excluded_of_mem_scan {pfp : PodFingerprint} {ord : ScanOrders}
    {excludeList : ResourceExclude} {resp : Except String (List PodResources)} {zones : List Zone}
    (h : (scan pfp ord rm excludeList resp).1.zones = some zones) {zone : Zone}
    (hzone : zone ∈ zones) {info : ResourceInfo} (hinfo : info ∈ zone.resources) :
    ¬ Excluded excludeList rm.nodeName info.name := by
  rcases resp with err | podRes
  · cases h
  · rw [(scan_zones pfp ord rm excludeList podRes).1] at h
    cases h
    obtain ⟨nodeID, -, rfl⟩ := List.mem_map.mp hzone
    obtain ⟨resName, resAlloc, -, hex, rfl⟩ := (mem_scanZone_iff _ _ _ _ _ info).mp hinfo
    rw [inExcludeSet_toMapSet] at hex
    exact hex

/-! ### The name of the object -/

/-- The monitor goes by the name that the object is published under: it has that name in
every state, and no scan reports a resource that is excluded for that name. -/
structure FollowsPublishedNode (R : Type) [DecidableEq R] (sys : System) (r : ProgArgs) : Prop where
  nodeName : ∀ rm, Reached R sys r.resourceMonitor rm → rm.nodeName = r.nrtUpdater.hostname
  excluded : ∀ rm, Reached R sys r.resourceMonitor rm → ∀ pfp ord resp zones,
    (scan pfp ord rm r.resourceMonitor.resourceExclude resp).1.zones = some zones →
      ∀ zone ∈ zones, ∀ info ∈ zone.resources,
        ¬ Excluded r.resourceMonitor.resourceExclude r.nrtUpdater.hostname info.name

/-- The exclusions follow the name. -/
theorem followsPublishedNode_iff {r : ProgArgs} :
    FollowsPublishedNode R sys r ↔ getenv sys "NODE_NAME" = r.nrtUpdater.hostname := by
  constructor
  · intro h
    obtain ⟨rm, hrm⟩ := exists_reached R sys r.resourceMonitor
    rw [← hrm.nodeName_eq]
    exact h.nodeName rm hrm
  · intro heq
    have hname : ∀ rm, Reached R sys r.resourceMonitor rm → rm.nodeName = r.nrtUpdater.hostname :=
      fun rm hrm => hrm.nodeName_eq.trans heq
    refine ⟨hname, fun rm hrm pfp ord resp zones hscan zone hzone info hinfo => ?_⟩
    rw [← hname rm hrm]
    exact not_excluded_of_mem_scan hscan hzone hinfo

end Runs

/-- The sources of the host name give the name that `NODE_NAME` has.  The environment is
one of the sources, behind the flag and the files; an empty name is replaced by that of
the operating system. -/
def NodeNameAgrees (codec : YamlCodec) (sys : System) (cl : CommandLine) : Prop :=
  if cl.wantsVersion then getenv sys "NODE_NAME" = ""
  else
    match cl.flag .hostname, fileSource (configFiles codec sys cl) .hostname with
    | some hostname, _ => getenv sys "NODE_NAME" = orElse "" hostname (osHostname sys)
    | none, some hostname =>
        if hostname = "" then getenv sys "NODE_NAME" = "" → osHostname sys = ""
        else getenv sys "NODE_NAME" = hostname
    | none, none => getenv sys "NODE_NAME" = "" → osHostname sys = ""

section Load

variable {lib : Libraries} {codec : YamlCodec} {sys : System} {args : List String}
  {cl : CommandLine} {r : ProgArgs}

/-- What the passes make of the host name. -/
theorem hostname_passes (node os : String) (flag file : Option String) :
    node = passes "" "" os flag file (nonEmpty node)
      ↔ match flag, file with
        | some hostname, _ => node = orElse "" hostname os
        | none, some hostname => if hostname = "" then node = "" → os = "" else node = hostname
        | none, none => node = "" → os = "" := by
  -- an empty name leaves the choice to the environment
  have hempty : node = orElse "" (orElse "" "" node) os ↔ (node = "" → os = "") := by
    rw [orElse_zero_left, eq_comm]
    exact orElse_eq_self_iff
  rw [passes, nonEmpty_getD]
  rcases flag with - | f
  · rcases file with - | v
    · exact hempty
    · show node = orElse "" (orElse "" v node) os ↔ if v = "" then _ else _
      by_cases hv : v = ""
      · rw [if_pos hv, hv]
        exact hempty
      · rw [if_neg hv, orElse_of_ne hv, orElse_of_ne hv]
  · exact Iff.rfl

/-- **Exclusions follow the published node** exactly if the sources of the host name
agree with the environment variable that the monitor reads. -/
theorem exclusions_follow_node_iff (R : Type) [DecidableEq R]
    (hparse : parseCommandLine lib args = .ok cl) (hload : loadArgs lib codec sys args = .ok r) :
    FollowsPublishedNode R sys r ↔ NodeNameAgrees codec sys cl := by
  have hs : Setting.hostname ∈ envSettings := List.mem_cons_self
  rw [followsPublishedNode_iff, NodeNameAgrees]
  split_ifs with hversion
  · have hdefault : r.nrtUpdater.hostname = "" := loadArgs_wantsVersion hparse hload hversion hs
    rw [hdefault]
  · have hname : r.nrtUpdater.hostname = _ :=
      loadArgs_passes hparse hload (Bool.not_eq_true _ ▸ hversion) hs
    rw [hname]
    exact hostname_passes _ _ _ _

end Load

/-- Without flags and files both names come from the environment. -/
theorem exclusions_follow_node_from_env :
    ∃ r, loadArgs plainLibraries noCodec (bareSystem "NODE_NAME" "worker-0") [] = .ok r
      ∧ FollowsPublishedNode Unit (bareSystem "NODE_NAME" "worker-0") r := by
  have hparse : parseCommandLine plainLibraries [] = .ok (CommandLine.ofParams []) := rfl
  obtain ⟨r, hload⟩ : ∃ r, loadArgs plainLibraries noCodec (bareSystem "NODE_NAME" "worker-0") []
      = .ok r := ⟨_, rfl⟩
  refine ⟨r, hload, (exclusions_follow_node_iff Unit hparse hload).mpr ?_⟩
  show getenv (bareSystem "NODE_NAME" "worker-0") "NODE_NAME" = "" → _
  intro hempty
  exact absurd hempty (by decide +kernel)

/-- A host called worker-0, with an extra file. -/
def excludingSystem : System :=
  { bareSystem "NODE_NAME" "worker-0" with
    readFile := fun path =>
      if path = legacyExtraConfigPath then .ok "exclude" else .error .notExist }

/-- The extra file excludes the CPUs of edge-0. -/
def excludingCodec : YamlCodec where
  unmarshal _ := .error "no text"
  unmarshalExtra _ := .ok ⟨none, none, (∅ : ResourceExclude).insert "edge-0" ["cpu"], []⟩
  flatten := flatConf
  flattens := flattens_flatConf

/-- A machine with one node of two CPUs. -/
def twoCPUs : MachineTopology := ⟨[⟨0, [⟨[0, 1]⟩], [10]⟩]⟩

/-- A fingerprint that is the same for all pods. -/
def plainFingerprint : PodFingerprint := ⟨"all", "", "", "", fun _ => ""⟩

/-- The start of the program with a flag for the host name, up to the first scan: whether
CPUs are excluded for the published node, and reported. -/
def excludedAndReported : Option (Bool × Bool) := do
  let r ← (loadArgs plainLibraries excludingCodec excludingSystem ["--hostname=edge-0"]).toOption
  let started ← (newResourceObserver excludingSystem .sorted (.ok ∅) (.ok ⟨[], [0, 1], []⟩) twoCPUs
    r.resourceMonitor).toOption
  let rm ← started.toOption
  let zones ← (scan plainFingerprint .sorted rm r.resourceMonitor.resourceExclude (.ok [])).1.zones
  pure ("cpu" ∈ getD r.resourceMonitor.resourceExclude r.nrtUpdater.hostname [],
    zones.any fun zone => zone.resources.any fun info => info.name = "cpu")

/-- With a flag for the host name the object of edge-0 lists a resource that is excluded
for edge-0. -/
theorem flag_publishes_excluded_cpu :
    ∃ r, loadArgs plainLibraries excludingCodec excludingSystem ["--hostname=edge-0"] = .ok r
      ∧ ¬ FollowsPublishedNode Unit excludingSystem r := by
  have heval : excludedAndReported = some (true, true) := by decide +kernel
  simp only [excludedAndReported, Option.bind_eq_bind, Option.bind_eq_some_iff] at heval
  obtain ⟨r, hload, started, hstarted, rm, hrm, zones, hzones, hboth⟩ := heval
  obtain ⟨hexcluded, hreported⟩ := Prod.mk.inj (Option.some.inj hboth)
  obtain ⟨zone, hzone, hany⟩ := List.any_eq_true.mp hreported
  obtain ⟨info, hinfo, hname⟩ := List.any_eq_true.mp hany
  refine ⟨r, eq_ok_of_toOption hload, fun hfollows => ?_⟩
  have hreached : Reached Unit excludingSystem r.resourceMonitor rm := by
    have hnew := eq_ok_of_toOption hstarted
    rw [eq_ok_of_toOption hrm] at hnew
    exact ⟨_, _, _, _, rm, hnew, [], rfl⟩
  apply hfollows.excluded rm hreached _ _ _ zones hzones zone hzone info hinfo
  rw [of_decide_eq_true hname]
  exact Or.inr (of_decide_eq_true hexcluded)

/-! ### No name at all -/

/-- Some source names the node: the operating system, or the first of flag, files and
environment that is asked.  A flag that is given hides the others. -/
def NamesNode (codec : YamlCodec) (sys : System) (cl : CommandLine) : Prop :=
  (∃ hostname, sys.hostname = .ok hostname ∧ hostname ≠ "")
    ∨ match cl.flag .hostname with
      | some hostname => hostname ≠ ""
      | none => (∃ hostname, fileSource (configFiles codec sys cl) .hostname = some hostname
            ∧ hostname ≠ "") ∨ getenv sys "NODE_NAME" ≠ ""

theorem osHostname_ne_empty_iff (sys : System) :
    osHostname sys ≠ "" ↔ ∃ hostname, sys.hostname = .ok hostname ∧ hostname ≠ "" := by
  rw [osHostname]
  rcases sys.hostname with err | hostname
  · refine ⟨fun h => absurd rfl h, ?_⟩
    rintro ⟨hostname, h, -⟩
    cases h
  · refine ⟨fun h => ⟨hostname, rfl, h⟩, ?_⟩
    rintro ⟨hostname', heq, hne⟩
    obtain rfl := Except.ok.inj heq
    exact hne

/-- **When loaded arguments name the node**: some source does.  A failure of the operating
system to give a name is not an error. -/
theorem loaded_names_node_iff {lib : Libraries} {codec : YamlCodec} {sys : System}
    {args : List String} {cl : CommandLine} {r : ProgArgs}
    (hparse : parseCommandLine lib args = .ok cl) (hload : loadArgs lib codec sys args = .ok r)
    (hversion : cl.wantsVersion = false) :
    r.nrtUpdater.hostname ≠ "" ↔ NamesNode codec sys cl := by
  have hname : r.nrtUpdater.hostname = passes "" "" (osHostname sys) (cl.flag .hostname)
      (fileSource (configFiles codec sys cl) .hostname) (nonEmpty (getenv sys "NODE_NAME")) :=
    loadArgs_passes hparse hload hversion List.mem_cons_self
  rw [hname, passes, nonEmpty_getD, Ne, orElse_eq_zero_iff, not_and_or, or_comm, NamesNode,
    ← osHostname_ne_empty_iff]
  refine or_congr Iff.rfl ?_
  rcases cl.flag .hostname with - | hostname
  · -- an empty name in the files counts as none, so that the environment is asked
    show ¬ orElse "" ((fileSource (configFiles codec sys cl) .hostname).getD "") _ = "" ↔ _
    rw [orElse_eq_zero_iff, not_and_or]
    refine or_congr ?_ Iff.rfl
    rcases fileSource (configFiles codec sys cl) .hostname with - | hostname
    · refine ⟨fun h => absurd rfl h, ?_⟩
      rintro ⟨hostname, h, -⟩
      cases h
    · refine ⟨fun h => ⟨hostname, rfl, h⟩, ?_⟩
      rintro ⟨hostname', h, hne⟩
      obtain rfl := Option.some.inj h
      exact hne
  · -- a flag hides files and environment, also if it is empty
    exact Iff.rfl

/-- The environment names the node. -/
theorem loaded_names_node_from_env :
    ∃ r, loadArgs plainLibraries noCodec (bareSystem "NODE_NAME" "worker-0") [] = .ok r
      ∧ r.nrtUpdater.hostname ≠ "" := by
  have hparse : parseCommandLine plainLibraries [] = .ok (CommandLine.ofParams []) := rfl
  obtain ⟨r, hload⟩ : ∃ r, loadArgs plainLibraries noCodec (bareSystem "NODE_NAME" "worker-0") []
      = .ok r := ⟨_, rfl⟩
  refine ⟨r, hload, (loaded_names_node_iff hparse hload rfl).mpr (Or.inr (Or.inr ?_))⟩
  decide +kernel

/-- A host without a name, and without a variable for it. -/
def namelessSystem : System :=
  { bareSystem "HOME" "" with hostname := .error "hostname: operation not permitted" }

/-- The failure of the operating system is lost, and the arguments name no node. -/
theorem hostname_failure_lost :
    ∃ r, loadArgs plainLibraries noCodec namelessSystem [] = .ok r ∧ r.nrtUpdater.hostname = "" :=
  ⟨_, rfl, rfl⟩

end TopologyExporter
