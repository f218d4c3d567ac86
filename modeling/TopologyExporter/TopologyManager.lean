/-
TopologyExporter/TopologyManager.lean

Policy and scope of the topology manager, from their sources to the published object.

Each of the two can be given by a flag, by the extra file and by the environment.
`getTopologyManagerSettings` uses what was given only if both were; otherwise it takes
both from the configuration file of the kubelet.  `topology_manager_honoured_iff` says
that this is the only way in which a setting that was given is not published.
-/
import TopologyExporter.Precedence

namespace TopologyExporter

open Assignments

/-! ### The kubelet -/

/-- `KubeletConfiguration`, as far as it is read. -/
structure KubeletConfiguration where
  topologyManagerPolicy : String
  topologyManagerScope : String

/-- How the configuration file of the kubelet is read: `os.ReadFile` and the YAML
library. -/
structure KubeletFiles where
  readFile : String → Except String String
  unmarshal : String → Except String KubeletConfiguration

/-- `GetKubeletConfigFromLocalFile`. -/
def getKubeletConfigFromLocalFile (kubelet : KubeletFiles) (kubeletConfigPath : String) :
    Except String KubeletConfiguration := do
  let kubeletBytes ← kubelet.readFile kubeletConfigPath
  kubelet.unmarshal kubeletBytes

/-- `getTopologyManagerSettings`. -/
def getTopologyManagerSettings (kubelet : KubeletFiles) (rteArgs : ExporterConfig) :
    Except String TMConfig :=
  if rteArgs.topologyManagerPolicy ≠ "" ∧ rteArgs.topologyManagerScope ≠ "" then
    .ok ⟨rteArgs.topologyManagerPolicy, rteArgs.topologyManagerScope⟩
  else if rteArgs.kubeletConfigFile ≠ "" then
    match getKubeletConfigFromLocalFile kubelet rteArgs.kubeletConfigFile with
    | .error err => .error ("error getting topology Manager Policy: " ++ err)
    | .ok klConfig => .ok ⟨klConfig.topologyManagerPolicy, klConfig.topologyManagerScope⟩
  else .error "cannot find the kubelet Topology Manager policy"

/-- Settings that are found are the two that were given, or those of the kubelet. -/
theorem getTopologyManagerSettings_ok {kubelet : KubeletFiles} {rteArgs : ExporterConfig}
    {tmConf : TMConfig} (h : getTopologyManagerSettings kubelet rteArgs = .ok tmConf) :
    (rteArgs.topologyManagerPolicy ≠ "" ∧ rteArgs.topologyManagerScope ≠ ""
        ∧ tmConf = ⟨rteArgs.topologyManagerPolicy, rteArgs.topologyManagerScope⟩)
      ∨ ((rteArgs.topologyManagerPolicy = "" ∨ rteArgs.topologyManagerScope = "")
        ∧ ∃ klConfig, getKubeletConfigFromLocalFile kubelet rteArgs.kubeletConfigFile = .ok klConfig
          ∧ tmConf = ⟨klConfig.topologyManagerPolicy, klConfig.topologyManagerScope⟩) := by
  rw [getTopologyManagerSettings] at h
  split_ifs at h with hgiven hfile
  · exact Or.inl ⟨hgiven.1, hgiven.2, (Except.ok.inj h).symm⟩
  · refine Or.inr ⟨?_, ?_⟩
    · by_contra hnone
      exact hgiven (not_or.mp hnone)
    · rcases hconfig : getKubeletConfigFromLocalFile kubelet rteArgs.kubeletConfigFile
        with err | klConfig
      · rw [hconfig] at h
        cases h
      · rw [hconfig] at h
        exact ⟨klConfig, rfl, (Except.ok.inj h).symm⟩

/-! ### What was given -/

/-- The two settings. -/
inductive TMSetting
  | policy
  | scope
  deriving DecidableEq

namespace TMSetting

/-- The other setting. -/
def other : TMSetting → TMSetting
  | policy => scope
  | scope => policy

/-- The value in the configuration of the kubelet. -/
def ofKubelet (klConfig : KubeletConfiguration) : TMSetting → String
  | policy => klConfig.topologyManagerPolicy
  | scope => klConfig.topologyManagerScope

/-- The value in the settings of the updater. -/
def ofConfig (tmConf : TMConfig) : TMSetting → String
  | policy => tmConf.policy
  | scope => tmConf.scope

/-- The value in the arguments. -/
def ofArgs (rteArgs : ExporterConfig) : TMSetting → String
  | policy => rteArgs.topologyManagerPolicy
  | scope => rteArgs.topologyManagerScope

/-- The value that was given: by the flag, else by the extra file, else by the environment;
empty if there is none. -/
def given (codec : YamlCodec) (sys : System) (cl : CommandLine) : TMSetting → String
  | policy => (cl.flag .topologyManagerPolicy).getD
      (orElse "" ((configFiles codec sys cl).2.topologyManagerPolicy.getD "")
        (getenv sys "TOPOLOGY_MANAGER_POLICY"))
  | scope => (cl.flag .topologyManagerScope).getD
      (orElse "" ((configFiles codec sys cl).2.topologyManagerScope.getD "")
        (getenv sys "TOPOLOGY_MANAGER_SCOPE"))

end TMSetting

open TMSetting

/-- The configuration of the kubelet that belongs to a command line. -/
def kubeletConfig (kubelet : KubeletFiles) (cl : CommandLine) :
    Except String KubeletConfiguration :=
  getKubeletConfigFromLocalFile kubelet
    ((cl.flag .kubeletConfigFile).getD "/podresources/config.yaml")

section Load

variable {lib : Libraries} {codec : YamlCodec} {sys : System} {args : List String}
  {cl : CommandLine} {r : ProgArgs} {kubelet : KubeletFiles} {tmConf : TMConfig}

/-- The arguments hold what was given. -/
theorem loadArgs_given (hparse : parseCommandLine lib args = .ok cl)
    (hload : loadArgs lib codec sys args = .ok r) (hversion : cl.wantsVersion = false)
    (s : TMSetting) : s.ofArgs r.rte = s.given codec sys cl := by
  cases s with
  | policy =>
      refine (loadArgs_passes hparse hload hversion
        (by decide : Setting.topologyManagerPolicy ∈ envSettings)).trans ?_
      -- without a default the last pass changes nothing
      show orElse "" ((cl.flag .topologyManagerPolicy).getD
        (orElse "" _ ((nonEmpty _).getD ""))) "" = _
      rw [orElse_zero_right, nonEmpty_getD]
      rfl
  | scope =>
      refine (loadArgs_passes hparse hload hversion
        (by decide : Setting.topologyManagerScope ∈ envSettings)).trans ?_
      show orElse "" ((cl.flag .topologyManagerScope).getD
        (orElse "" _ ((nonEmpty _).getD ""))) "" = _
      rw [orElse_zero_right, nonEmpty_getD]
      rfl

/-- The path of the kubelet's file has a flag and a default, and no other source. -/
theorem loadArgs_kubeletConfigFile (hparse : parseCommandLine lib args = .ok cl)
    (hload : loadArgs lib codec sys args = .ok r) (hversion : cl.wantsVersion = false) :
    r.rte.kubeletConfigFile = (cl.flag .kubeletConfigFile).getD "/podresources/config.yaml" := by
  obtain ⟨paths, p₁, -, hfiles, hget⟩ := loadArgs_get hparse hload hversion
  obtain ⟨p', conf, hdaemon, -, rfl⟩ := fromFiles_ok hfiles
  refine (hget .kubeletConfigFile (by decide) (by decide)).trans ?_
  rw [get_setupArgsFromConfig, hdaemon.unbound (by decide) (by decide)]
  show orElse "" ((cl.flag .kubeletConfigFile).getD
    (orElse "" (orElse "" "/podresources/config.yaml" "") "")) "" = _
  rw [orElse_zero_right, orElse_zero_right, orElse_zero_right]

/-- Where the settings of the updater come from. -/
theorem settings_cases (hparse : parseCommandLine lib args = .ok cl)
    (hload : loadArgs lib codec sys args = .ok r) (hversion : cl.wantsVersion = false)
    (hsettings : getTopologyManagerSettings kubelet r.rte = .ok tmConf) :
    (∀ s : TMSetting, s.given codec sys cl ≠ "" ∧ s.ofConfig tmConf = s.given codec sys cl)
      ∨ (∃ s : TMSetting, s.given codec sys cl = "")
        ∧ ∃ klConfig, kubeletConfig kubelet cl = .ok klConfig
          ∧ ∀ s : TMSetting, s.ofConfig tmConf = s.ofKubelet klConfig := by
  have hgiven := loadArgs_given hparse hload hversion
  rcases getTopologyManagerSettings_ok hsettings with
    ⟨hpolicy, hscope, rfl⟩ | ⟨hnone, klConfig, hkl, rfl⟩
  · left
    intro s
    rw [← hgiven]
    cases s with
    | policy => exact ⟨hpolicy, rfl⟩
    | scope => exact ⟨hscope, rfl⟩
  · right
    rw [loadArgs_kubeletConfigFile hparse hload hversion] at hkl
    refine ⟨?_, klConfig, hkl, fun s => by cases s <;> rfl⟩
    rcases hnone with hnone | hnone
    · exact ⟨policy, (hgiven policy).symm.trans hnone⟩
    · exact ⟨scope, (hgiven scope).symm.trans hnone⟩

/-! ### What is published -/

/-- A value is the one that was given, or that of the kubelet if none was. -/
def Honoured (codec : YamlCodec) (sys : System) (kubelet : KubeletFiles) (cl : CommandLine)
    (s : TMSetting) (value : String) : Prop :=
  if s.given codec sys cl = "" then
    ∃ klConfig, kubeletConfig kubelet cl = .ok klConfig ∧ value = s.ofKubelet klConfig
  else value = s.given codec sys cl

/-- Every object that the updater writes ends with the two attributes, and both are
honoured. -/
def PublishesHonoured (codec : YamlCodec) (sys : System) (kubelet : KubeletFiles) (cl : CommandLine)
    (te : NRTUpdater) : Prop :=
  ∀ nodeGetter info nrt, ∃ policyValue scopeValue,
    (te.mutate nodeGetter info nrt).attributes
        = info.attributes ++ [⟨"topologyManagerScope", scopeValue⟩,
            ⟨"topologyManagerPolicy", policyValue⟩]
      ∧ Honoured codec sys kubelet cl policy policyValue
      ∧ Honoured codec sys kubelet cl scope scopeValue

theorem publishesHonoured_iff (patchLib : PatchLibrary) (updaterArgs : NRTUpdaterArgs) :
    PublishesHonoured codec sys kubelet cl (newNRTUpdater patchLib updaterArgs tmConf)
      ↔ ∀ s : TMSetting, Honoured codec sys kubelet cl s (s.ofConfig tmConf) := by
  have hattributes : ∀ nodeGetter info nrt,
      ((newNRTUpdater patchLib updaterArgs tmConf).mutate nodeGetter info nrt).attributes
        = info.attributes ++ [⟨"topologyManagerScope", tmConf.scope⟩,
            ⟨"topologyManagerPolicy", tmConf.policy⟩] := fun nodeGetter info nrt =>
    (NRTUpdater.published_mutate _ nodeGetter info nrt).attributes
  constructor
  · intro h
    obtain ⟨policyValue, scopeValue, heq, hpolicy, hscope⟩ := h (fun _ => .error .notConfigured)
      ⟨true, none, [], none⟩ (newNRTUpdater patchLib updaterArgs tmConf).freshNRT
    rw [hattributes] at heq
    obtain ⟨rfl, rfl⟩ : scopeValue = tmConf.scope ∧ policyValue = tmConf.policy := by
      simpa [eq_comm] using heq
    intro s
    cases s with
    | policy => exact hpolicy
    | scope => exact hscope
  · intro h nodeGetter info nrt
    exact ⟨tmConf.policy, tmConf.scope, hattributes nodeGetter info nrt, h policy, h scope⟩

/-- **When the settings of the topology manager are honoured**: a setting that was given
without the other one must be that of the kubelet. -/
theorem topology_manager_honoured_iff (patchLib : PatchLibrary)
    (hparse : parseCommandLine lib args = .ok cl)
    (hload : loadArgs lib codec sys args = .ok r) (hversion : cl.wantsVersion = false)
    (hsettings : getTopologyManagerSettings kubelet r.rte = .ok tmConf) :
    PublishesHonoured codec sys kubelet cl
        (newNRTUpdater patchLib r.nrtUpdater.toNRTUpdaterArgs tmConf)
      ↔ ∀ s : TMSetting, s.given codec sys cl ≠ "" → s.other.given codec sys cl = "" →
          ∀ klConfig, kubeletConfig kubelet cl = .ok klConfig →
            s.ofKubelet klConfig = s.given codec sys cl := by
  rw [publishesHonoured_iff]
  rcases settings_cases hparse hload hversion hsettings with
    hboth | ⟨⟨s₀, hnone⟩, klConfig, hkl, hconfig⟩
  · -- both were given, and both are used
    refine ⟨fun _ s _ hother => absurd hother (hboth s.other).1, fun _ s => ?_⟩
    rw [Honoured, if_neg (hboth s).1]
    exact (hboth s).2
  · -- one is missing, and both are those of the kubelet
    constructor
    · intro h s hs _ klConfig' hkl'
      obtain rfl := Except.ok.inj (hkl.symm.trans hkl')
      have hhonoured := h s
      rw [Honoured, if_neg hs] at hhonoured
      exact (hconfig s).symm.trans hhonoured
    · intro h s
      rw [Honoured]
      split_ifs with hs
      · exact ⟨klConfig, hkl, hconfig s⟩
      · -- the one that is missing is the other one
        have hother : s.other.given codec sys cl = "" := by
          have hne : s₀ ≠ s := by
            rintro rfl
            exact hs hnone
          cases s <;> cases s₀
          all_goals first | exact absurd rfl hne | exact hnone
        exact (hconfig s).trans (h s hs hother klConfig hkl)

end Load

/-- A kubelet without a policy, with containers as scope. -/
def plainKubelet : KubeletFiles where
  readFile := fun _ => .ok ""
  unmarshal := fun _ => .ok ⟨"none", "container"⟩

/-- Both flags were given: both values are published. -/
theorem topology_manager_honoured_both :
    ∃ cl r, loadArgs plainLibraries noCodec (bareSystem "" "")
        ["--topology-manager-policy=restricted", "--topology-manager-scope=pod"] = .ok r
      ∧ getTopologyManagerSettings plainKubelet r.rte = .ok ⟨"restricted", "pod"⟩
      ∧ PublishesHonoured noCodec (bareSystem "" "") plainKubelet cl
          (newNRTUpdater threeWayLibrary r.nrtUpdater.toNRTUpdaterArgs ⟨"restricted", "pod"⟩) := by
  obtain ⟨cl, hparse, hversion, hgiven⟩ : ∃ cl, parseCommandLine plainLibraries
      ["--topology-manager-policy=restricted", "--topology-manager-scope=pod"] = .ok cl
        ∧ cl.wantsVersion = false
        ∧ ∀ s : TMSetting, s.given noCodec (bareSystem "" "") cl ≠ "" := by
    refine ⟨_, rfl, rfl, fun s => ?_⟩
    cases s <;> decide
  obtain ⟨r, hload, hsettings⟩ : ∃ r, loadArgs plainLibraries noCodec (bareSystem "" "")
      ["--topology-manager-policy=restricted", "--topology-manager-scope=pod"] = .ok r
        ∧ getTopologyManagerSettings plainKubelet r.rte = .ok ⟨"restricted", "pod"⟩ := ⟨_, rfl, rfl⟩
  exact ⟨cl, r, hload, hsettings,
    (topology_manager_honoured_iff threeWayLibrary hparse hload hversion hsettings).mpr
      fun s _ hother => absurd hother (hgiven s.other)⟩

/-- Only the policy was given: what is published is the policy of the kubelet. -/
theorem policy_without_scope_ignored :
    ∃ cl r, parseCommandLine plainLibraries ["--topology-manager-policy=restricted"] = .ok cl
      ∧ policy.given noCodec (bareSystem "" "") cl = "restricted"
      ∧ loadArgs plainLibraries noCodec (bareSystem "" "") ["--topology-manager-policy=restricted"]
        = .ok r
      ∧ getTopologyManagerSettings plainKubelet r.rte = .ok ⟨"none", "container"⟩
      ∧ ⟨"topologyManagerPolicy", "none"⟩
        ∈ (newNRTUpdater threeWayLibrary r.nrtUpdater.toNRTUpdaterArgs
            ⟨"none", "container"⟩).makeAttributes :=
  ⟨_, _, rfl, rfl, rfl, rfl, by decide⟩

end TopologyExporter
