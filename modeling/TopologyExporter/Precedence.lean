/-
TopologyExporter/Precedence.lean

Flags over files over environment over defaults: how far `LoadArgs` keeps this order for
the settings that have an environment variable.

Every pass takes the zero value for an unset field.  The chain of passes is `passes` of
the library on assignments, and the order that it stands for is `precedence`; the two
differ where a source sets the zero value, and where a default is not zero: the
environment is not read then.  `load_precedence_iff` says that these are the only cases,
apart from a request for the version, which skips files, environment and flags.
-/
import TopologyExporter.LoadArgs

namespace TopologyExporter

open GoMap GoString Assignments

/-! ### The sources of a setting -/

/-- The settings that have an environment variable. -/
def envSettings : List Setting :=
  [.hostname, .topologyManagerPolicy, .topologyManagerScope, .metricsPort, .metricsAddress,
   .podSetFingerprintStatusFile]

/-- A variable that is set to the empty string counts as not set. -/
def nonEmpty (value : String) : Option String := if value = "" then none else some value

/-- The value of the environment variable of a setting: a text that is not empty, and
for the port a number. -/
def envSource (sys : System) : (s : Setting) → Option s.Val
  | .hostname => nonEmpty (getenv sys "NODE_NAME")
  | .topologyManagerPolicy => nonEmpty (getenv sys "TOPOLOGY_MANAGER_POLICY")
  | .topologyManagerScope => nonEmpty (getenv sys "TOPOLOGY_MANAGER_SCOPE")
  | .metricsPort => (sys.lookupEnv "METRICS_PORT").bind fun value => (atoi value).toOption
  | .metricsAddress => nonEmpty (getenv sys "METRICS_ADDRESS")
  | .podSetFingerprintStatusFile => nonEmpty (getenv sys "PFP_STATUS_FILE")
  | _ => none

/-- The files that belong to a command line: those of the daemon, and the extra file. -/
def configFiles (codec : YamlCodec) (sys : System) (cl : CommandLine) : List ConfMap × ExtraConfig :=
  match cl.configPaths with
  | .ok (configRoot, extraConfigPath) =>
      (daemonFiles codec sys configRoot,
        (readExtraConfig codec sys extraConfigPath).toOption.getD ⟨none, none, ∅, []⟩)
  | .error _ => ([], ⟨none, none, ∅, []⟩)

/-- The value of a setting in the last file that sets it.  The topology manager is
configured in the extra file, the rest in the files of the daemon. -/
def fileSource (files : List ConfMap × ExtraConfig) : (s : Setting) → Option s.Val
  | .hostname => lastFileValue files.1 "nrtUpdater.hostname" .hostname
  | .topologyManagerPolicy => files.2.topologyManagerPolicy
  | .topologyManagerScope => files.2.topologyManagerScope
  | .metricsPort => lastFileValue files.1 "topologyExporter.metricsPort" .metricsPort
  | .metricsAddress => lastFileValue files.1 "topologyExporter.MetricsAddress" .metricsAddress
  | .podSetFingerprintStatusFile =>
      lastFileValue files.1 "resourceMonitor.podSetFingerprintStatusFile" .podSetFingerprintStatusFile
  | _ => none

theorem mem_envSettings {s : Setting} (h : s ∈ envSettings) :
    s = .hostname ∨ s = .topologyManagerPolicy ∨ s = .topologyManagerScope ∨ s = .metricsPort
      ∨ s = .metricsAddress ∨ s = .podSetFingerprintStatusFile := by
  simpa [envSettings] using h

section Load

variable {lib : Libraries} {codec : YamlCodec} {sys : System} {args : List String}
  {cl : CommandLine} {r : ProgArgs}

/-- The value that the order of the sources gives a setting.  The built-in host name is
that of the operating system. -/
def sourced (lib : Libraries) (codec : YamlCodec) (sys : System) (cl : CommandLine)
    (s : Setting) : s.Val :=
  precedence s.kind.zero ((defaultArgs lib).get s) (fallbackValue sys s) (cl.flag s)
    (fileSource (configFiles codec sys cl) s) (envSource sys s)

/-! ### What the passes see of the sources -/

theorem nonEmpty_getD (value : String) : (nonEmpty value).getD "" = value := by
  rw [nonEmpty]
  split_ifs with h
  · exact h.symm
  · rfl

theorem nonEmpty_ne (value : String) : nonEmpty value ≠ some "" := by
  rw [nonEmpty]
  split_ifs with h
  · exact Option.some_ne_none "" |>.symm
  · intro heq
    exact h (Option.some.inj heq)

/-- The environment pass reads the variable, or zero. -/
theorem envValue_eq (sys : System) (s : Setting) :
    envValue sys s = (envSource sys s).getD s.kind.zero := by
  cases s with
  | hostname => exact (nonEmpty_getD _).symm
  | topologyManagerPolicy => exact (nonEmpty_getD _).symm
  | topologyManagerScope => exact (nonEmpty_getD _).symm
  | metricsAddress => exact (nonEmpty_getD _).symm
  | podSetFingerprintStatusFile => exact (nonEmpty_getD _).symm
  | metricsPort =>
      show portFromEnv sys = _
      rw [portFromEnv, envSource]
      rcases sys.lookupEnv "METRICS_PORT" with - | value
      · rfl
      · rfl
  | _ => rfl

/-- Only the port can be set to zero by its variable, and its default is another one. -/
theorem envSource_ne_zero (lib : Libraries) (sys : System) (s : Setting)
    (h : envSource sys s = some s.kind.zero) : (defaultArgs lib).get s ≠ s.kind.zero := by
  cases s with
  | hostname => exact absurd h (nonEmpty_ne _)
  | topologyManagerPolicy => exact absurd h (nonEmpty_ne _)
  | topologyManagerScope => exact absurd h (nonEmpty_ne _)
  | metricsAddress => exact absurd h (nonEmpty_ne _)
  | podSetFingerprintStatusFile => exact absurd h (nonEmpty_ne _)
  | metricsPort =>
      show (2112 : Int) ≠ 0
      decide
  | _ => cases h

/-- The pass over the files: the last file that sets a setting, or the default. -/
theorem fromFiles_get {paths : String × String} {p₁ : ProgArgs} (hpaths : cl.configPaths = .ok paths)
    (h : fromFiles codec sys paths.1 paths.2 (startArgs lib cl) = .ok p₁) {s : Setting}
    (hs : s ∈ envSettings) :
    p₁.get s = (fileSource (configFiles codec sys cl) s).getD ((defaultArgs lib).get s) := by
  obtain ⟨p', conf, hdaemon, hconf, rfl⟩ := fromFiles_ok h
  have hfiles : configFiles codec sys cl = (daemonFiles codec sys paths.1, conf) := by
    rw [configFiles, hpaths]
    show (_, (readExtraConfig codec sys paths.2).toOption.getD _) = _
    rw [hconf]
    rfl
  -- a field that a key is bound to, and that the extra file does not know
  have hbound : ∀ {key : String} {s : Setting}, (key, s) ∈ confBindings → conf.value s = none →
      (setupArgsFromConfig p' conf).get s
        = (lastFileValue (daemonFiles codec sys paths.1) key s).getD ((startArgs lib cl).get s) := by
    intro key s hb hnone
    rw [get_setupArgsFromConfig, hnone, Option.getD_none, orElse_zero_right]
    exact hdaemon.bound hb
  -- a field of the extra file, which is empty before it is read
  have hextra : ∀ {s : Setting}, s ∉ confBindings.map Prod.snd → s ≠ .maxEventsPerTimeUnit →
      (startArgs lib cl).get s = s.kind.zero →
      (setupArgsFromConfig p' conf).get s = (conf.value s).getD s.kind.zero := by
    intro s hnot hmax hzero
    rw [get_setupArgsFromConfig, hdaemon.unbound hnot hmax, hzero, orElse_zero_left]
  rw [hfiles]
  rcases mem_envSettings hs with rfl | rfl | rfl | rfl | rfl | rfl
  · exact hbound (by decide) rfl
  · exact hextra (by decide) (by decide) rfl
  · exact hextra (by decide) (by decide) rfl
  · exact hbound (by decide) rfl
  · exact hbound (by decide) rfl
  · exact hbound (by decide) rfl

/-- The passes over a setting with an environment variable. -/
theorem loadArgs_passes (hparse : parseCommandLine lib args = .ok cl)
    (h : loadArgs lib codec sys args = .ok r) (hversion : cl.wantsVersion = false) {s : Setting}
    (hs : s ∈ envSettings) :
    r.get s = passes s.kind.zero ((defaultArgs lib).get s) (fallbackValue sys s) (cl.flag s)
      (fileSource (configFiles codec sys cl) s) (envSource sys s) := by
  obtain ⟨paths, p₁, hpaths, hfiles, hget⟩ := loadArgs_get hparse h hversion
  have hmode : s ≠ .metricsMode := by
    rintro rfl
    exact absurd hs (by decide)
  have hmethod : s ≠ .podSetFingerprintMethod := by
    rintro rfl
    exact absurd hs (by decide)
  rw [hget s hmode hmethod, fromFiles_get hpaths hfiles hs, envValue_eq, passes]

/-- With a request for the version the settings stay at their defaults. -/
theorem loadArgs_wantsVersion (hparse : parseCommandLine lib args = .ok cl)
    (h : loadArgs lib codec sys args = .ok r) (hversion : cl.wantsVersion = true) {s : Setting}
    (hs : s ∈ envSettings) : r.get s = (defaultArgs lib).get s := by
  rcases loadArgs_ok hparse h with ⟨-, rfl⟩ | ⟨hfalse, -⟩
  · rcases mem_envSettings hs with rfl | rfl | rfl | rfl | rfl | rfl <;> rfl
  · rw [hversion] at hfalse
    cases hfalse

/-! ### Precedence -/

/-- The sources of a setting are such that their order is kept. -/
def OrderKept (lib : Libraries) (codec : YamlCodec) (sys : System) (cl : CommandLine)
    (s : Setting) : Prop :=
  if cl.wantsVersion then sourced lib codec sys cl s = (defaultArgs lib).get s
  else PassesKeep s.kind.zero ((defaultArgs lib).get s) (fallbackValue sys s) (cl.flag s)
    (fileSource (configFiles codec sys cl) s) (envSource sys s)

instance (lib : Libraries) (codec : YamlCodec) (sys : System) (cl : CommandLine) (s : Setting) :
    Decidable (OrderKept lib codec sys cl s) := by
  unfold OrderKept; infer_instance

/-- **Flags over files over environment over defaults**, for every command line that is
accepted: exactly if no source sets the zero value in front of a source with another
value, and the environment sets nothing that has a default other than zero. -/
theorem load_precedence_iff (hparse : parseCommandLine lib args = .ok cl)
    (hload : loadArgs lib codec sys args = .ok r) :
    (∀ s ∈ envSettings, r.get s = sourced lib codec sys cl s)
      ↔ ∀ s ∈ envSettings, OrderKept lib codec sys cl s := by
  refine forall₂_congr fun s hs => ?_
  rw [OrderKept]
  split_ifs with hversion
  · rw [loadArgs_wantsVersion hparse hload hversion hs]
    exact eq_comm
  · rw [loadArgs_passes hparse hload (Bool.not_eq_true _ ▸ hversion) hs]
    exact passes_eq_iff (envSource_ne_zero lib sys s)

end Load

/-! ### A host without files -/

/-- Libraries that know the decimal numbers and no flags of `klog`. -/
def plainLibraries : Libraries where
  parseInt := atoi
  parseDuration _ := .error "parse error"
  toLower value := value
  klogFlag _ := none
  methodAll := "all"
  methodWithExclusiveResources := "with-exclusive-resources"

/-- A host with one environment variable and no configuration files. -/
def bareSystem (name value : String) : System where
  lookupEnv name' := if name' = name then some value else none
  hostname := .ok "localhost"
  uid := 0
  evalSymlinks path := .ok path
  readFile _ := .error .notExist
  readDir _ := .error .notExist

/-- No file is decoded. -/
def noCodec : YamlCodec where
  unmarshal _ := .error "no text"
  unmarshalExtra _ := .error "no text"
  flatten := flatConf
  flattens := flattens_flatConf

/-- The command line `--metrics-port=9100`. -/
def portCommandLine : CommandLine := ⟨[⟨.metricsPort, (9100 : Int)⟩], none, none, []⟩

/-- The name of the node comes from the environment, the port from its flag. -/
theorem load_precedence_node_name :
    parseCommandLine plainLibraries ["--metrics-port=9100"] = .ok portCommandLine
      ∧ ∃ r, loadArgs plainLibraries noCodec (bareSystem "NODE_NAME" "worker-0")
          ["--metrics-port=9100"] = .ok r
        ∧ ∀ s ∈ envSettings, r.get s
          = sourced plainLibraries noCodec (bareSystem "NODE_NAME" "worker-0") portCommandLine s := by
  have hparse : parseCommandLine plainLibraries ["--metrics-port=9100"] = .ok portCommandLine := rfl
  obtain ⟨r, hload⟩ : ∃ r, loadArgs plainLibraries noCodec (bareSystem "NODE_NAME" "worker-0")
      ["--metrics-port=9100"] = .ok r := ⟨_, rfl⟩
  refine ⟨hparse, r, hload, (load_precedence_iff hparse hload).mpr ?_⟩
  intro s hs
  rcases mem_envSettings hs with rfl | rfl | rfl | rfl | rfl | rfl
  all_goals decide +kernel

/-- The port of the metrics server has a default: its variable is not read. -/
theorem load_ignores_metrics_port :
    parseCommandLine plainLibraries [] = .ok (CommandLine.ofParams [])
      ∧ ∃ r, loadArgs plainLibraries noCodec (bareSystem "METRICS_PORT" "9999") [] = .ok r
        ∧ r.get .metricsPort = (2112 : Int)
        ∧ sourced plainLibraries noCodec (bareSystem "METRICS_PORT" "9999")
          (CommandLine.ofParams []) .metricsPort = (9999 : Int) := by
  refine ⟨rfl, _, rfl, ?_, ?_⟩
  · decide +kernel
  · decide +kernel

end TopologyExporter
