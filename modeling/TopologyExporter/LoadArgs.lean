/-
TopologyExporter/LoadArgs.lean

Where the configuration comes from: defaults, files, environment and flags, one after
the other (`config.go`, `flags.go`, `environ.go`).

The flags are parsed twice, and with the same result: the parser reads the table of
flags and the arguments, not the values that the flags point to.  A parsed command line
is therefore a value of its own, `CommandLine`, and `FromFlags` makes the assignments
that it lists.  The zero value of a field stands for a field that is not set:
`get_fromEnv` says that the environment fills exactly those.

`loadArgs_get` follows a field through all passes.  The parts of other libraries that
the parser and the validation call are parameters (`Libraries`).
-/
import TopologyExporter.ConfigFiles

namespace TopologyExporter

open GoMap GoString GoPanic Assignments

/-! ### Command lines -/

/-- A flag that `klog.InitFlags` defines. -/
structure KlogFlag where
  isBool : Bool
  set : String → Except String Unit

/-- Functions and constants of other libraries. -/
structure Libraries where
  /-- `strconv.ParseInt(s, 0, 64)`, with the error text of the flag library -/
  parseInt : String → Except String Int
  /-- `time.ParseDuration` -/
  parseDuration : String → Except String Int
  /-- `strings.ToLower` -/
  toLower : String → String
  klogFlag : String → Option KlogFlag
  /-- `podfingerprint.MethodAll` -/
  methodAll : String
  /-- `podfingerprint.MethodWithExclusiveResources` -/
  methodWithExclusiveResources : String

/-- What a flag points to: a field, one of the two variables of `FromFlags`, or the
settings of the logging library. -/
inductive FlagTarget
  | setting (s : Setting)
  | config
  | referenceContainer
  | klog (flag : KlogFlag)

/-- The flags that point to fields. -/
def flagBindings : List (String × Setting) :=
  [("debug", .debug), ("kubeconfig", .kubeConfig), ("no-publish", .noPublish),
   ("oneshot", .oneshot), ("hostname", .hostname), ("patch-mode", .patchMode),
   ("patch-resync", .patchResync), ("watch-namespace", .watchNamespace), ("sysfs", .sysfsRoot),
   ("pods-fingerprint", .podSetFingerprint), ("expose-timing", .exposeTiming),
   ("refresh-node-resources", .refreshNodeResources),
   ("pods-fingerprint-status-file", .podSetFingerprintStatusFile),
   ("exclude-terminal-pods", .excludeTerminalPods),
   ("pods-fingerprint-method", .podSetFingerprintMethod),
   ("topology-manager-policy", .topologyManagerPolicy),
   ("topology-manager-scope", .topologyManagerScope), ("sleep-interval", .sleepInterval),
   ("kubelet-config-file", .kubeletConfigFile), ("podresources-socket", .podResourcesSocketPath),
   ("podreadiness", .podReadinessEnable), ("add-nrt-owner", .addNRTOwnerEnable),
   ("metrics-mode", .metricsMode), ("metrics-port", .metricsPort), ("metrics-ip", .metricsAddress),
   ("metrics-certs-dir", .certsDir), ("metrics-cert-file", .certFile),
   ("metrics-key-file", .keyFile), ("metrics-want-cli-auth", .wantCliAuth),
   ("metrics-tls-min-version", .minTLSVersion), ("metrics-tls-cipher-suites", .cipherSuites),
   ("notify-file", .notifyFilePath), ("max-events-per-second", .maxEventsPerTimeUnit),
   ("version", .version), ("dump-config", .dumpConfig)]

/-- The flag of a name. -/
def lookupFlag (lib : Libraries) (name : String) : Option FlagTarget :=
  if name = "config" then some .config
  else if name = "reference-container" then some .referenceContainer
  else
    match flagBindings.lookup name with
    | some s => some (.setting s)
    | none => (lib.klogFlag name).map .klog

/-- `IsBoolFlag`. -/
def FlagTarget.isBool : FlagTarget → Bool
  | .setting s => s.kind = .bool
  | .klog flag => flag.isBool
  | _ => false

/-- `strconv.ParseBool`, with the error text of the flag library. -/
def parseBool (value : String) : Except String Bool :=
  if value ∈ ["1", "t", "T", "TRUE", "true", "True"] then .ok true
  else if value ∈ ["0", "f", "F", "FALSE", "false", "False"] then .ok false
  else .error "parse error"

/-- The `Set` methods of the flag values. -/
def Kind.parse (lib : Libraries) : (k : Kind) → String → Except String k.Val
  | .string, value => .ok value
  | .int, value => lib.parseInt value
  | .bool, value => parseBool value
  | .duration, value => lib.parseDuration value

/-- A parsed command line: the values of the flags, and the arguments after them. -/
structure CommandLine where
  assignments : List (Assignment Setting.Val)
  config : Option String
  referenceContainer : Option String
  params : List String

/-- The command line without flags. -/
def CommandLine.ofParams (params : List String) : CommandLine := ⟨[], none, none, params⟩

/-- The effect of one flag. -/
inductive FlagValue
  | setting (a : Assignment Setting.Val)
  | config (path : String)
  | referenceContainer (ident : String)
  | klog

/-- `flag.Value.Set`; `what` is the text in front of an error. -/
def FlagTarget.set (lib : Libraries) (what : String) (value : String) :
    FlagTarget → Except String FlagValue
  | .setting s => ((s.kind.parse lib value).map fun x => .setting ⟨s, x⟩).mapError (what ++ ": " ++ ·)
  | .config => .ok (.config value)
  | .referenceContainer => .ok (.referenceContainer value)
  | .klog flag => ((flag.set value).map fun _ => .klog).mapError (what ++ ": " ++ ·)

/-- A flag in front of those of `cl`; of two values for one flag the later one counts. -/
def CommandLine.add (cl : CommandLine) : FlagValue → CommandLine
  | .setting a => { cl with assignments := a :: cl.assignments }
  | .config path => { cl with config := cl.config.or (some path) }
  | .referenceContainer ident =>
      { cl with referenceContainer := cl.referenceContainer.or (some ident) }
  | .klog => cl

/-- The shapes of an argument that `parseOne` tells apart. -/
inductive ArgShape
  | param
  | terminator
  | malformed
  | flag (name : String) (value : Option String)

/-- A flag without its dashes.  The name may not start with a dash or an equals sign. -/
def splitFlag : List Char → ArgShape
  | [] => .malformed
  | c :: cs =>
      if c = '-' ∨ c = '=' then .malformed
      else
        let name := String.ofList (c :: cs.takeWhile (· ≠ '='))
        match cs.dropWhile (· ≠ '=') with
        | [] => .flag name none
        | _ :: value => .flag name (some (String.ofList value))

def argShape (s : String) : ArgShape :=
  match s.toList with
  | ['-', '-'] => .terminator
  | '-' :: '-' :: cs => splitFlag cs
  | '-' :: c :: cs => splitFlag (c :: cs)
  | _ => .param

/-- `CommandLine.Parse`.  A flag that waits for its value is kept in `pending`.  Values
are checked from the left; the parser exits the program at the first error. -/
def parseArgs (lib : Libraries) (pending : Option (String × FlagTarget)) :
    List String → Except String CommandLine
  | [] =>
      match pending with
      | none => .ok (CommandLine.ofParams [])
      | some (name, _) => .error ("flag needs an argument: -" ++ name)
  | s :: args =>
      match pending with
      | some (name, target) => do
          let v ← target.set lib ("invalid value " ++ quote s ++ " for flag -" ++ name) s
          pure ((← parseArgs lib none args).add v)
      | none =>
          match argShape s with
          | .param => .ok (CommandLine.ofParams (s :: args))
          | .terminator => .ok (CommandLine.ofParams args)
          | .malformed => .error ("bad flag syntax: " ++ s)
          | .flag name value =>
              match lookupFlag lib name, value with
              | none, _ =>
                  if name = "help" ∨ name = "h" then .error "flag: help requested"
                  else .error ("flag provided but not defined: -" ++ name)
              | some target, some value => do
                  let what := if target.isBool
                    then "invalid boolean value " ++ quote value ++ " for -" ++ name
                    else "invalid value " ++ quote value ++ " for flag -" ++ name
                  let v ← target.set lib what value
                  pure ((← parseArgs lib none args).add v)
              | some target, none =>
                  if target.isBool then do
                    let v ← target.set lib ("invalid boolean flag " ++ name) "true"
                    pure ((← parseArgs lib none args).add v)
                  else parseArgs lib (some (name, target)) args

/-- The command line of the program. -/
def parseCommandLine (lib : Libraries) (args : List String) : Except String CommandLine :=
  parseArgs lib none args

/-! ### Flags -/

/-- `DefaultConfigRoot`. -/
def defaultConfigRoot : String := "/etc/rte"

/-- `LegacyExtraConfigPath`. -/
def legacyExtraConfigPath : String := "/etc/resource-topology-exporter/config.yaml"

/-- `FixExtraConfigPath`. -/
def fixExtraConfigPath (configRoot : String) : String :=
  cleanPath (child (child configRoot "extra") "config.yaml")

/-- The configuration root and the path of the extra file. -/
def CommandLine.configPaths (cl : CommandLine) : Except String (String × String) :=
  match cl.params with
  | [] => .ok (defaultConfigRoot, cl.config.getD legacyExtraConfigPath)
  | [configRoot] => .ok (configRoot, fixExtraConfigPath configRoot)
  | params => .error ("too many config roots given (" ++ toString params.length
      ++ "), currently supported up to 1")

/-- The reference container after the flags. -/
def CommandLine.ident (cl : CommandLine) (current : Option ContainerIdent) :
    Except String (Option ContainerIdent) :=
  let refCnt := cl.referenceContainer.getD (ContainerIdent.string current)
  if refCnt = "" then .ok current else ContainerIdent.ofString refCnt

/-- `FromFlags`: the arguments and the configuration paths.  The defaults of the flags
are the values that the fields have already. -/
def fromFlags (lib : Libraries) (args : List String) (p : ProgArgs) :
    Except String (ProgArgs × String × String) := do
  let cl ← parseCommandLine lib args
  let p := p.assign cl.assignments
  if p.version then pure (p, defaultConfigRoot, legacyExtraConfigPath)
  else do
    let ident ← cl.ident p.rte.referenceContainer
    let paths ← cl.configPaths
    pure (p.setReferenceContainer ident, paths)

/-! ### Environment -/

/-- `os.Getenv`. -/
def getenv (sys : System) (name : String) : String := (sys.lookupEnv name).getD ""

/-- `PortFromEnv`. -/
def portFromEnv (sys : System) : Int :=
  match sys.lookupEnv "METRICS_PORT" with
  | none => 0
  | some envValue => (atoi envValue).toOption.getD 0

/-- `ContainerIdentFromEnv`. -/
def containerIdentFromEnv (sys : System) : Option ContainerIdent :=
  let cntIdent : ContainerIdent := ⟨getenv sys "REFERENCE_NAMESPACE",
    getenv sys "REFERENCE_POD_NAME", getenv sys "REFERENCE_CONTAINER_NAME"⟩
  if ContainerIdent.isEmpty (some cntIdent) then none else some cntIdent

/-- `FromEnv`. -/
def fromEnv (sys : System) (p : ProgArgs) : ProgArgs :=
  let p := p.fillEmpty .hostname (getenv sys "NODE_NAME")
  let p := p.fillEmpty .topologyManagerPolicy (getenv sys "TOPOLOGY_MANAGER_POLICY")
  let p := p.fillEmpty .topologyManagerScope (getenv sys "TOPOLOGY_MANAGER_SCOPE")
  let p := if ContainerIdent.isEmpty p.rte.referenceContainer
    then p.setReferenceContainer (containerIdentFromEnv sys) else p
  let p := p.fillEmpty .metricsPort (portFromEnv sys)
  let p := p.fillEmpty .metricsAddress (getenv sys "METRICS_ADDRESS")
  p.fillEmpty .podSetFingerprintStatusFile (getenv sys "PFP_STATUS_FILE")

/-! ### All passes -/

/-- `ServingModeIsSupported`. -/
def servingModeIsSupported (lib : Libraries) (value : String) : Except String String :=
  let val := lib.toLower value
  if val = "disabled" ∨ val = "http" ∨ val = "httptls" then .ok val
  else .error ("unsupported method  " ++ quote value)

/-- `PFPMethodIsSupported`. -/
def pfpMethodIsSupported (lib : Libraries) (value : String) : Except String String :=
  let val := lib.toLower value
  if val = lib.methodAll ∨ val = lib.methodWithExclusiveResources then .ok val
  else .error ("unsupported method  " ++ quote value)

/-- `Validate`. -/
def validate (lib : Libraries) (p : ProgArgs) : Except String ProgArgs := do
  let metricsMode ← servingModeIsSupported lib p.rte.metricsMode
  let p := p.set .metricsMode metricsMode
  let method ← pfpMethodIsSupported lib p.resourceMonitor.podSetFingerprintMethod
  pure (p.set .podSetFingerprintMethod method)

/-- `os.Hostname`, which gives an empty name next to an error. -/
def osHostname (sys : System) : String := sys.hostname.toOption.getD ""

/-- `Finalize`.  Its error is that of the log level, which `klog` always has; an error of
`os.Hostname` is overwritten by it. -/
def finalize (sys : System) (p : ProgArgs) : ProgArgs := p.fillEmpty .hostname (osHostname sys)

/-- The built-in defaults. -/
def defaultArgs (lib : Libraries) : ProgArgs :=
  setDefaults lib.methodWithExclusiveResources ProgArgs.zero

/-- `LoadArgs`.  The first pass over the flags works on a clone, of which three fields
are kept. -/
def loadArgs (lib : Libraries) (codec : YamlCodec) (sys : System) (args : List String) :
    Except String ProgArgs := do
  let p := defaultArgs lib
  let (tmp, configRoot, extraConfigPath) ← fromFlags lib args p.clone
  let p := { p with global := { p.global with debug := tmp.global.debug } }
  let p := { p with version := tmp.version, dumpConfig := tmp.dumpConfig }
  if p.version then pure p
  else do
    let p ← fromFiles codec sys configRoot extraConfigPath p
    let p := fromEnv sys p
    let (p, _, _) ← fromFlags lib args p
    let p ← validate lib p
    pure (finalize sys p)

/-! ### A field through the passes -/

section Fields

variable {lib : Libraries} {codec : YamlCodec} {sys : System} {args : List String}
  {cl : CommandLine} {p r : ProgArgs}

/-- The value that the command line gives a field. -/
def CommandLine.flag (cl : CommandLine) (s : Setting) : Option s.Val := last cl.assignments s

/-- The command line asks for the version of the program. -/
def CommandLine.wantsVersion (cl : CommandLine) : Bool := (cl.flag .version).getD false

/-- What the environment has for a field; nothing for most. -/
def envValue (sys : System) : (s : Setting) → s.Val
  | .hostname => getenv sys "NODE_NAME"
  | .topologyManagerPolicy => getenv sys "TOPOLOGY_MANAGER_POLICY"
  | .topologyManagerScope => getenv sys "TOPOLOGY_MANAGER_SCOPE"
  | .metricsPort => portFromEnv sys
  | .metricsAddress => getenv sys "METRICS_ADDRESS"
  | .podSetFingerprintStatusFile => getenv sys "PFP_STATUS_FILE"
  | s => s.kind.zero

/-- A pass over the flags makes the assignments of the command line, and gives its
paths.  The reference container is read, unless the version is asked for. -/
theorem fromFlags_ok {paths : String × String} (hparse : parseCommandLine lib args = .ok cl)
    (h : fromFlags lib args p = .ok (r, paths)) :
    (∃ ident, (ident = p.rte.referenceContainer ∨ cl.ident p.rte.referenceContainer = .ok ident)
        ∧ r = (p.assign cl.assignments).setReferenceContainer ident)
      ∧ (r.version = false → cl.configPaths = .ok paths) := by
  rw [fromFlags, hparse] at h
  by_cases hversion : (p.assign cl.assignments).version = true
  · have h' : (p.assign cl.assignments, defaultConfigRoot, legacyExtraConfigPath) = (r, paths) := by
      simpa [hversion, bind, Except.bind, pure, Except.pure] using h
    obtain ⟨rfl, -⟩ := Prod.mk.inj h'
    refine ⟨⟨_, Or.inl rfl, rfl⟩, fun hfalse => ?_⟩
    rw [hversion] at hfalse
    cases hfalse
  · obtain ⟨cl', hcl', h⟩ := bind_eq_ok_iff.mp h
    cases hcl'
    rw [if_neg hversion] at h
    obtain ⟨ident, hident, h⟩ := bind_eq_ok_iff.mp h
    obtain ⟨paths', hpaths, h⟩ := bind_eq_ok_iff.mp h
    cases h
    exact ⟨⟨ident, Or.inr hident, rfl⟩, fun _ => hpaths⟩

theorem fromFlags_get {paths : String × String} (hparse : parseCommandLine lib args = .ok cl)
    (h : fromFlags lib args p = .ok (r, paths)) (s : Setting) :
    r.get s = (cl.flag s).getD (p.get s) := by
  obtain ⟨⟨ident, -, rfl⟩, -⟩ := fromFlags_ok hparse h
  rw [ProgArgs.get_setReferenceContainer]
  exact ProgArgs.get_assign p cl.assignments s

/-- **The environment fills the fields that are zero.** -/
theorem get_fromEnv (sys : System) (p : ProgArgs) (s : Setting) :
    (fromEnv sys p).get s = orElse s.kind.zero (p.get s) (envValue sys s) := by
  have hident : ∀ (p : ProgArgs) (s : Setting),
      (if ContainerIdent.isEmpty p.rte.referenceContainer
        then p.setReferenceContainer (containerIdentFromEnv sys) else p).get s = p.get s := by
    intro p s
    split_ifs
    · exact ProgArgs.get_setReferenceContainer p _ s
    · rfl
  rw [fromEnv]
  cases s <;> simp +decide only [ProgArgs.get_fillEmpty_self, ProgArgs.get_fillEmpty_of_ne,
    hident, ne_eq, envValue, orElse_zero_right]

theorem validate_get (h : validate lib p = .ok r) {s : Setting} (hmode : s ≠ .metricsMode)
    (hmethod : s ≠ .podSetFingerprintMethod) : r.get s = p.get s := by
  obtain ⟨metricsMode, -, h⟩ := bind_eq_ok_iff.mp h
  obtain ⟨method, -, h⟩ := bind_eq_ok_iff.mp h
  cases h
  rw [ProgArgs.get_set_of_ne _ _ hmethod, ProgArgs.get_set_of_ne _ _ hmode]

/-- The defaults and what the first pass over the flags leaves of them. -/
def startArgs (lib : Libraries) (cl : CommandLine) : ProgArgs :=
  { defaultArgs lib with
    global := { (defaultArgs lib).global with debug := (cl.flag .debug).getD false }
    version := cl.wantsVersion
    dumpConfig := (cl.flag .dumpConfig).getD "" }

/-- **The passes of `LoadArgs`.**  It stops at the defaults if the version is asked for. -/
theorem loadArgs_ok (hparse : parseCommandLine lib args = .ok cl)
    (h : loadArgs lib codec sys args = .ok r) :
    cl.wantsVersion = true ∧ r = startArgs lib cl
      ∨ cl.wantsVersion = false ∧ ∃ paths p₁ p₂ paths' p₃, cl.configPaths = .ok paths
        ∧ fromFiles codec sys paths.1 paths.2 (startArgs lib cl) = .ok p₁
        ∧ fromFlags lib args (fromEnv sys p₁) = .ok (p₂, paths')
        ∧ validate lib p₂ = .ok p₃ ∧ r = finalize sys p₃ := by
  -- of the first pass over the flags only these fields and the paths are kept
  obtain ⟨⟨tmp, paths⟩, htmp, h⟩ := bind_eq_ok_iff.mp h
  have hdebug : tmp.global.debug = (cl.flag .debug).getD false := fromFlags_get hparse htmp .debug
  have hversion : tmp.version = cl.wantsVersion := fromFlags_get hparse htmp .version
  have hdump : tmp.dumpConfig = (cl.flag .dumpConfig).getD "" := fromFlags_get hparse htmp .dumpConfig
  obtain ⟨configRoot, extraConfigPath⟩ := paths
  simp only [hdebug, hversion, hdump] at h
  by_cases hwants : cl.wantsVersion = true
  · rw [if_pos hwants] at h
    cases h
    exact Or.inl ⟨hwants, rfl⟩
  · rw [if_neg hwants] at h
    rw [Bool.not_eq_true] at hwants
    obtain ⟨p₁, hfiles, h⟩ := bind_eq_ok_iff.mp h
    obtain ⟨⟨p₂, paths'⟩, hflags, h⟩ := bind_eq_ok_iff.mp h
    obtain ⟨p₃, hvalidate, h⟩ := bind_eq_ok_iff.mp h
    cases h
    exact Or.inr ⟨hwants, _, p₁, p₂, paths', p₃,
      (fromFlags_ok hparse htmp).2 (hversion.trans hwants), hfiles, hflags, hvalidate, rfl⟩

/-- What `Finalize` has for a field. -/
def fallbackValue (sys : System) : (s : Setting) → s.Val
  | .hostname => osHostname sys
  | s => s.kind.zero

theorem get_finalize (sys : System) (p : ProgArgs) (s : Setting) :
    (finalize sys p).get s = orElse s.kind.zero (p.get s) (fallbackValue sys s) := by
  rw [finalize]
  cases s <;> simp +decide only [ProgArgs.get_fillEmpty_self, ProgArgs.get_fillEmpty_of_ne, ne_eq,
    fallbackValue, orElse_zero_right]

/-- **A field through the passes after the files.** -/
theorem loadArgs_get (hparse : parseCommandLine lib args = .ok cl)
    (h : loadArgs lib codec sys args = .ok r) (hversion : cl.wantsVersion = false) :
    ∃ paths p₁, cl.configPaths = .ok paths
      ∧ fromFiles codec sys paths.1 paths.2 (startArgs lib cl) = .ok p₁
      ∧ ∀ s, s ≠ .metricsMode → s ≠ .podSetFingerprintMethod →
        r.get s = orElse s.kind.zero
          ((cl.flag s).getD (orElse s.kind.zero (p₁.get s) (envValue sys s)))
          (fallbackValue sys s) := by
  rcases loadArgs_ok hparse h with ⟨hwants, -⟩ | ⟨-, paths, p₁, p₂, paths', p₃, hpaths, hfiles, hflags,
    hvalidate, rfl⟩
  · rw [hversion] at hwants
    cases hwants
  · refine ⟨paths, p₁, hpaths, hfiles, fun s hmode hmethod => ?_⟩
    rw [get_finalize, validate_get hvalidate hmode hmethod, fromFlags_get hparse hflags, get_fromEnv]

end Fields

end TopologyExporter
