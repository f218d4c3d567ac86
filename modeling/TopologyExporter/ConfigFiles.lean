/-
TopologyExporter/ConfigFiles.lean

The configuration files: which paths may be read, how the daemon's files are
flattened, merged and dispatched to the fields of `ProgArgs`, and what the extra file
adds (`validation.go`, `cfgfile.go`, `cfgdispatch.go`).

A daemon file is decoded to nested maps, flattened to a map from dotted keys to
values (`Flattens`), and written over what the files before it have set.  `dispatchConfObj` then
looks up one key for each bound field: the map is read as a list of assignments
(`readBindings`), and `dispatchConfObj_get` says what each field holds afterwards.

The libraries that decode the text of a file and flatten it are parameters
(`YamlCodec`).
-/
import TopologyExporter.ProgArgs
import TopologyExporter.Sysinfo

namespace TopologyExporter

open GoMap GoString GoPanic Assignments

/-! ### Decoded values -/

/-- The values at the leaves of a decoded file.  All numbers are `float64`. -/
inductive ConfValue
  | string (s : String)
  | float64 (q : Rat)
  | bool (b : Bool)
  | nil
  deriving DecidableEq, Repr

/-- The text of `%T`. -/
def ConfValue.typeName : ConfValue → String
  | .string _ => "string"
  | .float64 _ => "float64"
  | .bool _ => "bool"
  | .nil => "<nil>"

/-- A decoded file: maps and slices over leaves.  The members of a map are listed in the
order in which `range` visits them. -/
inductive Yaml
  | leaf (v : ConfValue)
  | map (members : List (String × Yaml))
  | slice (items : List Yaml)

/-- `enkey` of the flatten library, in dot style; at the top there is no path yet. -/
def enkey (path : Option String) (subkey : String) : String :=
  match path with
  | none => subkey
  | some path => path ++ "." ++ subkey

mutual

/-- The leaves of a value, with their dotted keys. -/
def Yaml.flatten (key : String) : Yaml → List (String × ConfValue)
  | .leaf v => [(key, v)]
  | .map members => flattenMembers (some key) members
  | .slice items => flattenItems key 0 items

/-- The leaves below the members of a map. -/
def flattenMembers (path : Option String) : List (String × Yaml) → List (String × ConfValue)
  | [] => []
  | (subkey, y) :: members => y.flatten (enkey path subkey) ++ flattenMembers path members

/-- The items of a slice are numbered. -/
def flattenItems (path : String) (i : Nat) : List Yaml → List (String × ConfValue)
  | [] => []
  | y :: items => y.flatten (enkey (some path) (toString i)) ++ flattenItems path (i + 1) items

end

/-- A flattened file. -/
abbrev ConfMap := GoMap String ConfValue

/-- What is asked of `flatten.Flatten`, in dot style: under each key there is a leaf that has it
as its dotted key, if there is one.  Which of several leaves with the same key that is depends on
the order in which the maps are visited. -/
def Flattens (flatten : List (String × Yaml) → ConfMap) : Prop :=
  ∀ members key,
    (∃ v, (key, v) ∈ flattenMembers none members ∧ (flatten members).lookup key = some v)
      ∨ (∀ v, (key, v) ∉ flattenMembers none members) ∧ (flatten members).lookup key = none

/-- The leaves are stored one after the other. -/
def flatConf (members : List (String × Yaml)) : ConfMap :=
  (flattenMembers none members).foldl (fun flat e => flat.insert e.1 e.2) ∅

theorem flattens_flatConf : Flattens flatConf := fun members key =>
  lookup_foldl_insert_cases (flattenMembers none members) ∅ key

/-- `mergeConfObj`. -/
def mergeConfObj (obj upd : ConfMap) : ConfMap := upd ∪ obj

/-- The flat maps of several files, merged one over the other. -/
def mergeAll (confs : List ConfMap) : ConfMap := confs.foldl mergeConfObj ∅

/-- The value that the last of the files to set a key gives it. -/
def lastConf (confs : List ConfMap) (key : String) : Option ConfValue :=
  confs.reverse.findSome? fun conf => conf.lookup key

theorem lookup_mergeAll (confs : List ConfMap) (key : String) :
    (mergeAll confs).lookup key = lastConf confs key := by
  have hfold : ∀ (l : List ConfMap) (obj : ConfMap),
      (l.foldl mergeConfObj obj).lookup key
        = (l.reverse.findSome? fun conf => conf.lookup key).or (obj.lookup key) := by
    intro l
    induction l with
    | nil => intro obj; rfl
    | cons conf l ih =>
        intro obj
        have hone : ([conf].findSome? fun conf => conf.lookup key) = conf.lookup key := by
          rw [List.findSome?_cons]
          rcases conf.lookup key with - | v <;> rfl
        rw [List.foldl_cons, ih, mergeConfObj, lookup_union_eq, List.reverse_cons,
          List.findSome?_append, hone, Option.or_assoc]
  rw [mergeAll, hfold, lastConf, Finmap.lookup_empty, Option.or_none]

/-! ### Dispatch -/

/-- `int(j)` and `time.Duration(j)`: the fraction is dropped.  Outside the range of an `int64` the
language leaves the result open; on amd64, for which the exporter is built, it is the least
`int64`. -/
def truncate (q : Rat) : Int :=
  let n := q.num.tdiv q.den
  if GoInt.InRange n then n else -2 ^ 63

theorem truncate_inRange (q : Rat) : GoInt.InRange (truncate q) := by
  rw [truncate]
  split_ifs with h
  · exact h
  · decide

theorem truncate_intCast (n : Int) : truncate (n : Rat) = if GoInt.InRange n then n else -2 ^ 63 := by
  rw [truncate, Rat.num_intCast, Rat.den_intCast, Int.natCast_one, Int.tdiv_one]

/-- The type assertions of `configMap`, one for each type of variable. -/
def Kind.read (key : String) : (k : Kind) → ConfValue → Except String k.Val
  | .string, .string s => .ok s
  | .int, .float64 q => .ok (truncate q)
  | .bool, .bool b => .ok b
  | .duration, .float64 q => .ok (truncate q)
  | .string, v => .error ("key " ++ quote key ++ " has non-string value " ++ v.typeName)
  | .bool, v => .error ("key " ++ quote key ++ " has non-bool value " ++ v.typeName)
  | .int, v => .error ("key " ++ quote key ++ " has non-float64 value representation " ++ v.typeName)
  | .duration, v =>
      .error ("key " ++ quote key ++ " has non-float64 value representation " ++ v.typeName)

/-- The value is one of its Go type: `int` and `time.Duration` have 64 bits. -/
def Kind.Fits : (k : Kind) → k.Val → Prop
  | .string, _ => True
  | .int, n => GoInt.InRange n
  | .bool, _ => True
  | .duration, n => GoInt.InRange n

theorem Kind.fits_zero (k : Kind) : k.Fits k.zero := by
  cases k with
  | string => trivial
  | int => exact (by decide : GoInt.InRange 0)
  | bool => trivial
  | duration => exact (by decide : GoInt.InRange 0)

theorem Kind.fits_of_read {key : String} {k : Kind} {v : ConfValue} {x : k.Val}
    (h : k.read key v = .ok x) : k.Fits x := by
  cases k with
  | string => trivial
  | bool => trivial
  | int =>
      cases v with
      | float64 q =>
          obtain rfl := Except.ok.inj h
          exact truncate_inRange q
      | string s => cases h
      | bool b => cases h
      | nil => cases h
  | duration =>
      cases v with
      | float64 q =>
          obtain rfl := Except.ok.inj h
          exact truncate_inRange q
      | string s => cases h
      | bool b => cases h
      | nil => cases h

/-- The table of `dispatchConfObj`. -/
def confBindings : List (String × Setting) :=
  [("global.debug", .debug),
   ("global.verbose", .verbose),
   ("global.kubeconfig", .kubeConfig),
   ("nrtUpdater.noPublish", .noPublish),
   ("nrtUpdater.oneShot", .oneshot),
   ("nrtUpdater.hostname", .hostname),
   ("nrtUpdater.patchMode", .patchMode),
   ("nrtUpdater.patchResync", .patchResync),
   ("resourceMonitor.namespace", .watchNamespace),
   ("resourceMonitor.sysfsRoot", .sysfsRoot),
   ("resourceMonitor.refreshNodeResources", .refreshNodeResources),
   ("resourceMonitor.podSetFingerprint", .podSetFingerprint),
   ("resourceMonitor.podSetFingerprintMethod", .podSetFingerprintMethod),
   ("resourceMonitor.exposeTiming", .exposeTiming),
   ("resourceMonitor.podSetFingerprintStatusFile", .podSetFingerprintStatusFile),
   ("resourceMonitor.excludeTerminalPods", .excludeTerminalPods),
   ("topologyExporter.podResourcesSocketPath", .podResourcesSocketPath),
   ("topologyExporter.sleepInterval", .sleepInterval),
   ("topologyExporter.podReadinessEnable", .podReadinessEnable),
   ("topologyExporter.notifyFilePath", .notifyFilePath),
   ("topologyExporter.timeUnitToLimitEvents", .timeUnitToLimitEvents),
   ("topologyExporter.addNRTOwnerEnable", .addNRTOwnerEnable),
   ("topologyExporter.metricsMode", .metricsMode),
   ("topologyExporter.metricsPort", .metricsPort),
   ("topologyExporter.MetricsAddress", .metricsAddress),
   ("topologyExporter.metricsTLS.certsDir", .certsDir),
   ("topologyExporter.metricsTLS.certFile", .certFile),
   ("topologyExporter.metricsTLS.keyFile", .keyFile),
   ("topologyExporter.metricsTLS.wantCliAuth", .wantCliAuth),
   ("topologyExporter.metricsTLS.minTLSVersion", .minTLSVersion),
   ("topologyExporter.metricsTLS.cipherSuites", .cipherSuites)]

/-- `cm.Value`, for each binding in turn: the assignments that the map makes. -/
def readBindings (cm : ConfMap) :
    List (String × Setting) → Except String (List (Assignment Setting.Val))
  | [] => .ok []
  | (key, s) :: bindings =>
      match cm.lookup key with
      | none => readBindings cm bindings
      | some v => do
          let x ← s.kind.read key v
          let rest ← readBindings cm bindings
          pure (⟨s, x⟩ :: rest)

/-- A variable that is not a field, with its initial value. -/
def readLocal (cm : ConfMap) (k : Kind) (key : String) (init : k.Val) : Except String k.Val :=
  match cm.lookup key with
  | none => .ok init
  | some v => k.read key v

/-- `dispatchConfObj`. -/
def dispatchConfObj (cm : ConfMap) (p : ProgArgs) : Except String ProgArgs := do
  let assignments ← readBindings cm confBindings
  let refCnt ← readLocal cm .string "topologyExporter.referenceContainer" ""
  let ident ← ContainerIdent.ofString refCnt
  let maxEventsPerTimeUnit ← readLocal cm .int "topologyExporter.maxEventPerTimeUnit" (-1 : Int)
  let p := (p.assign assignments).setReferenceContainer ident
  -- the initial value stands for a missing key
  pure (if maxEventsPerTimeUnit ≠ -1 then p.set .maxEventsPerTimeUnit maxEventsPerTimeUnit else p)

/-! ### What a dispatch sets -/

/-- The value that a map has for a field under its key. -/
def boundValue (cm : ConfMap) (key : String) (s : Setting) : Option s.Val :=
  (cm.lookup key).bind fun v => (s.kind.read key v).toOption

section Bindings

variable {cm : ConfMap} {bindings : List (String × Setting)} {l : List (Assignment Setting.Val)}

/-- A binding whose key is in the map adds one assignment. -/
theorem readBindings_cons_some {key : String} {s : Setting} {v : ConfValue}
    (hv : cm.lookup key = some v) (h : readBindings cm ((key, s) :: bindings) = .ok l) :
    ∃ x rest, s.kind.read key v = .ok x ∧ readBindings cm bindings = .ok rest
      ∧ l = ⟨s, x⟩ :: rest := by
  rw [readBindings, hv] at h
  rcases hx : s.kind.read key v with err | x
  · simp only [hx] at h
    cases h
  · rcases hrest : readBindings cm bindings with err | rest
    · simp only [hx, hrest] at h
      cases h
    · simp only [hx, hrest] at h
      cases h
      exact ⟨x, rest, rfl, rfl, rfl⟩

theorem readBindings_cons_none {key : String} {s : Setting} (hv : cm.lookup key = none) :
    readBindings cm ((key, s) :: bindings) = readBindings cm bindings := by
  rw [readBindings, hv]

/-- Only bound fields are assigned. -/
theorem last_readBindings_of_notMem (h : readBindings cm bindings = .ok l) {s : Setting}
    (hs : s ∉ bindings.map Prod.snd) : last l s = none := by
  induction bindings generalizing l with
  | nil =>
      cases h
      rfl
  | cons b bindings ih =>
      obtain ⟨key, s'⟩ := b
      rw [List.map_cons, List.mem_cons, not_or] at hs
      rcases hv : cm.lookup key with - | v
      · rw [readBindings_cons_none hv] at h
        exact ih h hs.2
      · obtain ⟨x, rest, -, hrest, rfl⟩ := readBindings_cons_some hv h
        rw [last, ih hrest hs.2, value?_of_ne (Ne.symm hs.1)]
        rfl

/-- A bound field is assigned the value under its key. -/
theorem last_readBindings (hnodup : (bindings.map Prod.snd).Nodup)
    (h : readBindings cm bindings = .ok l) {key : String} {s : Setting}
    (hb : (key, s) ∈ bindings) : last l s = boundValue cm key s := by
  induction bindings generalizing l with
  | nil => cases hb
  | cons b bindings ih =>
      obtain ⟨key', s'⟩ := b
      rw [List.map_cons, List.nodup_cons] at hnodup
      rcases hv : cm.lookup key' with - | v
      · rw [readBindings_cons_none hv] at h
        rcases List.mem_cons.mp hb with heq | hb
        · obtain ⟨rfl, rfl⟩ := Prod.mk.inj heq
          rw [last_readBindings_of_notMem h hnodup.1, boundValue, hv]
          rfl
        · exact ih hnodup.2 h hb
      · obtain ⟨x, rest, hx, hrest, rfl⟩ := readBindings_cons_some hv h
        rcases List.mem_cons.mp hb with heq | hb
        · obtain ⟨rfl, rfl⟩ := Prod.mk.inj heq
          rw [last, last_readBindings_of_notMem hrest hnodup.1, boundValue, hv, Option.bind_some, hx]
          exact value?_self _
        · have hne : s' ≠ s := by
            rintro rfl
            exact hnodup.1 (List.mem_map.mpr ⟨(key, s'), hb, rfl⟩)
          rw [last, ih hnodup.2 hrest hb, value?_of_ne hne, Option.or_none]

/-- The bindings can be read if each value is of the type of its field. -/
theorem readBindings_isOk (h : ∀ b ∈ bindings, ∀ v, cm.lookup b.1 = some v →
    ∃ x, b.2.kind.read b.1 v = .ok x) : ∃ l, readBindings cm bindings = .ok l := by
  induction bindings with
  | nil => exact ⟨[], rfl⟩
  | cons b bindings ih =>
      obtain ⟨key, s⟩ := b
      obtain ⟨rest, hrest⟩ := ih fun b hb => h b (List.mem_cons_of_mem _ hb)
      rcases hv : cm.lookup key with - | v
      · exact ⟨rest, by rw [readBindings_cons_none hv, hrest]⟩
      · obtain ⟨x, hx⟩ := h (key, s) List.mem_cons_self v hv
        simp only at hx
        exact ⟨⟨s, x⟩ :: rest, by simp only [readBindings, hv, hx, hrest]; rfl⟩

/-- Conversely, the values that are read are of these types. -/
theorem read_of_readBindings (h : readBindings cm bindings = .ok l) {b : String × Setting}
    (hb : b ∈ bindings) {v : ConfValue} (hv : cm.lookup b.1 = some v) :
    ∃ x, b.2.kind.read b.1 v = .ok x := by
  induction bindings generalizing l with
  | nil => cases hb
  | cons b' bindings ih =>
      obtain ⟨key, s⟩ := b'
      rcases hv' : cm.lookup key with - | v'
      · rw [readBindings_cons_none hv'] at h
        rcases List.mem_cons.mp hb with rfl | hb
        · rw [hv'] at hv
          cases hv
        · exact ih h hb
      · obtain ⟨x, rest, hx, hrest, -⟩ := readBindings_cons_some hv' h
        rcases List.mem_cons.mp hb with rfl | hb
        · obtain rfl := Option.some.inj (hv'.symm.trans hv)
          exact ⟨x, hx⟩
        · exact ih hrest hb

end Bindings

/-- A dispatch that succeeds, step by step. -/
theorem dispatchConfObj_ok_iff {cm : ConfMap} {p r : ProgArgs} :
    dispatchConfObj cm p = .ok r
      ↔ ∃ assignments, readBindings cm confBindings = .ok assignments
        ∧ ∃ refCnt, readLocal cm .string "topologyExporter.referenceContainer" "" = .ok refCnt
        ∧ ∃ ident, ContainerIdent.ofString refCnt = .ok ident
        ∧ ∃ maxEvents, readLocal cm .int "topologyExporter.maxEventPerTimeUnit" (-1 : Int)
            = .ok maxEvents
        ∧ (if maxEvents ≠ -1 then
              ((p.assign assignments).setReferenceContainer ident).set .maxEventsPerTimeUnit maxEvents
            else (p.assign assignments).setReferenceContainer ident) = r := by
  simp only [dispatchConfObj, bind_eq_ok_iff, pure, Except.pure, Except.ok.injEq]

/-- The fields of a dispatch other than `MaxEventsPerTimeUnit`. -/
theorem dispatchConfObj_get_assign {cm : ConfMap} {p r : ProgArgs}
    (h : dispatchConfObj cm p = .ok r) {s : Setting} (hs : s ≠ .maxEventsPerTimeUnit) :
    ∃ assignments, readBindings cm confBindings = .ok assignments
      ∧ r.get s = (last assignments s).getD (p.get s) := by
  obtain ⟨assignments, hread, refCnt, -, ident, -, maxEvents, -, rfl⟩ := dispatchConfObj_ok_iff.mp h
  refine ⟨assignments, hread, ?_⟩
  split_ifs
  · rw [ProgArgs.get_set_of_ne _ _ hs, ProgArgs.get_setReferenceContainer, ProgArgs.get_assign]
  · rw [ProgArgs.get_setReferenceContainer, ProgArgs.get_assign]

theorem nodup_confBindings : (confBindings.map Prod.snd).Nodup := by decide

/-- **A bound field takes the value under its key, if there is one.** -/
theorem dispatchConfObj_get {cm : ConfMap} {p r : ProgArgs} (h : dispatchConfObj cm p = .ok r)
    {key : String} {s : Setting} (hb : (key, s) ∈ confBindings) :
    r.get s = (boundValue cm key s).getD (p.get s) := by
  have hs : s ≠ .maxEventsPerTimeUnit := by
    rintro rfl
    have hmem : Setting.maxEventsPerTimeUnit ∈ confBindings.map Prod.snd := List.mem_map_of_mem hb
    exact absurd hmem (by decide)
  obtain ⟨assignments, hread, hget⟩ := dispatchConfObj_get_assign h hs
  rw [hget, last_readBindings nodup_confBindings hread hb]

/-- A field that is not bound stays as it is. -/
theorem dispatchConfObj_get_of_notMem {cm : ConfMap} {p r : ProgArgs}
    (h : dispatchConfObj cm p = .ok r) {s : Setting} (hs : s ∉ confBindings.map Prod.snd)
    (hmax : s ≠ .maxEventsPerTimeUnit) : r.get s = p.get s := by
  obtain ⟨assignments, hread, hget⟩ := dispatchConfObj_get_assign h hmax
  rw [hget, last_readBindings_of_notMem hread hs, Option.getD_none]

/-- The limit of the events: -1 stands for a missing key. -/
theorem dispatchConfObj_get_maxEvents {cm : ConfMap} {p r : ProgArgs}
    (h : dispatchConfObj cm p = .ok r) :
    ∃ n, readLocal cm .int "topologyExporter.maxEventPerTimeUnit" (-1 : Int) = .ok n
      ∧ r.get .maxEventsPerTimeUnit = if n ≠ -1 then n else p.get .maxEventsPerTimeUnit := by
  obtain ⟨assignments, hread, refCnt, -, ident, -, n, hn, rfl⟩ := dispatchConfObj_ok_iff.mp h
  refine ⟨n, hn, ?_⟩
  split_ifs
  · rw [ProgArgs.get_set_self]
  · have hlast : last assignments .maxEventsPerTimeUnit = none :=
      last_readBindings_of_notMem hread (by decide)
    rw [ProgArgs.get_setReferenceContainer, ProgArgs.get_assign, hlast, Option.getD_none]

/-- The reference container is written by every dispatch. -/
theorem dispatchConfObj_referenceContainer {cm : ConfMap} {p r : ProgArgs}
    (h : dispatchConfObj cm p = .ok r) :
    ∃ refCnt, readLocal cm .string "topologyExporter.referenceContainer" "" = .ok refCnt
      ∧ ContainerIdent.ofString refCnt = .ok r.rte.referenceContainer := by
  obtain ⟨assignments, -, refCnt, href, ident, hident, n, -, rfl⟩ := dispatchConfObj_ok_iff.mp h
  refine ⟨refCnt, href, ?_⟩
  split_ifs
  · exact hident
  · exact hident

/-! ### Reading files -/

/-- Errors of the file system; a missing file is told apart. -/
inductive ReadError
  | notExist
  | other (message : String)
  deriving DecidableEq, Repr

/-- An entry of the configlet directory. -/
structure Configlet where
  name : String
  isRegular : Bool

/-- `conf` of the extra file.  A string that the file does not have is left empty. -/
structure ExtraConfig where
  topologyManagerPolicy : Option String
  topologyManagerScope : Option String
  resourceExclude : ResourceExclude
  podExclude : List PodExcludeItem

/-- The machine: environment variables, host name, and files. -/
structure System where
  lookupEnv : String → Option String
  hostname : Except String String
  uid : Nat
  evalSymlinks : String → Except ReadError String
  readFile : String → Except ReadError String
  readDir : String → Except ReadError (List Configlet)

/-- The YAML library, for the two types that files are decoded to, and the flatten library. -/
structure YamlCodec where
  unmarshal : String → Except String (List (String × Yaml))
  unmarshalExtra : String → Except String ExtraConfig
  flatten : List (String × Yaml) → ConfMap
  flattens : Flattens flatten

/-- `UserRunDir`. -/
def userRunDir (sys : System) : String := child (child "/run/user" (toString sys.uid)) "rte"

/-- `UserHomeDir`; none is skipped. -/
def userHomeDir (sys : System) : Option String :=
  match sys.lookupEnv "HOME" with
  | none => none
  | some homeDir => if homeDir = "" then none else some (cleanPath (child homeDir ".rte"))

/-- `IsConfigRootAllowed`: the pattern that matches, or the empty string. -/
def isConfigRootAllowed (cfgPath : String) (userDirs : List String) : String :=
  let allowedPatterns :=
    ["/etc/rte", "/run/rte", "/var/rte", "/usr/local/etc/rte", "/etc/resource-topology-exporter"]
      ++ userDirs
  (allowedPatterns.find? fun pattern => hasPrefix cfgPath pattern).getD ""

/-- The path that `ReadConfiglet` and `ReadConfigletDir` read. -/
def validatePath (sys : System) (configPath : String) : Except ReadError String := do
  let configRoot := cleanPath configPath
  let cfgRoot ← match sys.evalSymlinks configRoot with
    | .ok cfgRoot => .ok cfgRoot
    | .error .notExist => .ok configRoot
    | .error (.other err) => .error (.other ("failed to validate config path: " ++ err))
  if isConfigRootAllowed cfgRoot (userRunDir sys :: (userHomeDir sys).toList) = "" then
    .error (.other ("failed to validate configRoot path " ++ quote cfgRoot
      ++ ": does not match any allowed pattern"))
  else .ok cfgRoot

/-- `ReadConfiglet`. -/
def readConfiglet (sys : System) (configPath : String) : Except ReadError String :=
  validatePath sys configPath >>= sys.readFile

/-- `ReadConfigletDir`. -/
def readConfigletDir (sys : System) (configPath : String) : Except ReadError (List Configlet) :=
  validatePath sys configPath >>= sys.readDir

/-! ### Daemon files and extra file -/

/-- `loadConfiglet`, up to the merge. -/
def loadConfiglet (codec : YamlCodec) (sys : System) (configPath : String) :
    Except ReadError ConfMap := do
  let data ← readConfiglet sys configPath
  let obj ← (codec.unmarshal data).mapError .other
  pure (codec.flatten obj)

/-- The files of the daemon, in the order in which they are loaded.  A missing configlet
directory is fine; entries that are not regular files are ignored. -/
def daemonConfs (codec : YamlCodec) (sys : System) (configPathRoot : String) :
    Except ReadError (List ConfMap) := do
  let configDir := child configPathRoot "daemon"
  let conf ← loadConfiglet codec sys (cleanPath (child configDir "config.yaml"))
  let configletDir := cleanPath (child configDir "config.yaml.d")
  let configlets : List Configlet := match readConfigletDir sys configletDir with
    | .ok entries => entries.filter fun entry => entry.isRegular
    | .error _ => []
  let confs ← configlets.mapM fun entry => loadConfiglet codec sys (child configletDir entry.name)
  pure (conf :: confs)

/-- `fromDaemonFiles`. -/
def fromDaemonFiles (codec : YamlCodec) (sys : System) (configPathRoot : String) (p : ProgArgs) :
    Except ReadError ProgArgs := do
  let confs ← daemonConfs codec sys configPathRoot
  (dispatchConfObj (mergeAll confs) p).mapError .other

/-- `readExtraConfig`: the file is optional. -/
def readExtraConfig (codec : YamlCodec) (sys : System) (configPath : String) :
    Except String ExtraConfig :=
  match readConfiglet sys configPath with
  | .error .notExist => .ok ⟨none, none, ∅, []⟩
  | .error (.other err) => .error err
  | .ok data => codec.unmarshalExtra data

/-- The exclusions of the extra file replace those of the arguments. -/
def setupExclusions (p : ProgArgs) (conf : ExtraConfig) : ProgArgs :=
  let p := if conf.resourceExclude ≠ ∅ then
    { p with resourceMonitor := { p.resourceMonitor with resourceExclude := conf.resourceExclude } }
    else p
  if conf.podExclude ≠ [] then
    { p with resourceMonitor := { p.resourceMonitor with podExclude := conf.podExclude } }
  else p

/-- `setupArgsFromConfig`. -/
def setupArgsFromConfig (p : ProgArgs) (conf : ExtraConfig) : ProgArgs :=
  let p := setupExclusions p conf
  let p := p.fillEmpty .topologyManagerPolicy (conf.topologyManagerPolicy.getD "")
  p.fillEmpty .topologyManagerScope (conf.topologyManagerScope.getD "")

/-- `fromExtraFile`. -/
def fromExtraFile (codec : YamlCodec) (sys : System) (extraConfigPath : String) (p : ProgArgs) :
    Except String ProgArgs :=
  match readExtraConfig codec sys extraConfigPath with
  | .error err => .error ("error getting exclude list from the configuration: " ++ err)
  | .ok conf => .ok (setupArgsFromConfig p conf)

/-- `FromFiles`.  A missing file among those of the daemon leaves the arguments alone. -/
def fromFiles (codec : YamlCodec) (sys : System) (configRoot extraConfigPath : String)
    (p : ProgArgs) : Except String ProgArgs :=
  if configRoot = "" then .error "configRoot is not allowed to be an empty string"
  else if extraConfigPath = "" then .error "extraConfigPath is not allowed to be an empty string"
  else
    match fromDaemonFiles codec sys configRoot p with
    | .error (.other err) => .error err
    | .error .notExist => fromExtraFile codec sys extraConfigPath p
    | .ok p => fromExtraFile codec sys extraConfigPath p

/-! ### What the files set -/

section Files

variable {codec : YamlCodec} {sys : System} {p r : ProgArgs}

/-- The files of the daemon that are read: none, if one of them is missing. -/
def daemonFiles (codec : YamlCodec) (sys : System) (configRoot : String) : List ConfMap :=
  (daemonConfs codec sys configRoot).toOption.getD []

/-- The last value that the files of the daemon have under a key. -/
def lastFileValue (confs : List ConfMap) (key : String) (s : Setting) : Option s.Val :=
  (lastConf confs key).bind fun v => (s.kind.read key v).toOption

theorem boundValue_mergeAll (confs : List ConfMap) (key : String) (s : Setting) :
    boundValue (mergeAll confs) key s = lastFileValue confs key s := by
  rw [boundValue, lookup_mergeAll, lastFileValue]

/-- The files of the daemon set the fields that they have keys for. -/
structure FromDaemon (confs : List ConfMap) (p r : ProgArgs) : Prop where
  bound : ∀ {key : String} {s : Setting}, (key, s) ∈ confBindings →
    r.get s = (lastFileValue confs key s).getD (p.get s)
  unbound : ∀ {s : Setting}, s ∉ confBindings.map Prod.snd → s ≠ .maxEventsPerTimeUnit →
    r.get s = p.get s

/-- Files that are read are those of the daemon, and then the extra file. -/
theorem fromFiles_ok {configRoot extraConfigPath : String}
    (h : fromFiles codec sys configRoot extraConfigPath p = .ok r) :
    ∃ p' conf, FromDaemon (daemonFiles codec sys configRoot) p p'
      ∧ readExtraConfig codec sys extraConfigPath = .ok conf ∧ r = setupArgsFromConfig p' conf := by
  have hextra : ∀ {p' : ProgArgs}, fromExtraFile codec sys extraConfigPath p' = .ok r →
      ∃ conf, readExtraConfig codec sys extraConfigPath = .ok conf
        ∧ r = setupArgsFromConfig p' conf := by
    intro p' h
    rw [fromExtraFile] at h
    rcases hconf : readExtraConfig codec sys extraConfigPath with err | conf
    · simp only [hconf] at h
      cases h
    · simp only [hconf] at h
      cases h
      exact ⟨conf, rfl, rfl⟩
  rw [fromFiles] at h
  split_ifs at h
  rcases hconfs : daemonConfs codec sys configRoot with err | confs
  · have hdaemon : fromDaemonFiles codec sys configRoot p = .error err := by
      rw [fromDaemonFiles, hconfs]
      rfl
    cases err with
    | other err =>
        simp only [hdaemon] at h
        cases h
    | notExist =>
        -- without a directory of the daemon its files are skipped
        simp only [hdaemon] at h
        obtain ⟨conf, hconf, hr⟩ := hextra h
        refine ⟨p, conf, ⟨fun _ => ?_, fun _ _ => rfl⟩, hconf, hr⟩
        rw [daemonFiles, hconfs]
        rfl
  · have hdaemon : fromDaemonFiles codec sys configRoot p
        = (dispatchConfObj (mergeAll confs) p).mapError .other := by
      rw [fromDaemonFiles, hconfs]
      rfl
    rcases hp' : dispatchConfObj (mergeAll confs) p with err | p'
    · simp only [hdaemon, hp', Except.mapError] at h
      cases h
    · simp only [hdaemon, hp', Except.mapError] at h
      obtain ⟨conf, hconf, hr⟩ := hextra h
      refine ⟨p', conf, ⟨fun hb => ?_, fun hs hmax => ?_⟩, hconf, hr⟩
      · rw [dispatchConfObj_get hp' hb, boundValue_mergeAll, daemonFiles, hconfs]
        rfl
      · exact dispatchConfObj_get_of_notMem hp' hs hmax

end Files

theorem get_setupExclusions (p : ProgArgs) (conf : ExtraConfig) (s : Setting) :
    (setupExclusions p conf).get s = p.get s := by
  rw [setupExclusions]
  split_ifs <;> cases s <;> rfl

/-- What the extra file has for a field. -/
def ExtraConfig.value (conf : ExtraConfig) : (s : Setting) → Option s.Val
  | .topologyManagerPolicy => conf.topologyManagerPolicy
  | .topologyManagerScope => conf.topologyManagerScope
  | _ => none

/-- The extra file fills the fields that are zero. -/
theorem get_setupArgsFromConfig (p : ProgArgs) (conf : ExtraConfig) (s : Setting) :
    (setupArgsFromConfig p conf).get s
      = orElse s.kind.zero (p.get s) ((conf.value s).getD s.kind.zero) := by
  rw [setupArgsFromConfig]
  cases s <;> simp +decide only [ProgArgs.get_fillEmpty_self, ProgArgs.get_fillEmpty_of_ne,
    get_setupExclusions, ne_eq, ExtraConfig.value, Option.getD_none, orElse_zero_right] <;> rfl

end TopologyExporter
