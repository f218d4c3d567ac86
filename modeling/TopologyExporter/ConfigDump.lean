/-
TopologyExporter/ConfigDump.lean

The dump of the configuration, and what is left of it when it is read back.

`ToYAMLString` writes the structs of `ProgArgs` under the names of their JSON tags;
`dispatchConfObj` looks up a list of dotted keys that is written by hand.  The two meet
at the leaves of the flattened dump: `mem_leaves_iff` says which leaves there are,
`lookup_dumpField` and `lookup_unwrittenKey` what the dispatch finds under a key.

Most fields are read back.  The exceptions are six fields whose key the dispatch does
not look up, some spelled with another case, a limit of -1 for the events, which the
dispatch takes for a missing key, and the reference container: it is written as a map
and read as a string.  `dump_read_back_iff` says that these are all.
-/
import TopologyExporter.ConfigFiles

namespace TopologyExporter

open GoMap GoString GoPanic

/-! ### Writing -/

/-- A value as the decoder of the YAML library gives it back. -/
def Kind.toConf : (k : Kind) → k.Val → ConfValue
  | .string, s => .string s
  | .int, n => .float64 ((n : Int) : Rat)
  | .bool, b => .bool b
  | .duration, n => .float64 ((n : Int) : Rat)

/-- The value of a field, as a leaf. -/
def ProgArgs.leaf (p : ProgArgs) (s : Setting) : ConfValue := s.kind.toConf (p.get s)

/-- The field is written: all tags but that of `verbose` have `omitempty`. -/
def Dumped (p : ProgArgs) (s : Setting) : Prop := s = .verbose ∨ p.get s ≠ s.kind.zero

instance (p : ProgArgs) (s : Setting) : Decidable (Dumped p s) :=
  inferInstanceAs (Decidable (_ ∨ _))

/-- The members of a struct whose values are leaves, by their tags. -/
def jsonMembers (p : ProgArgs) (tags : List (String × Setting)) : List (String × Yaml) :=
  (tags.filter fun t => Dumped p t.2).map fun t => (t.1, .leaf (p.leaf t.2))

/-- The tags of `GlobalArgs`. -/
def globalTags : List (String × Setting) :=
  [("kubeConfig", .kubeConfig), ("debug", .debug), ("verbose", .verbose)]

/-- The tags of `nrtupdater.Args`. -/
def updaterTags : List (String × Setting) :=
  [("noPublish", .noPublish), ("oneShot", .oneshot), ("hostname", .hostname),
   ("kubeConfig", .updaterKubeConfig), ("patchMode", .patchMode), ("patchResync", .patchResync)]

/-- The tags of `resourcemonitor.Args`, but for the two exclusions. -/
def monitorTags : List (String × Setting) :=
  [("namespace", .watchNamespace), ("sysfsRoot", .sysfsRoot),
   ("refreshNodeResources", .refreshNodeResources), ("podSetFingerprint", .podSetFingerprint),
   ("podSetFingerprintMethod", .podSetFingerprintMethod), ("exposeTiming", .exposeTiming),
   ("podSetFingerprintStatusFile", .podSetFingerprintStatusFile),
   ("excludeTerminalPods", .excludeTerminalPods)]

/-- The tags of `resourcetopologyexporter.Args`, but for the nested structs. -/
def exporterTags : List (String × Setting) :=
  [("topologyManagerPolicy", .topologyManagerPolicy),
   ("topologyManagerScope", .topologyManagerScope), ("kubeletConfigFile", .kubeletConfigFile),
   ("podResourcesSocketPath", .podResourcesSocketPath), ("sleepInterval", .sleepInterval),
   ("podReadinessEnable", .podReadinessEnable), ("notifyFilePath", .notifyFilePath),
   ("maxEventPerTimeUnit", .maxEventsPerTimeUnit),
   ("timeUnitToLimitEvents", .timeUnitToLimitEvents), ("addNRTOwnerEnable", .addNRTOwnerEnable),
   ("metricsMode", .metricsMode), ("metricsPort", .metricsPort),
   ("metricsAddress", .metricsAddress)]

/-- The tags of `metricssrv.TLSConfig`. -/
def tlsTags : List (String × Setting) :=
  [("certsDir", .certsDir), ("certFile", .certFile), ("keyFile", .keyFile),
   ("wantCliAuth", .wantCliAuth), ("minTLSVersion", .minTLSVersion),
   ("cipherSuites", .cipherSuites)]

/-- `resourceExclude`, without its key. -/
def resourceExcludeYaml (ord : RangeOrder String (List String)) (exclude : ResourceExclude) : Yaml :=
  .map ((ord.range exclude).map fun e => (e.1, .slice (e.2.map fun name => .leaf (.string name))))

/-- `podExclude`, without its key. -/
def podExcludeYaml (items : List PodExcludeItem) : Yaml :=
  .slice (items.map fun item =>
    .map [("namespacePattern", .leaf (.string item.namespacePattern)),
      ("namePattern", .leaf (.string item.namePattern))])

/-- `referenceContainer`, without its key. -/
def referenceContainerYaml (ci : ContainerIdent) : Yaml :=
  .map [("namespace", .leaf (.string ci.namespace)), ("podName", .leaf (.string ci.podName)),
    ("containerName", .leaf (.string ci.containerName))]

/-- The two exclusions, which are left out if they are empty. -/
def exclusionMembers (ord : RangeOrder String (List String)) (args : MonitorConfig) :
    List (String × Yaml) :=
  (if args.resourceExclude = ∅ then []
    else [("resourceExclude", resourceExcludeYaml ord args.resourceExclude)])
  ++ (if args.podExclude = [] then [] else [("podExclude", podExcludeYaml args.podExclude)])

/-- The members that `ToYAMLString` writes.  `version` and `dumpConfig` are not written. -/
def dump (ord : RangeOrder String (List String)) (p : ProgArgs) : List (String × Yaml) :=
  [("global", .map (jsonMembers p globalTags)),
   ("nrtUpdater", .map (jsonMembers p updaterTags)),
   ("resourceMonitor", .map (jsonMembers p monitorTags ++ exclusionMembers ord p.resourceMonitor)),
   ("topologyExporter", .map (
      p.rte.referenceContainer.toList.map (fun ci => ("referenceContainer", referenceContainerYaml ci))
      ++ jsonMembers p exporterTags
      -- a nested struct is written even if it is empty
      ++ [("metricsTLS", .map (jsonMembers p tlsTags))]))]

/-- `ToYAMLString`, where `marshal` is the encoder of the YAML library. -/
def toYAMLString (marshal : List (String × Yaml) → String) (ord : RangeOrder String (List String))
    (p : ProgArgs) : String :=
  marshal (dump ord p)

/-! ### The leaves of a dump -/

/-- The dotted keys of the tags of a struct. -/
def dottedKeys (path : String) (tags : List (String × Setting)) : List (String × Setting) :=
  tags.map fun t => (enkey (some path) t.1, t.2)

/-- The structs of `ProgArgs` and their fields.  The names of nested structs are dotted. -/
def dumpSections : List (String × List (String × Setting)) :=
  [("global", globalTags), ("nrtUpdater", updaterTags), ("resourceMonitor", monitorTags),
   ("topologyExporter", exporterTags ++ dottedKeys "metricsTLS" tlsTags)]

/-- The dotted keys of the fields that are written. -/
def dumpFields : List (String × Setting) := dumpSections.flatMap fun sec => dottedKeys sec.1 sec.2

/-- A key of one of the two exclusions. -/
def exclusionKey (key : String) : Bool :=
  hasPrefix key "resourceMonitor.resourceExclude." || hasPrefix key "resourceMonitor.podExclude."

/-- A key of the reference container. -/
def referenceContainerKey (key : String) : Bool :=
  hasPrefix key "topologyExporter.referenceContainer."

theorem dottedKeys_append (path : String) (l l' : List (String × Setting)) :
    dottedKeys path (l ++ l') = dottedKeys path l ++ dottedKeys path l' := List.map_append

theorem enkey_none (subkey : String) : enkey none subkey = subkey := rfl

/-- The leaf is the value of one of the fields. -/
def FieldLeaf (p : ProgArgs) (fields : List (String × Setting)) (e : String × ConfValue) : Prop :=
  ∃ s, (e.1, s) ∈ fields ∧ Dumped p s ∧ e.2 = p.leaf s

theorem flattenMembers_append (path : Option String) (l l' : List (String × Yaml)) :
    flattenMembers path (l ++ l') = flattenMembers path l ++ flattenMembers path l' := by
  induction l with
  | nil => rfl
  | cons m l ih =>
      obtain ⟨subkey, y⟩ := m
      simp only [List.cons_append, flattenMembers, ih, List.append_assoc]

mutual

/-- The keys of a flattened value start with its own key. -/
theorem hasPrefix_of_mem_flatten {key : String} : ∀ (y : Yaml) {e : String × ConfValue},
    e ∈ y.flatten key → hasPrefix e.1 key = true
  | .leaf v, e, h => by
      rw [Yaml.flatten, List.mem_singleton] at h
      subst h
      exact hasPrefix_iff.mpr (List.prefix_refl _)
  | .map members, e, h => by
      rw [Yaml.flatten] at h
      exact hasPrefix_trans (hasPrefix_of_mem_flattenMembers members h) (hasPrefix_append key ".")
  | .slice items, e, h => by
      rw [Yaml.flatten] at h
      exact hasPrefix_trans (hasPrefix_of_mem_flattenItems 0 items h) (hasPrefix_append key ".")

theorem hasPrefix_of_mem_flattenMembers {path : String} :
    ∀ (members : List (String × Yaml)) {e : String × ConfValue},
      e ∈ flattenMembers (some path) members → hasPrefix e.1 (path ++ ".") = true
  | [], e, h => by cases h
  | (subkey, y) :: members, e, h => by
      rw [flattenMembers, List.mem_append] at h
      rcases h with h | h
      · exact hasPrefix_trans (hasPrefix_of_mem_flatten y h) (hasPrefix_append _ subkey)
      · exact hasPrefix_of_mem_flattenMembers members h

theorem hasPrefix_of_mem_flattenItems {path : String} :
    ∀ (i : Nat) (items : List Yaml) {e : String × ConfValue},
      e ∈ flattenItems path i items → hasPrefix e.1 (path ++ ".") = true
  | _, [], e, h => by cases h
  | i, y :: items, e, h => by
      rw [flattenItems, List.mem_append] at h
      rcases h with h | h
      · exact hasPrefix_trans (hasPrefix_of_mem_flatten y h) (hasPrefix_append _ (toString i))
      · exact hasPrefix_of_mem_flattenItems (i + 1) items h

end

theorem fieldLeaf_append {p : ProgArgs} {l l' : List (String × Setting)} {e : String × ConfValue} :
    FieldLeaf p (l ++ l') e ↔ FieldLeaf p l e ∨ FieldLeaf p l' e := by
  simp only [FieldLeaf, List.mem_append, or_and_right, exists_or]

/-- The leaves of a struct are its fields. -/
theorem mem_flatten_jsonMembers {p : ProgArgs} {path : String} {tags : List (String × Setting)}
    {e : String × ConfValue} :
    e ∈ flattenMembers (some path) (jsonMembers p tags) ↔ FieldLeaf p (dottedKeys path tags) e := by
  have hflat : ∀ l : List (String × Setting),
      flattenMembers (some path) (l.map fun t => (t.1, Yaml.leaf (p.leaf t.2)))
        = l.map fun t => (enkey (some path) t.1, p.leaf t.2) := by
    intro l
    induction l with
    | nil => rfl
    | cons t l ih => rw [List.map_cons, List.map_cons, flattenMembers, ih]; rfl
  rw [jsonMembers, hflat, List.mem_map]
  constructor
  · rintro ⟨t, ht, rfl⟩
    obtain ⟨ht, hdumped⟩ := List.mem_filter.mp ht
    exact ⟨t.2, List.mem_map_of_mem ht, of_decide_eq_true hdumped, rfl⟩
  · rintro ⟨s, hs, hdumped, hv⟩
    obtain ⟨t, ht, heq⟩ := List.mem_map.mp hs
    obtain ⟨hkey, rfl⟩ := Prod.mk.inj heq
    exact ⟨t, List.mem_filter.mpr ⟨ht, decide_eq_true hdumped⟩, Prod.ext hkey hv.symm⟩

/-- The leaves of the reference container. -/
def referenceContainerLeaves (p : ProgArgs) : List (String × ConfValue) :=
  flattenMembers (some "topologyExporter")
    (p.rte.referenceContainer.toList.map fun ci => ("referenceContainer", referenceContainerYaml ci))

/-- The leaves of the exclusions. -/
def exclusionLeaves (ord : RangeOrder String (List String)) (p : ProgArgs) :
    List (String × ConfValue) :=
  flattenMembers (some "resourceMonitor") (exclusionMembers ord p.resourceMonitor)

/-- **The leaves of a dump** are fields, parts of the exclusions, or parts of the
reference container. -/
theorem mem_leaves_iff {ord : RangeOrder String (List String)} {p : ProgArgs}
    {e : String × ConfValue} :
    e ∈ flattenMembers none (dump ord p)
      ↔ FieldLeaf p dumpFields e ∨ e ∈ exclusionLeaves ord p ∨ e ∈ referenceContainerLeaves p := by
  have htls : dottedKeys "topologyExporter" (dottedKeys "metricsTLS" tlsTags)
      = dottedKeys "topologyExporter.metricsTLS" tlsTags := by decide
  have hpath : enkey (some "topologyExporter") "metricsTLS" = "topologyExporter.metricsTLS" := by decide
  simp only [dump, flattenMembers, Yaml.flatten, flattenMembers_append, List.mem_append,
    mem_flatten_jsonMembers, dumpFields, dumpSections, List.flatMap_cons, List.flatMap_nil,
    dottedKeys_append, htls, fieldLeaf_append, List.append_nil, exclusionLeaves,
    referenceContainerLeaves]
  simp only [enkey_none, hpath]
  tauto

theorem exclusionKey_of_mem {ord : RangeOrder String (List String)} {p : ProgArgs}
    {e : String × ConfValue} (h : e ∈ exclusionLeaves ord p) : exclusionKey e.1 = true := by
  rw [exclusionLeaves, exclusionMembers, flattenMembers_append, List.mem_append] at h
  rw [exclusionKey, Bool.or_eq_true]
  rcases h with h | h
  · split_ifs at h
    · cases h
    · rw [flattenMembers, flattenMembers, List.append_nil, resourceExcludeYaml, Yaml.flatten] at h
      exact Or.inl (by simpa [enkey] using hasPrefix_of_mem_flattenMembers _ h)
  · split_ifs at h
    · cases h
    · rw [flattenMembers, flattenMembers, List.append_nil, podExcludeYaml, Yaml.flatten] at h
      exact Or.inr (by simpa [enkey] using hasPrefix_of_mem_flattenItems 0 _ h)

theorem referenceContainerKey_of_mem {p : ProgArgs} {e : String × ConfValue}
    (h : e ∈ referenceContainerLeaves p) : referenceContainerKey e.1 = true := by
  rw [referenceContainerLeaves] at h
  rcases hci : p.rte.referenceContainer with - | ci
  · rw [hci] at h
    cases h
  · rw [hci, Option.toList_some, List.map_singleton, flattenMembers, flattenMembers,
      List.append_nil, referenceContainerYaml, Yaml.flatten] at h
    rw [referenceContainerKey]
    simpa [enkey] using hasPrefix_of_mem_flattenMembers _ h

/-! ### Keys -/

/-- The keys that are looked up and that no tag has, by sections. -/
def unwrittenSections : List (String × List String) :=
  [("topologyExporter", ["referenceContainer", "MetricsAddress"]), ("global", ["kubeconfig"])]

/-- The keys that are looked up and that no tag has. -/
def unwrittenKeys : List String :=
  ["topologyExporter.referenceContainer", "topologyExporter.MetricsAddress", "global.kubeconfig"]

/-- The fields whose key in the dump is not looked up. -/
def unreadSettings : List Setting :=
  [.kubeConfig, .updaterKubeConfig, .topologyManagerPolicy, .topologyManagerScope,
   .kubeletConfigFile, .metricsAddress]

/-- **The dispatch looks up the keys of the dump**, but for the exceptions. -/
theorem confBindings_filter : confBindings.filter (fun b => b.2 ∉ unreadSettings)
    = dumpFields.filter fun d => d.2 ∉ Setting.maxEventsPerTimeUnit :: unreadSettings := by
  decide +kernel

theorem confBindings_unread : ∀ b ∈ confBindings, b.2 ∈ unreadSettings → b.1 ∈ unwrittenKeys := by
  decide +kernel

/-- A key that is looked up for a field is the key of that field, or no key at all. -/
theorem confBindings_dumped {b : String × Setting} (hb : b ∈ confBindings) :
    b ∈ dumpFields ∨ b.1 ∈ unwrittenKeys := by
  by_cases hs : b.2 ∈ unreadSettings
  · exact Or.inr (confBindings_unread b hb hs)
  · have hmem : b ∈ confBindings.filter fun b => b.2 ∉ unreadSettings :=
      List.mem_filter.mpr ⟨hb, decide_eq_true hs⟩
    rw [confBindings_filter] at hmem
    exact Or.inl (List.mem_of_mem_filter hmem)

/-- The fields of a dump are looked up, but for the exceptions. -/
theorem dumpFields_read {d : String × Setting} (hd : d ∈ dumpFields) :
    d ∈ confBindings ∨ d.2 = .maxEventsPerTimeUnit ∨ d.2 ∈ unreadSettings := by
  by_cases hs : d.2 ∈ Setting.maxEventsPerTimeUnit :: unreadSettings
  · exact Or.inr (List.mem_cons.mp hs)
  · have hmem : d ∈ dumpFields.filter fun d => d.2 ∉ Setting.maxEventsPerTimeUnit :: unreadSettings :=
      List.mem_filter.mpr ⟨hd, decide_eq_true hs⟩
    rw [← confBindings_filter] at hmem
    exact Or.inl (List.mem_of_mem_filter hmem)

/-- Each of the fields that are not read is written under some key. -/
theorem unreadSettings_dumped : ∀ s ∈ unreadSettings, s ∈ dumpFields.map Prod.snd := by decide

/-- The first character of a key tells its section. -/
def initial (key : String) : Option Char := key.toList.head?

theorem initial_enkey {path : String} (h : initial path ≠ none) (name : String) :
    initial (enkey (some path) name) = initial path := by
  rw [initial, enkey, String.append_assoc, String.toList_append]
  rcases hpath : path.toList with - | ⟨c, cs⟩
  · exact absurd (congrArg List.head? hpath) h
  · exact (congrArg List.head? hpath).symm

theorem initial_of_hasPrefix {key p : String} (h : hasPrefix key p = true) (hp : initial p ≠ none) :
    initial key = initial p := by
  obtain ⟨rest, hrest⟩ := hasPrefix_iff.mp h
  rw [initial, ← hrest]
  rcases hchars : p.toList with - | ⟨c, cs⟩
  · exact absurd (congrArg List.head? hchars) hp
  · exact (congrArg List.head? hchars).symm

/-- The paths of the sections. -/
def sectionPaths : List String := dumpSections.map Prod.fst

theorem initial_sectionPaths : (∀ path ∈ sectionPaths, initial path ≠ none)
    ∧ (sectionPaths.map initial).Nodup := by decide

/-- A section is determined by the first character of a key. -/
theorem path_eq_of_initial {path path' name key : String} (hpath : path ∈ sectionPaths)
    (hpath' : path' ∈ sectionPaths) (h : initial (enkey (some path) name) = initial key)
    (h' : initial key = initial path') : path = path' := by
  rw [initial_enkey (initial_sectionPaths.1 path hpath), h'] at h
  exact List.inj_on_of_nodup_map initial_sectionPaths.2 hpath hpath' h

/-- Within a section only the names matter. -/
theorem hasPrefix_enkey {path path' name name' : String} (hpath : path ∈ sectionPaths)
    (hpath' : path' ∈ sectionPaths)
    (h : hasPrefix (enkey (some path) name) (enkey (some path') name') = true) :
    hasPrefix name name' = true := by
  have hne := initial_sectionPaths.1 path' hpath'
  have hinitial := initial_of_hasPrefix h (by rw [initial_enkey hne]; exact hne)
  obtain rfl := path_eq_of_initial hpath hpath' hinitial (initial_enkey hne name')
  rwa [enkey, enkey, hasPrefix_append_append] at h

/-- The names that take a key out of the section's own fields. -/
def nestedNames : List String := ["resourceExclude.", "podExclude.", "referenceContainer."]

/-- No name is taken for a part of the exclusions or of the reference container. -/
theorem plain_names :
    (∀ sec ∈ dumpSections, ∀ t ∈ sec.2, ∀ nested ∈ nestedNames, hasPrefix t.1 nested = false)
      ∧ ∀ sec ∈ unwrittenSections, ∀ name ∈ sec.2, ∀ nested ∈ nestedNames,
        hasPrefix name nested = false := by
  decide

theorem plain_enkey {path name : String} (hpath : path ∈ sectionPaths)
    (h : ∀ nested ∈ nestedNames, hasPrefix name nested = false) :
    exclusionKey (enkey (some path) name) = false
      ∧ referenceContainerKey (enkey (some path) name) = false := by
  have hnested : ∀ path' ∈ sectionPaths, ∀ nested ∈ nestedNames,
      hasPrefix (enkey (some path) name) (enkey (some path') nested) = false := by
    intro path' hpath' nested hmem
    rw [← Bool.not_eq_true]
    intro hkey
    have hname := hasPrefix_enkey hpath hpath' hkey
    rw [h nested hmem] at hname
    cases hname
  have hre : enkey (some "resourceMonitor") "resourceExclude." = "resourceMonitor.resourceExclude." := by
    decide
  have hpe : enkey (some "resourceMonitor") "podExclude." = "resourceMonitor.podExclude." := by decide
  have hrc : enkey (some "topologyExporter") "referenceContainer."
      = "topologyExporter.referenceContainer." := by decide
  constructor
  · rw [exclusionKey, ← hre, ← hpe, hnested _ (by decide) _ (by decide),
      hnested _ (by decide) _ (by decide)]
    rfl
  · rw [referenceContainerKey, ← hrc]
    exact hnested _ (by decide) _ (by decide)

/-- The fields of a dump, by section. -/
theorem mem_dumpFields {key : String} {s : Setting} (h : (key, s) ∈ dumpFields) :
    ∃ sec ∈ dumpSections, ∃ name, (name, s) ∈ sec.2 ∧ key = enkey (some sec.1) name := by
  obtain ⟨sec, hsec, hd⟩ := List.mem_flatMap.mp h
  obtain ⟨⟨name, s'⟩, ht, heq⟩ := List.mem_map.mp hd
  obtain ⟨rfl, rfl⟩ := Prod.mk.inj heq
  exact ⟨sec, hsec, name, ht, rfl⟩

theorem plain_dumpField {key : String} {s : Setting} (h : (key, s) ∈ dumpFields) :
    exclusionKey key = false ∧ referenceContainerKey key = false := by
  obtain ⟨sec, hsec, name, ht, rfl⟩ := mem_dumpFields h
  exact plain_enkey (List.mem_map_of_mem hsec) (plain_names.1 sec hsec _ ht)

/-- Different fields are written under different keys. -/
theorem eq_of_mem_dumpFields {key : String} {s s' : Setting} (h : (key, s) ∈ dumpFields)
    (h' : (key, s') ∈ dumpFields) : s = s' := by
  have hnodup : ∀ sec ∈ dumpSections, (sec.2.map Prod.fst).Nodup := by decide
  have hpaths : (dumpSections.map Prod.fst).Nodup := by decide
  obtain ⟨sec, hsec, name, ht, rfl⟩ := mem_dumpFields h
  obtain ⟨sec', hsec', name', ht', hkey⟩ := mem_dumpFields h'
  have hmem := List.mem_map_of_mem (f := Prod.fst) hsec
  have hmem' := List.mem_map_of_mem (f := Prod.fst) hsec'
  have hpath := path_eq_of_initial hmem hmem' (congrArg initial hkey)
    (initial_enkey (initial_sectionPaths.1 _ hmem') name')
  obtain rfl := List.inj_on_of_nodup_map hpaths hsec hsec' hpath
  have hname : name = name' := (String.append_right_inj _).mp hkey
  exact (Prod.mk.inj (List.inj_on_of_nodup_map (hnodup sec hsec) ht ht' hname)).2

/-- The keys that no tag has, by section. -/
theorem mem_unwrittenKeys {key : String} (h : key ∈ unwrittenKeys) :
    ∃ sec ∈ unwrittenSections, ∃ name ∈ sec.2, key = enkey (some sec.1) name := by
  have hkeys : unwrittenKeys
      = unwrittenSections.flatMap fun sec => sec.2.map fun name => enkey (some sec.1) name := by decide
  rw [hkeys] at h
  obtain ⟨sec, hsec, hkey⟩ := List.mem_flatMap.mp h
  obtain ⟨name, hname, rfl⟩ := List.mem_map.mp hkey
  exact ⟨sec, hsec, name, hname, rfl⟩

theorem unwrittenSections_paths : ∀ sec ∈ unwrittenSections, sec.1 ∈ sectionPaths := by decide

theorem plain_unwrittenKey {key : String} (h : key ∈ unwrittenKeys) :
    exclusionKey key = false ∧ referenceContainerKey key = false := by
  obtain ⟨sec, hsec, name, hname, rfl⟩ := mem_unwrittenKeys h
  exact plain_enkey (unwrittenSections_paths sec hsec) (plain_names.2 sec hsec name hname)

theorem unwrittenKeys_notMem {key : String} (h : key ∈ unwrittenKeys) (s : Setting) :
    (key, s) ∉ dumpFields := by
  have hnames : ∀ sec ∈ unwrittenSections, ∀ name ∈ sec.2, ∀ sec' ∈ dumpSections, ∀ t ∈ sec'.2,
      name ≠ t.1 := by decide
  intro hd
  obtain ⟨sec, hsec, name, hname, rfl⟩ := mem_unwrittenKeys h
  obtain ⟨sec', hsec', name', ht, hkey⟩ := mem_dumpFields hd
  have hmem' := List.mem_map_of_mem (f := Prod.fst) hsec'
  have hpath := path_eq_of_initial (unwrittenSections_paths sec hsec) hmem' (congrArg initial hkey)
    (initial_enkey (initial_sectionPaths.1 _ hmem') name')
  rw [hpath] at hkey
  exact hnames sec hsec name hname sec' hsec' _ ht ((String.append_right_inj _).mp hkey)

/-- The key of a leaf of the reference container. -/
def referenceNamespaceKey : String := "topologyExporter.referenceContainer.namespace"

theorem exclusionKey_referenceNamespaceKey : exclusionKey referenceNamespaceKey = false := by decide

/-- A reference container has leaves. -/
theorem exists_referenceContainerLeaf {p : ProgArgs} (h : p.rte.referenceContainer ≠ none) :
    ∃ v, (referenceNamespaceKey, v) ∈ referenceContainerLeaves p := by
  obtain ⟨ci, hci⟩ := Option.ne_none_iff_exists'.mp h
  rw [referenceContainerLeaves, hci]
  exact ⟨.string ci.namespace, List.mem_cons_self⟩

/-! ### Looking up keys of a dump -/

section Lookup

variable {ord : RangeOrder String (List String)} {p : ProgArgs} {obj : List (String × Yaml)}
variable {codec : YamlCodec}

/-- The leaves of a decoded file are those of a dump.  In which order the members of a
map come is left open. -/
def SameLeaves (obj obj' : List (String × Yaml)) : Prop :=
  ∀ e, e ∈ flattenMembers none obj ↔ e ∈ flattenMembers none obj'

/-- A plain key has no other leaves than the fields written under it. -/
theorem fieldLeaf_of_plain {e : String × ConfValue} (h : e ∈ flattenMembers none (dump ord p))
    (hkey : exclusionKey e.1 = false ∧ referenceContainerKey e.1 = false) :
    FieldLeaf p dumpFields e := by
  rcases mem_leaves_iff.mp h with hfield | hexcl | href
  · exact hfield
  · rw [exclusionKey_of_mem hexcl] at hkey
    cases hkey.1
  · rw [referenceContainerKey_of_mem href] at hkey
    cases hkey.2

/-- **Under the key of a field stands its value, if it is written.** -/
theorem lookup_dumpField (hobj : SameLeaves obj (dump ord p)) {key : String} {s : Setting}
    (hd : (key, s) ∈ dumpFields) :
    (codec.flatten obj).lookup key = if Dumped p s then some (p.leaf s) else none := by
  have hplain := plain_dumpField hd
  rcases codec.flattens obj key with ⟨v, hv, hlookup⟩ | ⟨hno, hlookup⟩
  · obtain ⟨s', hd', hdumped, hval⟩ := fieldLeaf_of_plain ((hobj _).mp hv) hplain
    have hs : s = s' := eq_of_mem_dumpFields hd hd'
    subst hs
    rw [hlookup, if_pos hdumped]
    exact congrArg some hval
  · have hnot : ¬ Dumped p s := by
      intro hdumped
      exact hno (p.leaf s) ((hobj _).mpr (mem_leaves_iff.mpr (Or.inl ⟨s, hd, hdumped, rfl⟩)))
    rw [hlookup, if_neg hnot]

/-- Under the other keys there is nothing. -/
theorem lookup_unwrittenKey (hobj : SameLeaves obj (dump ord p)) {key : String}
    (hkey : key ∈ unwrittenKeys) : (codec.flatten obj).lookup key = none := by
  have hplain := plain_unwrittenKey hkey
  rcases codec.flattens obj key with ⟨v, hv, -⟩ | ⟨-, hlookup⟩
  · obtain ⟨s, hd, -⟩ := fieldLeaf_of_plain ((hobj _).mp hv) hplain
    exact absurd hd (unwrittenKeys_notMem hkey s)
  · exact hlookup

/-- What is written for a type is read as that type, and a value of that type is read back. -/
theorem read_toConf (key : String) (k : Kind) (x : k.Val) :
    ∃ y, k.read key (k.toConf x) = .ok y ∧ (k.Fits x → y = x) := by
  cases k with
  | string => exact ⟨x, rfl, fun _ => rfl⟩
  | int => exact ⟨_, rfl, fun hfits => (truncate_intCast x).trans (if_pos hfits)⟩
  | bool => exact ⟨x, rfl, fun _ => rfl⟩
  | duration => exact ⟨_, rfl, fun hfits => (truncate_intCast x).trans (if_pos hfits)⟩

end Lookup

/-! ### Reading back -/

section ReadBack

variable {ord : RangeOrder String (List String)} {p q r : ProgArgs} {obj : List (String × Yaml)}
variable {codec : YamlCodec}

/-- The dispatch of a dump succeeds. -/
theorem dispatch_dump_isOk (hobj : SameLeaves obj (dump ord p)) :
    ∃ r, dispatchConfObj (codec.flatten obj) q = .ok r := by
  have hread : ∃ l, readBindings (codec.flatten obj) confBindings = .ok l := by
    apply readBindings_isOk
    rintro ⟨key, s⟩ hb v hv
    rcases confBindings_dumped hb with hd | hkey
    · rw [lookup_dumpField hobj hd] at hv
      split_ifs at hv
      cases hv
      obtain ⟨x, hread, -⟩ := read_toConf key s.kind (p.get s)
      exact ⟨x, hread⟩
    · rw [lookup_unwrittenKey hobj hkey] at hv
      cases hv
  have href : readLocal (codec.flatten obj) .string "topologyExporter.referenceContainer" "" = .ok "" := by
    rw [readLocal, lookup_unwrittenKey hobj (by decide)]
  have hmax : ∃ n, readLocal (codec.flatten obj) .int "topologyExporter.maxEventPerTimeUnit" (-1 : Int)
      = .ok n := by
    rw [readLocal, lookup_dumpField hobj (s := .maxEventsPerTimeUnit) (by decide)]
    split_ifs
    · exact ⟨_, rfl⟩
    · exact ⟨-1, rfl⟩
  obtain ⟨l, hl⟩ := hread
  obtain ⟨n, hn⟩ := hmax
  exact ⟨_, dispatchConfObj_ok_iff.mpr ⟨l, hl, "", href, none, rfl, n, hn, rfl⟩⟩

/-- A field whose key is looked up has a value of its type, and its own one if that is one. -/
theorem get_of_read (hobj : SameLeaves obj (dump ord p))
    (h : dispatchConfObj (codec.flatten obj) q = .ok r) {key : String} {s : Setting}
    (hb : (key, s) ∈ confBindings) (hd : (key, s) ∈ dumpFields) (hdumped : Dumped p s) :
    s.kind.Fits (r.get s) ∧ (s.kind.Fits (p.get s) → r.get s = p.get s) := by
  obtain ⟨x, hread, hfits⟩ := read_toConf key s.kind (p.get s)
  have hbound : boundValue (codec.flatten obj) key s = some x := by
    rw [boundValue, lookup_dumpField hobj hd, if_pos hdumped, Option.bind_some, ProgArgs.leaf, hread]
    rfl
  rw [dispatchConfObj_get h hb, hbound, Option.getD_some]
  exact ⟨Kind.fits_of_read hread, hfits⟩

/-- A field whose key is not looked up stays as it is. -/
theorem get_of_unread (hobj : SameLeaves obj (dump ord p))
    (h : dispatchConfObj (codec.flatten obj) q = .ok r) {s : Setting} (hs : s ∈ unreadSettings) :
    r.get s = q.get s := by
  by_cases hbound : s ∈ confBindings.map Prod.snd
  · obtain ⟨⟨key, s'⟩, hb, rfl⟩ := List.mem_map.mp hbound
    have hkey := confBindings_unread _ hb hs
    rw [dispatchConfObj_get h hb, boundValue, lookup_unwrittenKey hobj hkey, Option.bind_none,
      Option.getD_none]
  · have hmax : s ≠ .maxEventsPerTimeUnit := by
      rintro rfl
      exact absurd hs (by decide)
    exact dispatchConfObj_get_of_notMem h hbound hmax

/-- The limit of the events is what is read, unless that is -1. -/
theorem get_maxEvents_of_dumped (hobj : SameLeaves obj (dump ord p))
    (h : dispatchConfObj (codec.flatten obj) q = .ok r) (hdumped : Dumped p .maxEventsPerTimeUnit) :
    r.get .maxEventsPerTimeUnit
      = if truncate (p.rte.maxEventsPerTimeUnit : Rat) = -1 then q.get .maxEventsPerTimeUnit
        else truncate (p.rte.maxEventsPerTimeUnit : Rat) := by
  obtain ⟨n, hn, hget⟩ := dispatchConfObj_get_maxEvents h
  rw [readLocal, lookup_dumpField hobj (s := .maxEventsPerTimeUnit) (by decide), if_pos hdumped] at hn
  have hn' : truncate (p.rte.maxEventsPerTimeUnit : Rat) = n := Except.ok.inj hn
  rw [hget, hn']
  by_cases hone : n = -1
  · rw [if_pos hone, if_neg (not_not.mpr hone)]
  · rw [if_neg hone, if_pos hone]

/-- No reference container is left. -/
theorem referenceContainer_dispatch_dump (hobj : SameLeaves obj (dump ord p))
    (h : dispatchConfObj (codec.flatten obj) q = .ok r) : r.rte.referenceContainer = none := by
  obtain ⟨refCnt, href, hident⟩ := dispatchConfObj_referenceContainer h
  rw [readLocal, lookup_unwrittenKey hobj (by decide)] at href
  cases href
  exact (Except.ok.inj hident).symm

/-- A leaf sets the field that it was written for.  The exclusions belong to the extra
file. -/
def LeafReadBack (p r : ProgArgs) (key : String) : Prop :=
  exclusionKey key = true
    ∨ referenceContainerKey key = true ∧ r.rte.referenceContainer = p.rte.referenceContainer
    ∨ ∃ s, (key, s) ∈ dumpFields ∧ r.get s = p.get s

/-- The leaf of a field is read back exactly if the field is. -/
theorem leafReadBack_iff {key : String} {s : Setting} (hd : (key, s) ∈ dumpFields) :
    LeafReadBack p r key ↔ r.get s = p.get s := by
  have hplain := plain_dumpField hd
  constructor
  · rintro (hkey | ⟨hkey, -⟩ | ⟨s', hd', hget⟩)
    · rw [hplain.1] at hkey
      cases hkey
    · rw [hplain.2] at hkey
      cases hkey
    · rw [eq_of_mem_dumpFields hd hd']
      exact hget
  · intro hget
    exact Or.inr (Or.inr ⟨s, hd, hget⟩)

/-- The integers of the configuration are those of their Go types. -/
def ProgArgs.Fits (p : ProgArgs) : Prop := ∀ s : Setting, s.kind.Fits (p.get s)

theorem mem_dumpFields_maxEvents :
    ("topologyExporter.maxEventPerTimeUnit", Setting.maxEventsPerTimeUnit) ∈ dumpFields := by
  decide

theorem dumped_of_ne_zero {s : Setting} (h : p.get s ≠ s.kind.zero) : Dumped p s := .inr h

theorem mem_leaves_of_dumped {key : String} {s : Setting} (hd : (key, s) ∈ dumpFields)
    (hdumped : Dumped p s) : (key, p.leaf s) ∈ flattenMembers none (dump ord p) :=
  mem_leaves_iff.mpr (Or.inl ⟨s, hd, hdumped, rfl⟩)

/-- What is read back is of its Go type. -/
theorem fits_of_read_back (hobj : SameLeaves obj (dump ord p))
    (h : dispatchConfObj (codec.flatten obj) q = .ok r)
    (hback : ∀ e ∈ flattenMembers none (dump ord p), LeafReadBack p r e.1) : p.Fits := by
  have hread : ∀ (key : String) {s : Setting}, (key, s) ∈ dumpFields → (key, s) ∈ confBindings →
      s.kind.Fits (p.get s) := by
    intro key s hd hb
    by_cases hzero : p.get s = s.kind.zero
    · rw [hzero]
      exact s.kind.fits_zero
    · have hdumped := dumped_of_ne_zero hzero
      rw [← (leafReadBack_iff hd).mp (hback _ (mem_leaves_of_dumped hd hdumped))]
      exact (get_of_read hobj h hb hd hdumped).1
  have hmax : GoInt.InRange p.rte.maxEventsPerTimeUnit := by
    by_contra hout
    have hdumped : Dumped p .maxEventsPerTimeUnit := by
      refine dumped_of_ne_zero fun hzero => hout ?_
      rw [show p.rte.maxEventsPerTimeUnit = 0 from hzero]
      decide
    have hget := (leafReadBack_iff mem_dumpFields_maxEvents).mp
      (hback _ (mem_leaves_of_dumped mem_dumpFields_maxEvents hdumped))
    -- the least `int64` is read, which is not -1
    rw [get_maxEvents_of_dumped hobj h hdumped, truncate_intCast, if_neg hout, if_neg (by decide)] at hget
    have hleast : -2 ^ 63 = p.rte.maxEventsPerTimeUnit := hget
    exact hout (hleast ▸ by decide)
  intro s
  cases s
  case verbose => exact hread "global.verbose" (by decide) (by decide)
  case patchResync => exact hread "nrtUpdater.patchResync" (by decide) (by decide)
  case sleepInterval => exact hread "topologyExporter.sleepInterval" (by decide) (by decide)
  case maxEventsPerTimeUnit => exact hmax
  case timeUnitToLimitEvents =>
    exact hread "topologyExporter.timeUnitToLimitEvents" (by decide) (by decide)
  case metricsPort => exact hread "topologyExporter.metricsPort" (by decide) (by decide)
  all_goals trivial

/-- Which leaves a dispatch reads back. -/
theorem leaves_read_back_iff (hobj : SameLeaves obj (dump ord p))
    (h : dispatchConfObj (codec.flatten obj) q = .ok r) :
    (∀ e ∈ flattenMembers none (dump ord p), LeafReadBack p r e.1)
      ↔ p.Fits ∧ (∀ s ∈ unreadSettings, p.get s = s.kind.zero ∨ q.get s = p.get s)
        ∧ (p.rte.maxEventsPerTimeUnit = -1 → q.rte.maxEventsPerTimeUnit = -1)
        ∧ p.rte.referenceContainer = none := by
  constructor
  · intro hback
    refine ⟨fits_of_read_back hobj h hback, fun s hs => ?_, fun hp => ?_, ?_⟩
    · by_cases hzero : p.get s = s.kind.zero
      · exact Or.inl hzero
      · obtain ⟨⟨key, s'⟩, hd, rfl⟩ := List.mem_map.mp (unreadSettings_dumped s hs)
        have hget := (leafReadBack_iff hd).mp
          (hback _ (mem_leaves_of_dumped hd (dumped_of_ne_zero hzero)))
        rw [get_of_unread hobj h hs] at hget
        exact Or.inr hget
    · have hget' : p.get .maxEventsPerTimeUnit = (-1 : Int) := hp
      have hdumped : Dumped p .maxEventsPerTimeUnit := by
        refine dumped_of_ne_zero ?_
        rw [hget']
        decide
      have hget := (leafReadBack_iff mem_dumpFields_maxEvents).mp
        (hback _ (mem_leaves_of_dumped mem_dumpFields_maxEvents hdumped))
      rw [get_maxEvents_of_dumped hobj h hdumped, hp, if_pos (by decide +kernel), hget'] at hget
      exact hget
    · by_contra hne
      obtain ⟨v, hv⟩ := exists_referenceContainerLeaf hne
      have hexcl := exclusionKey_referenceNamespaceKey
      have href' := referenceContainerKey_of_mem hv
      rcases hback _ (mem_leaves_iff.mpr (Or.inr (Or.inr hv))) with hkey | ⟨-, href⟩ | ⟨s, hd, -⟩
      · rw [hexcl] at hkey
        cases hkey
      · rw [referenceContainer_dispatch_dump hobj h] at href
        exact hne href.symm
      · rw [(plain_dumpField hd).2] at href'
        cases href'
  · rintro ⟨hfits, hunread, hmax, href⟩ e he
    rcases mem_leaves_iff.mp he with ⟨s, hd, hdumped, -⟩ | hexcl | hmem
    · rw [leafReadBack_iff hd]
      rcases dumpFields_read hd with hb | hmaxEvents | hs
      · exact (get_of_read hobj h hb hd hdumped).2 (hfits s)
      · obtain rfl : s = .maxEventsPerTimeUnit := hmaxEvents
        have hlimit : GoInt.InRange p.rte.maxEventsPerTimeUnit := hfits .maxEventsPerTimeUnit
        rw [get_maxEvents_of_dumped hobj h hdumped, truncate_intCast, if_pos hlimit]
        split_ifs with hp
        · exact (hmax hp).trans hp.symm
        · rfl
      · rw [get_of_unread hobj h hs]
        -- a value that is written is not zero, or it is that of `verbose`
        have hverbose : s ≠ .verbose := by
          rintro rfl
          have hmem : Setting.verbose ∈ unreadSettings := hs
          exact absurd hmem (by decide)
        exact (hunread s hs).resolve_left (hdumped.resolve_left hverbose)
    · exact Or.inl (exclusionKey_of_mem hexcl)
    · rw [referenceContainerLeaves, href] at hmem
      cases hmem

end ReadBack

/-- The decoder of the YAML library gives back what the encoder has written. -/
def RoundTrips (codec : YamlCodec) (marshal : List (String × Yaml) → String)
    (members : List (String × Yaml)) : Prop :=
  ∃ obj, codec.unmarshal (marshal members) = .ok obj ∧ SameLeaves obj members

/-- `config.yaml` is the only file of the daemon: there are no regular files in the
configlet directory, or there is no directory. -/
def NoConfiglets (sys : System) (configRoot : String) : Prop :=
  ∀ entries, readConfigletDir sys (cleanPath (child (child configRoot "daemon") "config.yaml.d"))
    = .ok entries → ∀ entry ∈ entries, entry.isRegular = false

theorem daemonConfs_of_noConfiglets {codec : YamlCodec} {sys : System} {configRoot text : String}
    {obj : List (String × Yaml)}
    (hfile : readConfiglet sys (cleanPath (child (child configRoot "daemon") "config.yaml")) = .ok text)
    (hobj : codec.unmarshal text = .ok obj) (hdir : NoConfiglets sys configRoot) :
    daemonConfs codec sys configRoot = .ok [codec.flatten obj] := by
  have hload : loadConfiglet codec sys (cleanPath (child (child configRoot "daemon") "config.yaml"))
      = .ok (codec.flatten obj) := by
    rw [loadConfiglet, hfile]
    show ((codec.unmarshal text).mapError ReadError.other >>= fun obj => pure (codec.flatten obj)) = _
    rw [hobj]
    rfl
  rcases hentries : readConfigletDir sys
      (cleanPath (child (child configRoot "daemon") "config.yaml.d")) with err | entries
  · simp only [daemonConfs, hload, hentries]
    rfl
  · have hnone : entries.filter (fun entry => entry.isRegular) = [] := by
      rw [List.filter_eq_nil_iff]
      intro entry hentry
      rw [hdir entries hentries entry hentry]
      exact Bool.false_ne_true
    simp only [daemonConfs, hload, hentries, hnone]
    rfl

/-- A dump that is written to `config.yaml` is loaded over `q`, and sets every field it
has a leaf for. -/
def DumpReadBack (codec : YamlCodec) (sys : System) (configRoot : String)
    (ord : RangeOrder String (List String)) (p q : ProgArgs) : Prop :=
  ∃ r, fromDaemonFiles codec sys configRoot q = .ok r
    ∧ ∀ e ∈ flattenMembers none (dump ord p), LeafReadBack p r e.1

/-- **A dumped configuration is read back** exactly if its integers are those of Go, the fields
whose keys are not looked up are zero or have their value already, the limit of the events is not
-1, and there is no reference container. -/
theorem dump_read_back_iff (marshal : List (String × Yaml) → String) {codec : YamlCodec}
    {sys : System} {configRoot : String} {ord : RangeOrder String (List String)} {p q : ProgArgs}
    (hfile : readConfiglet sys (cleanPath (child (child configRoot "daemon") "config.yaml"))
      = .ok (toYAMLString marshal ord p))
    (hcodec : RoundTrips codec marshal (dump ord p)) (hdir : NoConfiglets sys configRoot) :
    DumpReadBack codec sys configRoot ord p q
      ↔ p.Fits ∧ (∀ s ∈ unreadSettings, p.get s = s.kind.zero ∨ q.get s = p.get s)
        ∧ (p.rte.maxEventsPerTimeUnit = -1 → q.rte.maxEventsPerTimeUnit = -1)
        ∧ p.rte.referenceContainer = none := by
  obtain ⟨obj, hunmarshal, hobj⟩ := hcodec
  obtain ⟨r, hr⟩ : ∃ r, dispatchConfObj (codec.flatten obj) q = .ok r := dispatch_dump_isOk hobj
  have hload : fromDaemonFiles codec sys configRoot q = .ok r := by
    have hmerge : mergeAll [codec.flatten obj] = codec.flatten obj := Finmap.union_empty
    rw [fromDaemonFiles, daemonConfs_of_noConfiglets hfile hunmarshal hdir]
    show (dispatchConfObj (mergeAll [codec.flatten obj]) q).mapError ReadError.other = _
    rw [hmerge, hr]
    rfl
  rw [← leaves_read_back_iff hobj hr]
  constructor
  · rintro ⟨r', hr', hback⟩
    rw [hload] at hr'
    cases hr'
    exact hback
  · intro hback
    exact ⟨r, hload, hback⟩

/-- A host with one configuration file, whose text is "dump". -/
def dumpSystem : System where
  lookupEnv _ := none
  hostname := .ok "worker-0"
  uid := 0
  evalSymlinks path := .ok path
  readFile path := if path = "/etc/rte/daemon/config.yaml" then .ok "dump" else .error .notExist
  readDir _ := .error .notExist

/-- A codec for one text. -/
def dumpCodec (members : List (String × Yaml)) : YamlCodec where
  unmarshal _ := .ok members
  unmarshalExtra _ := .ok ⟨none, none, ∅, []⟩
  flatten := flatConf
  flattens := flattens_flatConf

theorem readConfiglet_dumpSystem :
    readConfiglet dumpSystem (cleanPath (child (child "/etc/rte" "daemon") "config.yaml"))
      = .ok "dump" := by
  rfl

theorem noConfiglets_dumpSystem : NoConfiglets dumpSystem "/etc/rte" := by
  intro entries h
  have herr : readConfigletDir dumpSystem
      (cleanPath (child (child "/etc/rte" "daemon") "config.yaml.d")) = .error .notExist := rfl
  rw [herr] at h
  cases h

/-- The configuration of a daemon started without any settings. -/
def builtinArgs : ProgArgs := setDefaults "with-exclusive-resources" ProgArgs.zero

theorem fits_builtinArgs : (builtinArgs.set .hostname "worker-1").Fits := by
  intro s
  cases s
  case verbose => exact (by decide : GoInt.InRange 2)
  case patchResync => exact (by decide : GoInt.InRange 10)
  case sleepInterval => exact (by decide : GoInt.InRange (60 * 1000000000))
  case maxEventsPerTimeUnit => exact (by decide : GoInt.InRange 1)
  case timeUnitToLimitEvents => exact (by decide : GoInt.InRange 1000000000)
  case metricsPort => exact (by decide : GoInt.InRange 2112)
  all_goals trivial

/-- The defaults with a host name, over the defaults. -/
theorem dump_read_back_hostname :
    DumpReadBack (dumpCodec (dump (sortedOrder _ _) (builtinArgs.set .hostname "worker-1")))
      dumpSystem "/etc/rte" (sortedOrder _ _) (builtinArgs.set .hostname "worker-1") builtinArgs :=
  (dump_read_back_iff (fun _ => "dump") readConfiglet_dumpSystem
    ⟨_, rfl, fun _ => Iff.rfl⟩ noConfiglets_dumpSystem).mpr
    ⟨fits_builtinArgs, by decide +kernel, by decide +kernel, rfl⟩

/-- The address of the metrics server is written as `metricsAddress` and looked up as
`MetricsAddress`. -/
theorem dump_loses_metricsAddress :
    ¬ DumpReadBack (dumpCodec (dump (sortedOrder _ _) (builtinArgs.set .metricsAddress "127.0.0.1")))
      dumpSystem "/etc/rte" (sortedOrder _ _) (builtinArgs.set .metricsAddress "127.0.0.1")
      builtinArgs := by
  rintro ⟨r, hr, hback⟩
  have hd : ("topologyExporter.metricsAddress", Setting.metricsAddress) ∈ dumpFields := by decide
  have hleaf : ("topologyExporter.metricsAddress", ConfValue.string "127.0.0.1")
      ∈ flattenMembers none (dump (sortedOrder _ _) (builtinArgs.set .metricsAddress "127.0.0.1")) :=
    mem_leaves_iff.mpr (Or.inl ⟨.metricsAddress, hd, by decide +kernel, rfl⟩)
  have hget : ((fromDaemonFiles
      (dumpCodec (dump (sortedOrder _ _) (builtinArgs.set .metricsAddress "127.0.0.1")))
      dumpSystem "/etc/rte" builtinArgs).toOption.map fun r => r.get .metricsAddress)
      = some "0.0.0.0" := by
    decide +kernel
  rw [hr] at hget
  have hr' : r.get .metricsAddress = "0.0.0.0" := Option.some.inj hget
  have hs := (leafReadBack_iff hd).mp (hback _ hleaf)
  rw [hr'] at hs
  exact absurd hs (by decide +kernel)

end TopologyExporter
