/-
TopologyExporter/AllowedPaths.lean

The directories that configuration is read from.

`IsConfigRootAllowed` compares the path with the allowed directories as texts: it takes
the first one that the path begins with, not the first one that contains the path.
The two differ for a sibling whose name continues the name of an allowed directory.
`allowed_paths_iff` says which paths are judged correctly and which reads stay inside.

That a read stays inside is said of the result: it does not depend on files and
directories outside (`ReadsInside`).
-/
import TopologyExporter.ConfigFiles

namespace TopologyExporter

open GoString

/-! ### The first match -/

/-- The first element with `p` has the stronger `q` exactly if no element with `p` alone
comes before all those with `q`. -/
theorem find?_forall_iff {α : Type} {p : α → Bool} {q : α → Prop} (hqp : ∀ a, q a → p a = true)
    (l : List α) :
    (∀ a ∈ l.find? p, q a)
      ↔ ∀ pre a post, l = pre ++ a :: post → p a = true → ¬ q a → ∃ b ∈ pre, q b := by
  constructor
  · rintro h pre a post rfl hpa hqa
    rw [List.find?_append] at h
    rcases hfind : pre.find? p with - | b
    · rw [hfind, Option.none_or, List.find?_cons_of_pos hpa] at h
      exact absurd (h a rfl) hqa
    · rw [hfind, Option.some_or] at h
      exact ⟨b, List.mem_of_find?_eq_some hfind, h b rfl⟩
  · intro h a ha
    obtain ⟨hpa, pre, post, hl, hpre⟩ := List.find?_eq_some_iff_append.mp ha
    by_contra hqa
    obtain ⟨b, hb, hqb⟩ := h pre a post hl hpa hqa
    have hpb := hpre b hb
    rw [hqp b hqb] at hpb
    cases hpb

/-! ### The pattern -/

/-- The directories built into `IsConfigRootAllowed` and those injected. -/
def allowedDirs (userDirs : List String) : List String :=
  ["/etc/rte", "/run/rte", "/var/rte", "/usr/local/etc/rte", "/etc/resource-topology-exporter"]
    ++ userDirs

theorem isConfigRootAllowed_eq (cfgPath : String) (userDirs : List String) :
    isConfigRootAllowed cfgPath userDirs
      = ((allowedDirs userDirs).find? fun pattern => hasPrefix cfgPath pattern).getD "" :=
  rfl

/-- What lies in a directory begins with its name. -/
theorem Below.hasPrefix {dir path : String} (h : Below dir path) : hasPrefix path dir = true := by
  rcases h with rfl | h
  · exact hasPrefix_iff.mpr (List.prefix_refl _)
  · split_ifs at h with hroot
    · exact h
    · exact hasPrefix_trans h (hasPrefix_append dir "/")

/-- A pattern is returned exactly for the paths in allowed directories, and it is such a
directory. -/
structure PatternContains (cfgPath : String) (userDirs : List String) : Prop where
  allowed : isConfigRootAllowed cfgPath userDirs ≠ ""
    ↔ ∃ dir ∈ allowedDirs userDirs, Below dir cfgPath
  pattern : isConfigRootAllowed cfgPath userDirs ≠ "" →
    isConfigRootAllowed cfgPath userDirs ∈ allowedDirs userDirs
      ∧ Below (isConfigRootAllowed cfgPath userDirs) cfgPath

section Pattern

variable {cfgPath : String} {userDirs : List String} (hdirs : ∀ dir ∈ userDirs, dir ≠ "")
include hdirs

theorem ne_empty_of_mem_allowedDirs {dir : String} (h : dir ∈ allowedDirs userDirs) : dir ≠ "" := by
  rcases List.mem_append.mp h with h | h
  · have hbuiltin : ∀ dir ∈ ["/etc/rte", "/run/rte", "/var/rte", "/usr/local/etc/rte",
        "/etc/resource-topology-exporter"], dir ≠ "" := by decide
    exact hbuiltin dir h
  · exact hdirs dir h

/-- A pattern is returned if the path begins with one. -/
theorem isConfigRootAllowed_ne_empty_iff :
    isConfigRootAllowed cfgPath userDirs ≠ ""
      ↔ ∃ dir ∈ allowedDirs userDirs, hasPrefix cfgPath dir = true := by
  rw [isConfigRootAllowed_eq]
  rcases hfind : (allowedDirs userDirs).find? fun pattern => hasPrefix cfgPath pattern with - | dir
  · rw [List.find?_eq_none] at hfind
    refine ⟨fun h => absurd rfl h, ?_⟩
    rintro ⟨dir, hdir, hpath⟩
    exact absurd hpath (hfind dir hdir)
  · have hmem := List.mem_of_find?_eq_some hfind
    exact ⟨fun _ => ⟨dir, hmem, List.find?_some hfind⟩,
      fun _ => ne_empty_of_mem_allowedDirs hdirs hmem⟩

theorem patternContains_iff_find? :
    PatternContains cfgPath userDirs
      ↔ ∀ dir ∈ (allowedDirs userDirs).find? fun pattern => hasPrefix cfgPath pattern,
          Below dir cfgPath := by
  constructor
  · intro h dir hdir
    have hpattern : isConfigRootAllowed cfgPath userDirs = dir := by
      rw [isConfigRootAllowed_eq, Option.mem_def.mp hdir, Option.getD_some]
    have hne := ne_empty_of_mem_allowedDirs hdirs (List.mem_of_find?_eq_some hdir)
    have hbelow := (h.pattern (hpattern ▸ hne)).2
    rwa [hpattern] at hbelow
  · intro h
    rcases hfind : (allowedDirs userDirs).find? fun pattern => hasPrefix cfgPath pattern
      with - | dir
    · -- the path begins with no directory, so it lies in none
      have hempty : isConfigRootAllowed cfgPath userDirs = "" := by
        rw [isConfigRootAllowed_eq, hfind, Option.getD_none]
      rw [List.find?_eq_none] at hfind
      refine ⟨⟨fun hne => absurd hempty hne, ?_⟩, fun hne => absurd hempty hne⟩
      rintro ⟨dir, hdir, hbelow⟩
      exact absurd hbelow.hasPrefix (hfind dir hdir)
    · have hpattern : isConfigRootAllowed cfgPath userDirs = dir := by
        rw [isConfigRootAllowed_eq, hfind, Option.getD_some]
      have hmem := List.mem_of_find?_eq_some hfind
      have hbelow := h dir hfind
      rw [← hpattern] at hmem hbelow
      exact ⟨⟨fun _ => ⟨_, hmem, hbelow⟩, fun _ => ne_empty_of_mem_allowedDirs hdirs hmem⟩,
        fun _ => ⟨hmem, hbelow⟩⟩

end Pattern

/-! ### Reads -/

/-- The directories that the two readers inject. -/
def System.userDirs (sys : System) : List String := userRunDir sys :: (userHomeDir sys).toList

/-- The path that is compared with the allowed directories. -/
def resolvePath (sys : System) (configPath : String) : Except ReadError String :=
  match sys.evalSymlinks (cleanPath configPath) with
  | .ok cfgRoot => .ok cfgRoot
  | .error .notExist => .ok (cleanPath configPath)
  | .error (.other err) => .error (.other ("failed to validate config path: " ++ err))

/-- The machine with other files and directories. -/
def System.withFiles (sys : System) (readFile : String → Except ReadError String)
    (readDir : String → Except ReadError (List Configlet)) : System :=
  { sys with readFile := readFile, readDir := readDir }

/-- Nothing outside the allowed directories shows in what the two readers return. -/
def ReadsInside (sys : System) (configPath : String) : Prop :=
  ∀ readFile readDir,
    (∀ path, (∃ dir ∈ allowedDirs sys.userDirs, Below dir path) →
      readFile path = sys.readFile path ∧ readDir path = sys.readDir path) →
    readConfiglet (sys.withFiles readFile readDir) configPath = readConfiglet sys configPath
      ∧ readConfigletDir (sys.withFiles readFile readDir) configPath
        = readConfigletDir sys configPath

theorem cleanPath_ne_empty (path : String) : cleanPath path ≠ "" := by
  rw [cleanPath]
  split_ifs with hrooted hempty
  · intro h
    have hlist := congrArg String.toList h
    rw [String.toList_append] at hlist
    cases hlist
  · decide
  · exact hempty

theorem System.userDirs_ne_empty (sys : System) : ∀ dir ∈ sys.userDirs, dir ≠ "" := by
  refine List.forall_mem_cons.mpr ⟨fun h => ?_, fun dir hdir => ?_⟩
  · have hlist := congrArg String.toList h
    rw [userRunDir, child, child] at hlist
    simp only [String.toList_append] at hlist
    cases hlist
  · rw [Option.mem_toList, userHomeDir] at hdir
    split at hdir
    · cases hdir
    · obtain ⟨-, hdir⟩ := Option.ite_none_left_eq_some.mp hdir
      obtain rfl := Option.some.inj hdir
      exact cleanPath_ne_empty _

section Reads

variable {sys : System} {configPath file : String}

/-- The path that is read: the resolved one, if it begins with an allowed directory. -/
theorem validatePath_ok_iff :
    validatePath sys configPath = .ok file
      ↔ resolvePath sys configPath = .ok file
        ∧ ∃ dir ∈ allowedDirs sys.userDirs, hasPrefix file dir = true := by
  have hvalidate : validatePath sys configPath = resolvePath sys configPath >>= fun cfgRoot =>
      if isConfigRootAllowed cfgRoot sys.userDirs = "" then
        .error (.other ("failed to validate configRoot path " ++ quote cfgRoot
          ++ ": does not match any allowed pattern"))
      else .ok cfgRoot := by
    rw [validatePath, resolvePath]
    rcases sys.evalSymlinks (cleanPath configPath) with (- | err) | cfgRoot <;> rfl
  rw [hvalidate, GoPanic.bind_eq_ok_iff]
  constructor
  · rintro ⟨cfgRoot, hresolve, hif⟩
    split_ifs at hif with hempty
    obtain rfl := Except.ok.inj hif
    exact ⟨hresolve, (isConfigRootAllowed_ne_empty_iff sys.userDirs_ne_empty).mp hempty⟩
  · rintro ⟨hresolve, hdir⟩
    exact ⟨file, hresolve,
      if_neg ((isConfigRootAllowed_ne_empty_iff sys.userDirs_ne_empty).mpr hdir)⟩

theorem readConfiglet_of_validatePath (h : validatePath sys configPath = .ok file)
    (readFile : String → Except ReadError String)
    (readDir : String → Except ReadError (List Configlet)) :
    readConfiglet (sys.withFiles readFile readDir) configPath = readFile file
      ∧ readConfigletDir (sys.withFiles readFile readDir) configPath = readDir file := by
  have hvalid : validatePath (sys.withFiles readFile readDir) configPath = .ok file := h
  rw [readConfiglet, readConfigletDir, hvalid]
  exact ⟨rfl, rfl⟩

/-- Reads stay inside if the resolved path does. -/
theorem readsInside_iff (sys : System) (configPath : String) :
    ReadsInside sys configPath
      ↔ ∀ file, resolvePath sys configPath = .ok file →
          ∀ dir ∈ allowedDirs sys.userDirs, hasPrefix file dir = true →
            ∃ dir' ∈ allowedDirs sys.userDirs, Below dir' file := by
  constructor
  · intro h file hresolve dir hdir hpath
    have hvalid := validatePath_ok_iff.mpr ⟨hresolve, dir, hdir, hpath⟩
    by_contra hout
    -- another content of the file would be returned
    obtain ⟨v, hv⟩ : ∃ v, v ≠ sys.readFile file := by
      rcases sys.readFile file with e | text
      · exact ⟨.ok "", fun h => by cases h⟩
      · exact ⟨.error .notExist, fun h => by cases h⟩
    have hsame := (h (Function.update sys.readFile file v) sys.readDir fun path hinside => by
      have hne : path ≠ file := by
        rintro rfl
        exact hout hinside
      exact ⟨Function.update_of_ne hne _ _, rfl⟩).1
    rw [(readConfiglet_of_validatePath hvalid _ _).1, Function.update_self] at hsame
    exact hv (hsame.trans (readConfiglet_of_validatePath hvalid sys.readFile sys.readDir).1)
  · -- one path is validated, and it is the same with other files
    intro h readFile readDir hagree
    rcases hvalid : validatePath sys configPath with e | file
    · have hvalid' : validatePath (sys.withFiles readFile readDir) configPath = .error e := hvalid
      rw [readConfiglet, readConfiglet, readConfigletDir, readConfigletDir, hvalid, hvalid']
      exact ⟨rfl, rfl⟩
    · obtain ⟨hresolve, dir, hdir, hpath⟩ := validatePath_ok_iff.mp hvalid
      obtain ⟨hfile, hlist⟩ := hagree file (h file hresolve dir hdir hpath)
      have hread := readConfiglet_of_validatePath hvalid readFile readDir
      have hread' := readConfiglet_of_validatePath hvalid sys.readFile sys.readDir
      exact ⟨hread.1.trans (hfile.trans hread'.1.symm), hread.2.trans (hlist.trans hread'.2.symm)⟩

end Reads

/-- **Which paths are judged correctly, and which reads stay inside.**  Of the directories
that a path begins with, the first has to contain it; and a path that is read and that
begins with an allowed directory has to lie in one. -/
theorem allowed_paths_iff (cfgPath : String) {userDirs : List String}
    (hdirs : ∀ dir ∈ userDirs, dir ≠ "") (sys : System) (configPath : String) :
    PatternContains cfgPath userDirs ∧ ReadsInside sys configPath
      ↔ (∀ pre dir post, allowedDirs userDirs = pre ++ dir :: post → hasPrefix cfgPath dir = true →
            ¬ Below dir cfgPath → ∃ dir' ∈ pre, Below dir' cfgPath)
        ∧ ∀ file, resolvePath sys configPath = .ok file →
            ∀ dir ∈ allowedDirs sys.userDirs, hasPrefix file dir = true →
              ∃ dir' ∈ allowedDirs sys.userDirs, Below dir' file := by
  rw [patternContains_iff_find? hdirs, find?_forall_iff fun _ => Below.hasPrefix, readsInside_iff]

/-- A machine without links on which every file holds its own path. -/
def echoSystem : System where
  lookupEnv := fun _ => none
  hostname := .ok "worker"
  uid := 0
  evalSymlinks := fun path => .ok path
  readFile := fun path => .ok path
  readDir := fun _ => .ok []

/-- The configuration of the daemon is inside. -/
theorem allowed_paths_daemon :
    PatternContains "/etc/rte/daemon" ["/home/rte/.rte"]
      ∧ ReadsInside echoSystem "/etc/rte/daemon/config.yaml" := by
  refine (allowed_paths_iff "/etc/rte/daemon" (by decide) echoSystem
    "/etc/rte/daemon/config.yaml").mpr ⟨?_, ?_⟩
  · have hbelow : ∀ dir ∈ allowedDirs ["/home/rte/.rte"], hasPrefix "/etc/rte/daemon" dir = true →
        Below dir "/etc/rte/daemon" := by decide
    intro pre dir post hsplit hpath hnot
    exact absurd (hbelow dir (hsplit ▸ List.mem_append_right _ List.mem_cons_self) hpath) hnot
  · rintro file hfile - - -
    obtain rfl : "/etc/rte/daemon/config.yaml" = file := Except.ok.inj hfile
    exact ⟨"/etc/rte", List.mem_cons_self, by decide⟩

/-- A directory next to an allowed one, with a name that continues its name, is read. -/
theorem sibling_directory_read :
    cleanPath "/etc/rte-backup/secret" = "/etc/rte-backup/secret"
      ∧ isConfigRootAllowed "/etc/rte-backup/secret" [] = "/etc/rte"
      ∧ (∀ dir ∈ allowedDirs echoSystem.userDirs, ¬ Below dir "/etc/rte-backup/secret")
      ∧ readConfiglet echoSystem "/etc/rte-backup/secret" = .ok "/etc/rte-backup/secret" := by
  refine ⟨by decide, by decide, by decide, rfl⟩

end TopologyExporter
