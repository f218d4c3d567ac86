/-
TopologyExporter/Sysinfo.lean

The memory and hugepages of the NUMA nodes, as package `sysinfo` reads them from
sysfs.

The file system is what the three calls of the package return for each path.  A
path is its text: the code compares paths as texts, too.  `Below` is the relation of
a directory to what lies in it.

The readers take a `Handle` with a root directory.  Each fails with the first error
that it meets; the figures gathered up to there are not used by any caller, so the
readers run in `Except String`.
-/
import TopologyExporter.GoString
import TopologyExporter.Monitor

namespace TopologyExporter

open GoMap GoInt GoString

/-! ### Paths -/

/-- The components of a path, cleaned: `out` holds those kept so far, last one first. -/
def cleanComponents (rooted : Bool) : List String → List String → List String
  | [], out => out.reverse
  | c :: cs, out =>
      if c = "" ∨ c = "." then cleanComponents rooted cs out
      else if c = ".." then
        match out with
        | [] => cleanComponents rooted cs (if rooted then [] else [".."])
        | last :: out' =>
            if last = ".." then cleanComponents rooted cs (".." :: out)
            else cleanComponents rooted cs out'
      else cleanComponents rooted cs (c :: out)

/-- `filepath.Clean`. -/
def cleanPath (path : String) : String :=
  let rooted := hasPrefix path "/"
  let cleaned := "/".intercalate (cleanComponents rooted (split path '/') [])
  if rooted then "/" ++ cleaned else if cleaned = "" then "." else cleaned

example : cleanPath "/host//sys/./devices/.." = "/host/sys" := by decide

/-- `filepath.Join` of a clean path and a single name. -/
def child (dir name : String) : String := dir ++ "/" ++ name

/-- `path` is the directory `dir` or lies in it. -/
def Below (dir path : String) : Prop :=
  path = dir ∨ hasPrefix path (if dir = "/" then dir else dir ++ "/") = true

instance (dir path : String) : Decidable (Below dir path) :=
  inferInstanceAs (Decidable (_ ∨ _))

/-! ### The file system -/

/-- `fs.DirEntry`.  The name is a single component of a path. -/
structure DirEntry where
  name : String
  isDir : Bool
  single : name ≠ "" ∧ name ≠ "." ∧ name ≠ ".." ∧ '/' ∉ name.toList

/-- What `os.ReadDir`, `os.ReadFile` and `filepath.EvalSymlinks` return. -/
structure FileSystem where
  readDir : String → Except String (List DirEntry)
  readFile : String → Except String String
  evalSymlinks : String → Except String String

/-- `Handle`. -/
structure Handle where
  root : String

/-- `SysDevicesNode`. -/
def sysDevicesNode : String := "/sys/devices/system/node"

/-- `SysDevicesNodes`. -/
def Handle.sysDevicesNodes (hnd : Handle) : String :=
  if hnd.root = "" then sysDevicesNode else cleanPath (child hnd.root sysDevicesNode)

/-- `SysDevicesNodesNodeNth`. -/
def Handle.sysDevicesNodesNodeNth (hnd : Handle) (nodeID : Int) : String :=
  child hnd.sysDevicesNodes ("node" ++ toString nodeID)

/-! ### The directories of the nodes -/

/-- The node ID in the name of a directory. -/
def detectNodeID (entryName : String) : Except String Int :=
  match atoi (String.ofList (entryName.toList.drop 4)) with
  | .ok nodeID => .ok nodeID
  | .error _ => .error ("cannot detect the node ID for " ++ quote entryName)

/-- The loop of `GetHugepages` and `GetMemory`: what `forNode` finds for each directory
of a node. -/
def forNodes {α : Type} (forNode : Int → Except String α) :
    List DirEntry → Except String (List (Int × α))
  | [] => pure []
  | entry :: entries =>
      if entry.isDir && hasPrefix entry.name "node" then do
        let nodeID ← detectNodeID entry.name
        let found ← forNode nodeID
        let rest ← forNodes forNode entries
        pure ((nodeID, found) :: rest)
      else forNodes forNode entries

/-! ### Hugepages -/

/-- `Hugepages`. -/
structure Hugepages where
  nodeID : Int
  sizeKB : Int
  total : Int
  deriving DecidableEq, Repr

/-- `fmt.Sscanf(entryName, "hugepages-%dkB", &hugepageSizeKB)`: what follows the unit
is not looked at. -/
def scanHugepageSize (entryName : String) : Option Int :=
  if hasPrefix entryName "hugepages-" then
    let rest := (entryName.toList.drop "hugepages-".length).dropWhile fun c => isSpace c && c ≠ '\n'
    let sign := rest.takeWhile fun c => c = '+' ∨ c = '-'
    let digits := (rest.drop sign.length).takeWhile fun c => c.isDigit
    let unit := rest.drop (sign.length + digits.length)
    match parseInt (String.ofList (sign ++ digits)) with
    | (size, none) => if ['k', 'B'].isPrefixOf unit then some size else none
    | (_, some _) => none
  else none

/-- `readIntFromFile`. -/
def readIntFromFile (fs : FileSystem) (path : String) : Except String Int := do
  let data ← fs.readFile path
  atoi (trimSpace data)

/-- The body of the loop of `HugepagesForNode`. -/
def hugepagesEntry (fs : FileSystem) (nodeID : Int) (hpPath : String) (entry : DirEntry) :
    Except String Hugepages :=
  match scanHugepageSize entry.name with
  | none => .error ("malformed hugepages entry " ++ quote entry.name)
  | some hugepageSizeKB =>
      let entryPath := child hpPath entry.name
      match fs.evalSymlinks (child entryPath "nr_hugepages") with
      | .error err => .error ("cannot clean " ++ quote entryPath ++ ": " ++ err)
      | .ok hpCountPath =>
          if hasPrefix hpCountPath hpPath then
            match readIntFromFile fs hpCountPath with
            | .error err => .error ("cannot read from " ++ quote hpCountPath ++ ": " ++ err)
            | .ok totalCount => .ok ⟨nodeID, hugepageSizeKB, totalCount⟩
          else
            .error ("unexpected path resolution: " ++ quote hpCountPath ++ " not subpath of "
              ++ quote hpPath)

/-- `HugepagesForNode`.  An entry that is not a directory is skipped. -/
def hugepagesForNode (fs : FileSystem) (hnd : Handle) (nodeID : Int) :
    Except String (List Hugepages) := do
  let hpPath := child (hnd.sysDevicesNodesNodeNth nodeID) "hugepages"
  let entries ← fs.readDir hpPath
  (entries.filter fun entry => entry.isDir).mapM (hugepagesEntry fs nodeID hpPath)

/-- `GetHugepages`. -/
def getHugepages (fs : FileSystem) (hnd : Handle) : Except String (List Hugepages) := do
  let entries ← fs.readDir hnd.sysDevicesNodes
  let perNode ← forNodes (fun nodeID => (hugepagesForNode fs hnd nodeID).mapError fun err =>
    "cannot find the hugepages on NUMA node " ++ toString nodeID ++ ": " ++ err) entries
  pure (perNode.flatMap Prod.snd)

/-! ### Memory -/

/-- The first line that mentions `MemTotal`, as `readTotalMemoryFromMeminfo` reads it. -/
def totalMemoryOfLine (line : String) : Except String Int :=
  match split line ':' with
  | [_, memTotal] =>
      let memValue := trim memTotal "\t\n kB"
      match parseInt memValue with
      | (convertedValue, none) => .ok (wrap (1024 * convertedValue))
      | (_, some _) => .error ("failed to convert value: " ++ memValue)
  | _ => .error ("MemTotal has unexpected format: " ++ line)

/-- `readTotalMemoryFromMeminfo`. -/
def readTotalMemoryFromMeminfo (fs : FileSystem) (path : String) : Except String Int := do
  let data ← fs.readFile path
  match (split data '\n').find? fun line => contains line "MemTotal" with
  | some line => totalMemoryOfLine line
  | none => .error ("failed to find MemTotal field under the file " ++ quote path)

/-- `MemoryForNode`. -/
def memoryForNode (fs : FileSystem) (hnd : Handle) (nodeID : Int) : Except String Int :=
  readTotalMemoryFromMeminfo fs (child (hnd.sysDevicesNodesNodeNth nodeID) "meminfo")

/-- `GetMemory`. -/
def getMemory (fs : FileSystem) (hnd : Handle) : Except String (GoMap Int Int) := do
  let entries ← fs.readDir hnd.sysDevicesNodes
  let perNode ← forNodes (fun nodeID => (memoryForNode fs hnd nodeID).mapError fun err =>
    "cannot find the memory on NUMA node " ++ toString nodeID ++ ": " ++ err) entries
  pure (perNode.foldl (fun memory e => memory.insert e.1 e.2) ∅)

/-! ### Both -/

/-- `GetMemoryResourceCounters`. -/
def getMemoryResourceCounters (qty : QuantityLibrary) (fs : FileSystem) (hnd : Handle) :
    Except String MemoryResourceCounters := do
  let hugepages ← getHugepages fs hnd
  let numaCounters : MemoryResourceCounters := hugepages.foldl
    (fun numaCounters hpage =>
      numaCounters.upsert (hugepageResourceNameFromSize qty hpage.sizeKB) fun numaDevs =>
        Finmap.insert hpage.nodeID (wrap (hpage.total * hpage.sizeKB * 1024)) (numaDevs.getD ∅))
    ((∅ : MemoryResourceCounters).insert resourceMemory ∅)
  let memory ← getMemory fs hnd
  pure (numaCounters.upsert resourceMemory fun numaDevs => memory ∪ numaDevs.getD ∅)

/-! ### Binary notation -/

/-- A number of bytes in binary notation: the largest suffix that leaves an integer. -/
def binaryText (n : Nat) : List String → String
  | [] => toString n
  | [suffix] => toString n ++ suffix
  | suffix :: suffixes =>
      if n ≠ 0 ∧ n % 1024 = 0 then binaryText (n / 1024) suffixes else toString n ++ suffix

/-- The suffixes of a quantity in binary notation. -/
def binarySuffixes : List String := ["", "Ki", "Mi", "Gi", "Ti", "Pi", "Ei"]

/-- A size is written as its odd part, so to speak, and the suffix of its power of 1024. -/
theorem binaryText_eq (n : Nat) (suffixes : List String) (hne : suffixes ≠ []) :
    ∃ e q suffix, suffixes[e]? = some suffix ∧ n = q * 1024 ^ e
      ∧ binaryText n suffixes = Nat.repr q ++ suffix := by
  induction suffixes generalizing n with
  | nil => exact absurd rfl hne
  | cons suffix suffixes ih =>
      have hstop : ∃ e q suffix', (suffix :: suffixes)[e]? = some suffix' ∧ n = q * 1024 ^ e
          ∧ Nat.repr n ++ suffix = Nat.repr q ++ suffix' := ⟨0, n, suffix, rfl, by simp, rfl⟩
      rcases suffixes with - | ⟨suffix', suffixes⟩
      · exact hstop
      · show ∃ e q suffix'', _ ∧ _ ∧ (if n ≠ 0 ∧ n % 1024 = 0 then _ else _) = _
        split_ifs with hdvd
        · obtain ⟨e, q, s, hs, hn, htext⟩ := ih (n / 1024) (List.cons_ne_nil _ _)
          refine ⟨e + 1, q, s, by simpa using hs, ?_, htext⟩
          have hdiv : n = n / 1024 * 1024 := (Nat.div_mul_cancel (Nat.dvd_of_mod_eq_zero hdvd.2)).symm
          rw [pow_succ, ← mul_assoc, ← hn]
          exact hdiv
        · exact hstop

theorem binaryText_injective {n m : Nat}
    (h : binaryText n binarySuffixes = binaryText m binarySuffixes) : n = m := by
  have hnodup : binarySuffixes.Nodup := by decide
  have hplain : ∀ (e : Nat) (s : String), binarySuffixes[e]? = some s →
      ∀ c ∈ s.toList.head?, c.isDigit = false := by
    intro e s hs c hc
    have hall : (binarySuffixes.all fun s => s.toList.all fun c => !c.isDigit) = true := by decide
    have hmem := List.all_eq_true.mp hall s (List.mem_of_getElem? hs)
    simpa using List.all_eq_true.mp hmem c (List.mem_of_mem_head? hc)
  obtain ⟨e, q, s, hs, hn, htext⟩ := binaryText_eq n binarySuffixes (by decide)
  obtain ⟨e', q', s', hs', hm, htext'⟩ := binaryText_eq m binarySuffixes (by decide)
  have hlists : (Nat.repr q).toList ++ s.toList = (Nat.repr q').toList ++ s'.toList := by
    rw [← String.toList_append, ← String.toList_append, ← htext, ← htext', h]
  obtain ⟨rfl, hsuffix⟩ := repr_append_inj (hplain e s hs) (hplain e' s' hs') hlists
  obtain rfl := String.toList_inj.mp hsuffix
  have he : e = e' :=
    (List.getElem?_inj (List.getElem?_eq_some_iff.mp hs).1 hnodup).mp (hs.trans hs'.symm)
  rw [hn, hm, he]

/-- The same with a sign. -/
def signedBinaryText (n : Int) : String :=
  (if n < 0 then "-" else "") ++ binaryText n.natAbs binarySuffixes

theorem signedBinaryText_2Mi : signedBinaryText (2048 * 1024) = "2Mi" := by decide

theorem signedBinaryText_1Gi : signedBinaryText (1048576 * 1024) = "1Gi" := by decide

theorem signedBinaryText_injective (n m : Nat) (_ : n < 2 ^ 63) (_ : m < 2 ^ 63)
    (h : signedBinaryText n = signedBinaryText m) : n = m := by
  have hsign : ∀ k : Nat, signedBinaryText k = binaryText k binarySuffixes := by
    intro k
    rw [signedBinaryText, if_neg (by omega), Int.natAbs_natCast, String.empty_append]
  rw [hsign, hsign] at h
  exact binaryText_injective h

/-- A library that writes quantities in binary notation. -/
def binaryNotation : QuantityLibrary where
  binarySI := signedBinaryText
  binarySI_2Mi := signedBinaryText_2Mi
  binarySI_1Gi := signedBinaryText_1Gi
  binarySI_injective := signedBinaryText_injective

end TopologyExporter
