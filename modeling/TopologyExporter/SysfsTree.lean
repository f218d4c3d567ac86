/-
TopologyExporter/SysfsTree.lean

The sysfs tree of a machine, written by the kernel and read by package `sysinfo`.

A `MemoryTree` is what the kernel has to say: for each NUMA node its memory, and its
hugepages of each size.  `FileSystem.HasTree` says how it writes this down: a directory
for each node, in it a `meminfo` file and a directory for each size of hugepages, with
the number of pages in a file.  Other files may lie around.

`sysfs_tree_read_back` is the round trip: `GetMemoryResourceCounters` finds every figure
of the tree, in bytes, under the name of its resource, and nothing else.  For this the
names of hugepages must tell the sizes apart (`sizeKB_of_name_eq`).
-/
import TopologyExporter.Meminfo

namespace TopologyExporter

open GoMap GoInt GoString

/-! ### The tree -/

/-- The hugepages of one size on a node. -/
structure HugepagePool where
  sizeKB : Nat
  count : Nat
  size_pos : 0 < sizeKB
  size_fits : sizeKB * 1024 < 2 ^ 63
  fits : count * sizeKB * 1024 < 2 ^ 63

/-- A NUMA node: its total memory and its hugepages. -/
structure MemoryNode where
  id : Nat
  memoryKB : Nat
  pools : List HugepagePool
  id_fits : id < 2 ^ 63
  memory_fits : 1024 * memoryKB < 2 ^ 63
  sizes_nodup : (pools.map HugepagePool.sizeKB).Nodup

/-- The nodes of a machine. -/
structure MemoryTree where
  nodes : List MemoryNode
  ids_nodup : (nodes.map MemoryNode.id).Nodup

/-- The directory of a size of hugepages. -/
def HugepagePool.dirName (pool : HugepagePool) : String :=
  "hugepages-" ++ Nat.repr pool.sizeKB ++ "kB"

/-- The directory of a node. -/
def MemoryNode.dirName (node : MemoryNode) : String := "node" ++ Nat.repr node.id

/-- The number of pages stands in a file in or below the directory of the hugepages. -/
def FileSystem.HasPool (fs : FileSystem) (hpPath : String) (pool : HugepagePool) : Prop :=
  ∃ path, fs.evalSymlinks (child (child hpPath pool.dirName) "nr_hugepages") = .ok path
    ∧ hasPrefix path hpPath = true ∧ fs.readFile path = .ok (Nat.repr pool.count ++ "\n")

/-- The directory of a node has a `meminfo` file and one directory for each size of
hugepages. -/
structure FileSystem.HasNode (fs : FileSystem) (nodePath : String) (node : MemoryNode) : Prop where
  meminfo : ∃ pre l post lineEnd, l.key = "MemTotal" ∧ l.value = node.memoryKB
    ∧ (∀ l' ∈ pre, contains l'.key "MemTotal" = false)
    ∧ fs.readFile (child nodePath "meminfo") = .ok (meminfoText (pre ++ l :: post) lineEnd)
  hugepages : ∃ entries, fs.readDir (child nodePath "hugepages") = .ok entries
    ∧ (entries.filter fun entry => entry.isDir).map DirEntry.name = node.pools.map HugepagePool.dirName
  pools : ∀ pool ∈ node.pools, fs.HasPool (child nodePath "hugepages") pool

/-- The entry of a directory that the readers take for a node. -/
def DirEntry.isNode (entry : DirEntry) : Bool := entry.isDir && hasPrefix entry.name "node"

/-- The file system has the tree. -/
structure FileSystem.HasTree (fs : FileSystem) (hnd : Handle) (tree : MemoryTree) : Prop where
  dirs : ∃ entries, fs.readDir hnd.sysDevicesNodes = .ok entries
    ∧ (entries.filter DirEntry.isNode).map DirEntry.name = tree.nodes.map MemoryNode.dirName
  nodes : ∀ node ∈ tree.nodes, fs.HasNode (hnd.sysDevicesNodesNodeNth node.id) node

/-- The tree has the figure `v` for resource `r` on node `k`, in bytes. -/
def MemoryTree.Has (tree : MemoryTree) (qty : QuantityLibrary) (r : String) (k v : Int) : Prop :=
  ∃ node ∈ tree.nodes, k = node.id
    ∧ (r = resourceMemory ∧ v = 1024 * node.memoryKB
      ∨ ∃ pool ∈ node.pools, r = hugepageResourceNameFromSize qty pool.sizeKB
        ∧ v = pool.count * pool.sizeKB * 1024)

/-! ### Reading numbers -/

theorem detectNodeID_dirName (node : MemoryNode) : detectNodeID node.dirName = .ok node.id := by
  have hrest : String.ofList (node.dirName.toList.drop 4) = Nat.repr node.id := by
    rw [MemoryNode.dirName, String.toList_append]
    exact String.ofList_toList
  rw [detectNodeID, hrest, atoi_repr node.id_fits]

theorem HugepagePool.count_fits (pool : HugepagePool) : pool.count < 2 ^ 63 := by
  have hle : pool.count ≤ pool.count * pool.sizeKB := Nat.le_mul_of_pos_right _ pool.size_pos
  have hfits := pool.fits
  omega

/-- The file of a pool, without its line end. -/
theorem readIntFromFile_repr {fs : FileSystem} {path : String} {n : Nat} (h : n < 2 ^ 63)
    (hread : fs.readFile path = .ok (Nat.repr n ++ "\n")) : readIntFromFile fs path = .ok n := by
  simp only [readIntFromFile, hread, bind, Except.bind]
  rw [trimSpace_repr, atoi_repr h]

/-- The size is read from the name of the directory. -/
theorem scanHugepageSize_dirName (pool : HugepagePool) :
    scanHugepageSize pool.dirName = some (pool.sizeKB : Int) := by
  have hfront : hasPrefix pool.dirName "hugepages-" = true := by
    rw [HugepagePool.dirName, String.append_assoc]
    exact hasPrefix_append _ _
  have hrest : pool.dirName.toList.drop "hugepages-".length
      = (Nat.repr pool.sizeKB).toList ++ ['k', 'B'] := by
    rw [HugepagePool.dirName, String.append_assoc, String.toList_append, String.toList_append]
    exact List.drop_left
  -- the digits start right away, without blanks or a sign
  obtain ⟨c, cs, hcs⟩ : ∃ c cs, (Nat.repr pool.sizeKB).toList = c :: cs :=
    List.exists_cons_of_ne_nil (by rw [toList_repr]; exact Nat.toDigits_ne_nil)
  have hdigit : c.isDigit = true := by
    refine isDigit_of_mem_repr (n := pool.sizeKB) ?_
    rw [hcs]
    exact List.mem_cons_self
  have hblank : ((Nat.repr pool.sizeKB).toList ++ ['k', 'B']).dropWhile
      (fun c => isSpace c && c ≠ '\n') = (Nat.repr pool.sizeKB).toList ++ ['k', 'B'] := by
    rw [hcs, List.cons_append, List.dropWhile_cons_of_neg]
    simp [isSpace_of_isDigit hdigit]
  have hsign : ((Nat.repr pool.sizeKB).toList ++ ['k', 'B']).takeWhile
      (fun c => decide (c = '+' ∨ c = '-')) = [] := by
    rw [hcs, List.cons_append, List.takeWhile_cons_of_neg]
    rw [decide_eq_true_eq]
    rintro (rfl | rfl)
    · cases hdigit
    · cases hdigit
  have hunit : ∀ c ∈ ['k', 'B'].head?, c.isDigit = false := by
    intro c hc
    rw [← Option.mem_some.mp hc]
    decide
  have hdigits := takeWhile_repr_append pool.sizeKB ['k', 'B'] hunit
  have hfits := pool.size_fits
  have hparse := parseInt_repr (n := pool.sizeKB) (by omega)
  rw [if_neg (by omega)] at hparse
  simp only [scanHugepageSize, if_pos hfront, hrest, hblank, hsign, List.length_nil, List.drop_zero,
    hdigits, List.nil_append, String.ofList_toList, hparse, Nat.zero_add, List.drop_left]
  rfl

/-! ### Reading directories -/

/-- A loop over the entries of a directory, by what each name stands for. -/
theorem mapM_of_names {α β : Type} {f : DirEntry → Except String β} {name : α → String} {g : α → β}
    {entries : List DirEntry} {l : List α} (hnames : entries.map DirEntry.name = l.map name)
    (h : ∀ a ∈ l, ∀ entry : DirEntry, entry.name = name a → f entry = .ok (g a)) :
    entries.mapM f = .ok (l.map g) := by
  induction entries generalizing l with
  | nil =>
      rw [List.map_eq_nil_iff.mp hnames.symm]
      rfl
  | cons entry entries ih =>
      rcases l with - | ⟨a, l⟩
      · cases hnames
      · obtain ⟨hname, hrest⟩ := List.cons.inj hnames
        rw [List.mapM_cons, h a List.mem_cons_self entry hname,
          ih hrest fun a' ha' => h a' (List.mem_cons_of_mem a ha')]
        rfl

/-- What is found for the directory of a node. -/
def forEntry {α : Type} (forNode : Int → Except String α) (entry : DirEntry) :
    Except String (Int × α) := do
  let nodeID ← detectNodeID entry.name
  let found ← forNode nodeID
  pure (nodeID, found)

/-- The loop over the directories of nodes. -/
theorem forNodes_eq_mapM {α : Type} (forNode : Int → Except String α) (entries : List DirEntry) :
    forNodes forNode entries = (entries.filter DirEntry.isNode).mapM (forEntry forNode) := by
  induction entries with
  | nil => rfl
  | cons entry entries ih =>
      by_cases hnode : entry.isNode = true
      · rw [List.filter_cons_of_pos hnode, List.mapM_cons, ← ih, forNodes, forEntry]
        rw [DirEntry.isNode] at hnode
        rw [if_pos hnode]
        rcases detectNodeID entry.name with err | nodeID
        · rfl
        · show (forNode nodeID >>= _) = (forNode nodeID >>= _) >>= _
          rcases forNode nodeID with err | found
          · rfl
          · rfl
      · rw [List.filter_cons_of_neg hnode, ← ih, forNodes]
        rw [DirEntry.isNode] at hnode
        rw [if_neg hnode]

section Tree

variable {fs : FileSystem} {hnd : Handle} {tree : MemoryTree}

/-- What is found for each node of the tree. -/
theorem forNodes_of_tree {α : Type} {forNode : Int → Except String α} {g : MemoryNode → α}
    {entries : List DirEntry}
    (hdirs : (entries.filter DirEntry.isNode).map DirEntry.name = tree.nodes.map MemoryNode.dirName)
    (h : ∀ node ∈ tree.nodes, forNode node.id = .ok (g node)) :
    forNodes forNode entries = .ok (tree.nodes.map fun node => ((node.id : Int), g node)) := by
  rw [forNodes_eq_mapM]
  refine mapM_of_names hdirs fun node hnode entry hentry => ?_
  simp only [forEntry, hentry, detectNodeID_dirName, h node hnode, bind, Except.bind]
  rfl

/-- The hugepages of a node, as they are read. -/
def MemoryNode.hugepages (node : MemoryNode) : List Hugepages :=
  node.pools.map fun pool => ⟨node.id, pool.sizeKB, pool.count⟩

theorem hugepagesForNode_of_node {node : MemoryNode}
    (h : fs.HasNode (hnd.sysDevicesNodesNodeNth node.id) node) :
    hugepagesForNode fs hnd node.id = .ok node.hugepages := by
  obtain ⟨entries, hread, hnames⟩ := h.hugepages
  simp only [hugepagesForNode, hread, bind, Except.bind]
  refine mapM_of_names hnames fun pool hpool entry hentry => ?_
  obtain ⟨path, hresolved, hbelow, hcount⟩ := h.pools pool hpool
  simp only [hugepagesEntry, hentry, scanHugepageSize_dirName, hresolved, if_pos hbelow,
    readIntFromFile_repr pool.count_fits hcount]

theorem memoryForNode_of_node {node : MemoryNode}
    (h : fs.HasNode (hnd.sysDevicesNodesNodeNth node.id) node) :
    memoryForNode fs hnd node.id = .ok (1024 * node.memoryKB) := by
  obtain ⟨pre, l, post, lineEnd, hkey, hvalue, hothers, hread⟩ := h.meminfo
  have hfits := node.memory_fits
  rw [← hvalue] at hfits ⊢
  exact readTotalMemory_meminfoText hkey hothers hfits hread

theorem getHugepages_of_tree (h : fs.HasTree hnd tree) :
    getHugepages fs hnd = .ok (tree.nodes.flatMap MemoryNode.hugepages) := by
  obtain ⟨entries, hread, hdirs⟩ := h.dirs
  simp only [getHugepages, hread, bind, Except.bind]
  rw [forNodes_of_tree (g := MemoryNode.hugepages) hdirs fun node hnode => by
    rw [hugepagesForNode_of_node (h.nodes node hnode)]; rfl]
  simp only [List.flatMap_map]
  rfl

/-- The memory of the nodes. -/
def MemoryTree.memory (tree : MemoryTree) : List (Int × Int) :=
  tree.nodes.map fun node => ((node.id : Int), (1024 * node.memoryKB : Int))

theorem getMemory_of_tree (h : fs.HasTree hnd tree) :
    getMemory fs hnd
      = .ok (tree.memory.foldl (fun (memory : GoMap Int Int) e => memory.insert e.1 e.2) ∅) := by
  obtain ⟨entries, hread, hdirs⟩ := h.dirs
  simp only [getMemory, hread, bind, Except.bind]
  rw [forNodes_of_tree (g := fun node => (1024 * node.memoryKB : Int)) hdirs fun node hnode => by
    rw [memoryForNode_of_node (h.nodes node hnode)]; rfl]
  rfl

end Tree

/-! ### The counters -/

/-- The figure of hugepages, with the node it belongs to. -/
def Hugepages.figure (hpage : Hugepages) : Int × Int :=
  (hpage.nodeID, wrap (hpage.total * hpage.sizeKB * 1024))

/-- The name that the figure is counted under. -/
def Hugepages.resourceName (qty : QuantityLibrary) (hpage : Hugepages) : String :=
  hugepageResourceNameFromSize qty hpage.sizeKB

section Counters

variable (qty : QuantityLibrary)

/-- The first loop of `GetMemoryResourceCounters`. -/
def hugepageCounters (hugepages : List Hugepages) : MemoryResourceCounters :=
  hugepages.foldl
    (fun numaCounters hpage => numaCounters.upsert (hpage.resourceName qty) fun numaDevs =>
      Finmap.insert hpage.figure.1 hpage.figure.2 (numaDevs.getD ∅))
    ((∅ : MemoryResourceCounters).insert resourceMemory ∅)

/-- What stands under a name other than that of memory. -/
theorem lookup_hugepageCounters {hugepages : List Hugepages} {r : String} (hr : r ≠ resourceMemory)
    (hnodup : ((hugepages.filter fun hpage => hpage.resourceName qty = r).map fun hpage =>
      hpage.nodeID).Nodup) (k v : Int) :
    ((hugepageCounters qty hugepages).lookup r).bind (fun numaDevs => numaDevs.lookup k) = some v
      ↔ ∃ hpage ∈ hugepages, hpage.resourceName qty = r ∧ hpage.figure = (k, v) := by
  have hstart : ((∅ : MemoryResourceCounters).insert resourceMemory ∅).lookup r = none := by
    rw [lookup_insert_eq, if_neg hr, Finmap.lookup_empty]
  have hlookup := lookup_foldl_upsert (Hugepages.resourceName qty)
    (fun hpage (numaDevs : Option (GoMap Int Int)) =>
      Finmap.insert hpage.figure.1 hpage.figure.2 (numaDevs.getD ∅)) hugepages
    ((∅ : MemoryResourceCounters).insert resourceMemory ∅) r
  rw [hugepageCounters, hlookup, hstart, foldl_some_getD (fun (numaDevs : GoMap Int Int) (hpage : Hugepages) =>
    Finmap.insert hpage.figure.1 hpage.figure.2 numaDevs)]
  have hmem : (k, v) ∈ (hugepages.filter fun hpage => hpage.resourceName qty = r).map Hugepages.figure
      ↔ ∃ hpage ∈ hugepages, hpage.resourceName qty = r ∧ hpage.figure = (k, v) := by
    simp only [List.mem_map, List.mem_filter, decide_eq_true_eq, and_assoc]
  rw [← hmem]
  split_ifs with hnil
  · rw [hnil]
    simp
  · have hkeys : (((hugepages.filter fun hpage => hpage.resourceName qty = r).map
        Hugepages.figure).map Prod.fst).Nodup := by
      rw [List.map_map]
      exact hnodup
    rw [Option.bind_some, ← lookup_foldl_insert_iff hkeys, List.foldl_map]

/-- Nothing stands under the name of memory. -/
theorem lookup_hugepageCounters_memory {hugepages : List Hugepages}
    (h : ∀ hpage ∈ hugepages, hpage.resourceName qty ≠ resourceMemory) :
    (hugepageCounters qty hugepages).lookup resourceMemory = some ∅ := by
  have hlookup := lookup_foldl_upsert (Hugepages.resourceName qty)
    (fun hpage (numaDevs : Option (GoMap Int Int)) =>
      Finmap.insert hpage.figure.1 hpage.figure.2 (numaDevs.getD ∅)) hugepages
    ((∅ : MemoryResourceCounters).insert resourceMemory ∅) resourceMemory
  have hnil : hugepages.filter (fun hpage => hpage.resourceName qty = resourceMemory) = [] :=
    List.filter_eq_nil_iff.mpr fun hpage hmem => by simpa using h hpage hmem
  rw [hugepageCounters, hlookup, hnil, List.foldl_nil, lookup_insert_eq, if_pos rfl]

/-! ### What the tree says -/

/-- **The name of hugepages tells their size.** -/
theorem sizeKB_of_name_eq {pool pool' : HugepagePool}
    (h : hugepageResourceNameFromSize qty pool.sizeKB
      = hugepageResourceNameFromSize qty pool'.sizeKB) : pool.sizeKB = pool'.sizeKB := by
  have hname : ∀ p : HugepagePool, hugepageResourceNameFromSize qty p.sizeKB
      = "hugepages-" ++ qty.binarySI (p.sizeKB * 1024 : Nat) := by
    intro p
    have hfits := p.size_fits
    rw [hugepageResourceNameFromSize_eq qty ⟨by omega, by omega⟩, Nat.cast_mul]
    rfl
  rw [hname, hname, String.append_right_inj] at h
  have hsizes := qty.binarySI_injective _ _ pool.size_fits pool'.size_fits h
  omega

theorem figure_eq (nodeID : Int) (pool : HugepagePool) :
    Hugepages.figure ⟨nodeID, pool.sizeKB, pool.count⟩
      = (nodeID, (pool.count * pool.sizeKB * 1024 : Int)) := by
  have hfits := pool.fits
  have hcast : (pool.count * pool.sizeKB * 1024 : Int) = ((pool.count * pool.sizeKB * 1024 : Nat) : Int) := by
    push_cast
    rfl
  rw [Hugepages.figure, wrap_of_inRange]
  rw [hcast]
  exact ⟨by omega, by omega⟩

/-- Hugepages of one name are on different nodes. -/
theorem nodup_nodeIDs (tree : MemoryTree) (r : String) :
    (((tree.nodes.flatMap MemoryNode.hugepages).filter fun hpage => hpage.resourceName qty = r).map
      fun hpage => hpage.nodeID).Nodup := by
  rw [List.Nodup, List.pairwise_map, List.pairwise_filter, List.pairwise_flatMap]
  constructor
  · -- on one node the sizes differ, and so do the names
    intro node _
    rw [MemoryNode.hugepages, List.pairwise_map]
    refine (List.pairwise_map.mp node.sizes_nodup).imp fun {pool pool'} hsizes hname hname' => ?_
    rw [decide_eq_true_eq] at hname hname'
    exact absurd (sizeKB_of_name_eq qty (hname.trans hname'.symm)) hsizes
  · refine (List.pairwise_map.mp tree.ids_nodup).imp fun {node node'} hids hpage hmem hpage' hmem' _ _ => ?_
    obtain ⟨pool, -, rfl⟩ := List.mem_map.mp hmem
    obtain ⟨pool', -, rfl⟩ := List.mem_map.mp hmem'
    exact fun heq => hids (Int.ofNat.inj heq)

theorem resourceMemory_ne_hugepages (sizeKB : Int) :
    hugepageResourceNameFromSize qty sizeKB ≠ resourceMemory := by
  intro h
  have hfront : hasPrefix (hugepageResourceNameFromSize qty sizeKB) "hugepages-" = true :=
    hasPrefix_append _ _
  rw [h] at hfront
  exact absurd hfront (by decide)

/-- The memory of the nodes, read back. -/
theorem mem_memory_iff (tree : MemoryTree) (k v : Int) :
    (k, v) ∈ tree.memory ↔ tree.Has qty resourceMemory k v := by
  rw [MemoryTree.memory, List.mem_map]
  constructor
  · rintro ⟨node, hnode, hfigure⟩
    obtain ⟨rfl, rfl⟩ := Prod.mk.inj hfigure
    exact ⟨node, hnode, rfl, .inl ⟨rfl, rfl⟩⟩
  · rintro ⟨node, hnode, rfl, ⟨-, rfl⟩ | ⟨pool, -, hname, -⟩⟩
    · exact ⟨node, hnode, rfl⟩
    · exact absurd hname.symm (resourceMemory_ne_hugepages qty pool.sizeKB)

/-- **The sysfs tree is read back.**  If the file system has the tree below the root of the
handle, the counters are those of the tree: memory and hugepages of every size, in bytes, on
each node, and nothing else. -/
theorem sysfs_tree_read_back {fs : FileSystem} {hnd : Handle} {tree : MemoryTree}
    (h : fs.HasTree hnd tree) :
    ∃ counters, getMemoryResourceCounters qty fs hnd = .ok counters
      ∧ ∀ r k v, (counters.lookup r).bind (fun numaDevs => numaDevs.lookup k) = some v
          ↔ tree.Has qty r k v := by
  have hread : getMemoryResourceCounters qty fs hnd
      = .ok ((hugepageCounters qty (tree.nodes.flatMap MemoryNode.hugepages)).upsert resourceMemory
          fun numaDevs => tree.memory.foldl (fun (memory : GoMap Int Int) e => memory.insert e.1 e.2) ∅
            ∪ numaDevs.getD ∅) := by
    simp only [getMemoryResourceCounters, getHugepages_of_tree h, getMemory_of_tree h, bind,
      Except.bind]
    rfl
  refine ⟨_, hread, fun r k v => ?_⟩
  rw [lookup_upsert]
  split_ifs with hr
  · subst hr
    have hnames : ∀ hpage ∈ tree.nodes.flatMap MemoryNode.hugepages,
        hpage.resourceName qty ≠ resourceMemory := by
      intro hpage hmem
      obtain ⟨node, -, hpage'⟩ := List.mem_flatMap.mp hmem
      obtain ⟨pool, -, rfl⟩ := List.mem_map.mp hpage'
      exact resourceMemory_ne_hugepages qty pool.sizeKB
    have hids : (tree.memory.map Prod.fst).Nodup := by
      have hmap : tree.memory.map Prod.fst = (tree.nodes.map MemoryNode.id).map Nat.cast := by
        rw [MemoryTree.memory, List.map_map, List.map_map]
        rfl
      rw [hmap]
      exact tree.ids_nodup.map Nat.cast_injective
    rw [lookup_hugepageCounters_memory qty hnames, Option.getD_some, Finmap.union_empty,
      Option.bind_some, lookup_foldl_insert_iff hids, mem_memory_iff qty]
  · rw [lookup_hugepageCounters qty hr (nodup_nodeIDs qty tree r)]
    constructor
    · rintro ⟨hpage, hmem, hname, hfigure⟩
      obtain ⟨node, hnode, hpage'⟩ := List.mem_flatMap.mp hmem
      obtain ⟨pool, hpool, rfl⟩ := List.mem_map.mp hpage'
      rw [figure_eq] at hfigure
      obtain ⟨rfl, rfl⟩ := Prod.mk.inj hfigure
      exact ⟨node, hnode, rfl, .inr ⟨pool, hpool, hname.symm, rfl⟩⟩
    · rintro ⟨node, hnode, rfl, ⟨hmemory, -⟩ | ⟨pool, hpool, rfl, rfl⟩⟩
      · exact absurd hmemory hr
      · exact ⟨_, List.mem_flatMap.mpr ⟨node, hnode, List.mem_map_of_mem hpool⟩, rfl, figure_eq _ pool⟩

end Counters

/-- One node with three hugepages of 2 MB. -/
def oneNodeTree : MemoryTree where
  nodes := [{ id := 0, memoryKB := 32718644
              pools := [{ sizeKB := 2048, count := 3, size_pos := by decide, size_fits := by decide
                          fits := by decide }]
              id_fits := by decide, memory_fits := by decide, sizes_nodup := by decide }]
  ids_nodup := by decide

/-- A single component of a path, as `DirEntry` requires it. -/
def IsEntryName (name : String) : Prop :=
  name ≠ "" ∧ name ≠ "." ∧ name ≠ ".." ∧ '/' ∉ name.toList

instance (name : String) : Decidable (IsEntryName name) := inferInstanceAs (Decidable (_ ∧ _))

theorem isEntryName_node : IsEntryName "node0" := by decide

theorem isEntryName_online : IsEntryName "online" := by decide

theorem isEntryName_hugepages : IsEntryName "hugepages-2048kB" := by decide

/-- The directory of the node, with a file next to it. -/
def nodeEntries : List DirEntry :=
  [⟨"node0", true, isEntryName_node⟩, ⟨"online", false, isEntryName_online⟩]

/-- The directory of its hugepages. -/
def hugepagesEntries : List DirEntry := [⟨"hugepages-2048kB", true, isEntryName_hugepages⟩]

/-- Its sysfs. -/
def oneNodeSysfs : FileSystem where
  readDir path := if path = sysDevicesNode then .ok nodeEntries else .ok hugepagesEntries
  readFile path :=
    if path = "/sys/devices/system/node/node0/meminfo"
      then .ok (meminfoText [hugePagesTotalLine, memTotalLine] true)
    else .ok "3\n"
  evalSymlinks path := .ok path

theorem hasTree_oneNodeSysfs : oneNodeSysfs.HasTree ⟨""⟩ oneNodeTree := by
  have hnodes : oneNodeSysfs.readDir sysDevicesNode = .ok nodeEntries := by
    simp [oneNodeSysfs]
  have hhugepages : oneNodeSysfs.readDir "/sys/devices/system/node/node0/hugepages"
      = .ok hugepagesEntries := by
    simp [oneNodeSysfs, sysDevicesNode]
  have hmeminfo : oneNodeSysfs.readFile "/sys/devices/system/node/node0/meminfo"
      = .ok (meminfoText [hugePagesTotalLine, memTotalLine] true) := by
    simp [oneNodeSysfs]
  have hcount : oneNodeSysfs.readFile
      "/sys/devices/system/node/node0/hugepages/hugepages-2048kB/nr_hugepages" = .ok "3\n" := by
    simp [oneNodeSysfs]
  refine ⟨⟨_, hnodes, by decide⟩, fun node hnode => ?_⟩
  obtain rfl := List.mem_singleton.mp hnode
  refine ⟨⟨[hugePagesTotalLine], memTotalLine, [], true, rfl, rfl, by decide, hmeminfo⟩,
    ⟨_, hhugepages, by decide⟩, fun pool hpool => ?_⟩
  obtain rfl := List.mem_singleton.mp hpool
  exact ⟨_, rfl, by decide, hcount⟩

theorem sysfs_tree_read_back_one_node :
    ∃ counters, getMemoryResourceCounters binaryNotation oneNodeSysfs ⟨""⟩ = .ok counters
      ∧ ∀ r k v, (counters.lookup r).bind (fun numaDevs => numaDevs.lookup k) = some v
          ↔ oneNodeTree.Has binaryNotation r k v :=
  sysfs_tree_read_back binaryNotation hasTree_oneNodeSysfs

end TopologyExporter
