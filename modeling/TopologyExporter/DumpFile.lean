/-
TopologyExporter/DumpFile.lean

The status file of the pod fingerprint (`pfpdump.go`).

Each completed fingerprint is written to the same file, for other processes to read.
`ToFile` fills a temporary file and renames it.  Every call on the way may fail, a
failed write may leave some of its data, and the program may be killed between two
calls, so what counts is the state after each of them.

The file is an atomic register (`dump_replaces_whole`): at every moment of the loop it
has what the last dump without an error has written, or already what the present one
writes.  A dump that reports an error has not changed it.  No other file that was there
is touched, and nothing is left behind unless a temporary file cannot be removed.

The parts: paths, the calls, one dump, the loop.
-/
import TopologyExporter.FileNames
import TopologyExporter.Interaction

namespace TopologyExporter

open Interaction GoMap GoString

/-! ### Names of temporary files -/

/-- `prefixAndSuffix` of package `os`: what stands before and after the last star. -/
def prefixAndSuffix (pattern : String) : List Char × List Char :=
  match pattern.toList.reverse.dropWhile fun c => c ≠ '*' with
  | [] => (pattern.toList, [])
  | _ :: before =>
      (before.reverse, (pattern.toList.reverse.takeWhile fun c => c ≠ '*').reverse)

/-- The number comes in between. -/
def tempBase (pattern : String) (random : Nat) : List Char :=
  (prefixAndSuffix pattern).1 ++ (Nat.repr random).toList ++ (prefixAndSuffix pattern).2

/-- The name that `os.CreateTemp` tries. -/
def tempName (tempDir dir pattern : String) (random : Nat) : String :=
  let dir := if dir = "" then tempDir else dir
  let sep := if dir.toList.getLast? = some '/' then "" else "/"
  dir ++ sep ++ String.ofList (tempBase pattern random)

/-- What is left of the pattern: all of it, or all but one star. -/
theorem prefixAndSuffix_cases (pattern : String) :
    prefixAndSuffix pattern = (pattern.toList, [])
      ∨ ∃ star, pattern.toList = (prefixAndSuffix pattern).1 ++ star :: (prefixAndSuffix pattern).2 := by
  have happend := List.takeWhile_append_dropWhile (p := fun c => decide (c ≠ '*'))
    (l := pattern.toList.reverse)
  rw [prefixAndSuffix]
  cases hrest : pattern.toList.reverse.dropWhile fun c => c ≠ '*' with
  | nil => exact .inl rfl
  | cons star before =>
      refine .inr ⟨star, ?_⟩
      rw [hrest] at happend
      calc pattern.toList
          = (pattern.toList.reverse.takeWhile (fun c => decide (c ≠ '*')) ++ star :: before).reverse := by
            rw [happend, List.reverse_reverse]
        _ = _ := by rw [List.reverse_append, List.reverse_cons, List.append_assoc,
            List.singleton_append]

/-- A temporary name is longer than a name with two characters less than the pattern. -/
theorem length_le_tempBase (pattern : String) (random : Nat) :
    pattern.toList.length ≤ (tempBase pattern random).length := by
  have hdigits : 0 < (Nat.repr random).toList.length := by
    rw [toList_repr]
    exact Nat.length_toDigits_pos
  rcases prefixAndSuffix_cases pattern with heq | ⟨star, heq⟩
  · simp only [tempBase, heq, List.append_nil, List.length_append]
    omega
  · rw [heq]
    simp only [tempBase, List.length_append, List.length_cons]
    omega

theorem notMem_tempBase {pattern : String} (h : '/' ∉ pattern.toList) (random : Nat) :
    '/' ∉ tempBase pattern random := by
  have hdigits : '/' ∉ (Nat.repr random).toList := by
    intro hmem
    exact absurd (isDigit_of_mem_repr hmem) (by decide)
  rcases prefixAndSuffix_cases pattern with heq | ⟨star, heq⟩
  · simp only [tempBase, heq, List.append_nil, List.mem_append, h, hdigits, or_self,
      not_false_eq_true]
  · rw [heq, List.mem_append, List.mem_cons, not_or, not_or] at h
    simp only [tempBase, List.mem_append, h.1, hdigits, h.2.2, or_self, not_false_eq_true]

theorem splitPath_tempName {tempDir dir pattern : String} (h : '/' ∉ pattern.toList) (random : Nat) :
    (splitPath (tempName tempDir dir pattern random)).2 = String.ofList (tempBase pattern random) := by
  rw [tempName]
  generalize (if dir = "" then tempDir else dir) = dir
  have hbase := notMem_tempBase h random
  by_cases hlast : dir.toList.getLast? = some '/'
  · obtain ⟨cs, hcs⟩ := List.getLast?_eq_some_iff.mp hlast
    have hname : dir ++ "" ++ String.ofList (tempBase pattern random)
        = String.ofList (dir.toList ++ tempBase pattern random) := by
      rw [← String.toList_inj]
      simp
    rw [if_pos hlast, hname, splitPath_append (.inr ⟨cs, hcs⟩) hbase]
  · have hname : dir ++ "/" ++ String.ofList (tempBase pattern random)
        = String.ofList (dir.toList ++ ['/'] ++ tempBase pattern random) := by
      rw [← String.toList_inj]
      simp
    rw [if_neg hlast, hname, splitPath_append (.inr ⟨dir.toList, rfl⟩) hbase]

/-- The temporary file of a dump is not the file itself, by the lengths of their names. -/
theorem tempName_ne {path : String} (h : NamesFile path) (tempDir dir : String) (random : Nat)
    (hpattern : '/' ∉ ("__" ++ (splitPath path).2).toList) :
    cleanPath (tempName tempDir dir ("__" ++ (splitPath path).2) random) ≠ cleanPath path := by
  have hlength := length_le_tempBase ("__" ++ (splitPath path).2) random
  have hfile : 0 < (splitPath path).2.toList.length :=
    List.length_pos_iff.mpr fun hnil => h.1 (String.toList_inj.mp hnil)
  rw [String.toList_append, List.length_append] at hlength
  have htwo : "__".toList.length = 2 := rfl
  obtain ⟨name, hname⟩ : ∃ name, name = tempName tempDir dir ("__" ++ (splitPath path).2) random :=
    ⟨_, rfl⟩
  have hsplit : (splitPath name).2.toList.length
      = (tempBase ("__" ++ (splitPath path).2) random).length := by
    rw [hname, splitPath_tempName hpattern, String.toList_ofList]
  have hlong : ∀ short : String, short.toList.length ≤ 2 → (splitPath name).2 ≠ short := by
    intro short hshort heq
    rw [heq] at hsplit
    omega
  have hnames : NamesFile name :=
    ⟨hlong "" (by decide), hlong "." (by decide), hlong ".." (by decide)⟩
  intro heq
  rw [← hname] at heq
  have hsame : (splitPath name).2 = (splitPath path).2 := by
    rw [← splitPath_cleanPath hnames, heq, splitPath_cleanPath h]
  rw [hsame] at hsplit
  omega

/-! ### The calls -/

/-- The system calls of `ToFile`. -/
inductive FileRequest
  | createTemp (dir pattern : String)
  | write (name data : String)
  | close (name : String)
  | rename (oldpath newpath : String)
  | remove (name : String)

/-- The name of the temporary file, where there is one to return, or the error. -/
abbrev FileAnswer := Except String String

/-- What happens at one call: the number in the name of a temporary file, the failure, if it
fails, and how much of the data is written then. -/
structure DiskTurn where
  random : Nat
  failure : Option String
  written : Nat

/-- The files, by their clean paths, and what is yet to happen.  Nothing fails when the script
is over. -/
structure Disk where
  files : GoMap String String
  tempDir : String
  script : List DiskTurn

namespace Disk

def turn (d : Disk) : DiskTurn := d.script.headD ⟨0, none, 0⟩

/-- The disk after a call that leaves these files. -/
def next (d : Disk) (files : GoMap String String) : Disk :=
  { d with files := files, script := d.script.tail }

/-- Append to a file.  One that has been removed is not seen any more. -/
def append (d : Disk) (name data : String) : GoMap String String :=
  match d.files.lookup (cleanPath name) with
  | some text => d.files.insert (cleanPath name) (text ++ data)
  | none => d.files

/-- Serve a call that does not fail for a reason of its own.  Other numbers are tried when the
temporary file exists; that it exists here means that the last of them is used up. -/
def perform (d : Disk) : FileRequest → FileAnswer × Disk
  | .createTemp dir pattern =>
      let name := tempName d.tempDir dir pattern d.turn.random
      if '/' ∈ pattern.toList then (.error "pattern contains path separator", d.next d.files)
      else if cleanPath name ∈ d.files then (.error "file exists", d.next d.files)
      else (.ok name, d.next (d.files.insert (cleanPath name) ""))
  | .write name data => (.ok "", d.next (d.append name data))
  | .close _ => (.ok "", d.next d.files)
  | .rename oldpath newpath =>
      match d.files.lookup (cleanPath oldpath) with
      | some text =>
          (.ok "", d.next ((d.files.erase (cleanPath oldpath)).insert (cleanPath newpath) text))
      | none => (.error "no such file or directory", d.next d.files)
  | .remove name =>
      if cleanPath name ∈ d.files then (.ok "", d.next (d.files.erase (cleanPath name)))
      else (.error "no such file or directory", d.next d.files)

/-- The files after a call that fails.  A write may have written some of its data. -/
def interrupted (d : Disk) : FileRequest → GoMap String String
  | .write name data => d.append name (String.ofList (data.toList.take d.turn.written))
  | _ => d.files

/-- Serve a call. -/
def serve (d : Disk) (q : FileRequest) : FileAnswer × Disk :=
  match d.turn.failure with
  | none => d.perform q
  | some err => (.error err, d.next (d.interrupted q))

theorem append_insert {d : Disk} {base : GoMap String String} {name text : String}
    (hd : d.files = base.insert (cleanPath name) text) (data : String) :
    d.append name data = base.insert (cleanPath name) (text ++ data) := by
  rw [append, hd, Finmap.lookup_insert]
  exact Finmap.insert_insert base

/-- A temporary file is new and empty. -/
theorem serve_createTemp (d : Disk) (dir pattern : String) :
    (∃ err d', d.serve (.createTemp dir pattern) = (.error err, d') ∧ d'.files = d.files)
      ∨ ∃ random d', d.serve (.createTemp dir pattern)
            = (.ok (tempName d.tempDir dir pattern random), d')
          ∧ '/' ∉ pattern.toList
          ∧ cleanPath (tempName d.tempDir dir pattern random) ∉ d.files
          ∧ d'.files = d.files.insert (cleanPath (tempName d.tempDir dir pattern random)) "" := by
  rw [serve]
  cases d.turn.failure with
  | some err => exact .inl ⟨err, _, rfl, rfl⟩
  | none =>
      dsimp only [perform]
      split_ifs with hpattern hexists
      · exact .inl ⟨_, _, rfl, rfl⟩
      · exact .inl ⟨_, _, rfl, rfl⟩
      · exact .inr ⟨d.turn.random, _, rfl, hpattern, hexists, rfl⟩

/-- A write that fails leaves anything in the file. -/
theorem serve_write {d : Disk} {base : GoMap String String} {name text : String}
    (hd : d.files = base.insert (cleanPath name) text) (data : String) :
    (∃ err d' text', d.serve (.write name data) = (.error err, d')
        ∧ d'.files = base.insert (cleanPath name) text')
      ∨ ∃ answer d', d.serve (.write name data) = (.ok answer, d')
        ∧ d'.files = base.insert (cleanPath name) (text ++ data) := by
  rw [serve]
  cases d.turn.failure with
  | some err => exact .inl ⟨err, _, _, rfl, append_insert hd _⟩
  | none => exact .inr ⟨_, _, rfl, append_insert hd _⟩

theorem serve_close (d : Disk) (name : String) : (d.serve (.close name)).2.files = d.files := by
  rw [serve]
  cases d.turn.failure <;> rfl

/-- A file that is renamed replaces the other one at once. -/
theorem serve_rename {d : Disk} {base : GoMap String String} {oldpath text : String}
    (hd : d.files = base.insert (cleanPath oldpath) text) (hnew : cleanPath oldpath ∉ base)
    (newpath : String) :
    (∃ err d', d.serve (.rename oldpath newpath) = (.error err, d') ∧ d'.files = d.files)
      ∨ ∃ answer d', d.serve (.rename oldpath newpath) = (.ok answer, d')
        ∧ d'.files = base.insert (cleanPath newpath) text := by
  rw [serve]
  cases d.turn.failure with
  | some err => exact .inl ⟨err, _, rfl, rfl⟩
  | none =>
      refine .inr ⟨"", d.next (base.insert (cleanPath newpath) text), ?_, rfl⟩
      simp only [perform, hd, Finmap.lookup_insert, erase_insert hnew]

theorem serve_remove (d : Disk) (name : String) :
    (d.serve (.remove name)).2.files = d.files
      ∨ cleanPath name ∈ d.files
        ∧ (d.serve (.remove name)).2.files = d.files.erase (cleanPath name) := by
  rw [serve]
  cases d.turn.failure with
  | some err => exact .inl rfl
  | none =>
      dsimp only [perform]
      split_ifs with hmem
      · exact .inr ⟨hmem, rfl⟩
      · exact .inl rfl

end Disk

/-! ### Dumping -/

section Dump

variable {S : Type} (marshal : S → Except String String)

/-- What `ToFile` does with the temporary file. -/
def fillAndRename (name data newpath : String) : Prog FileRequest FileAnswer (Option String) := do
  match ← Prog.ask (.write name data) with
  | .error err => pure (some err)
  | .ok _ =>
      match ← Prog.ask (.close name) with
      | .error err => pure (some err)
      | .ok _ =>
          match ← Prog.ask (.rename name newpath) with
          | .error err => pure (some err)
          | .ok _ => pure none

/-- `ToFile`: the error, if any.  The removal of the temporary file is deferred, and its
error is ignored. -/
def toFile (st : S) (dir file : String) : Prog FileRequest FileAnswer (Option String) :=
  match marshal st with
  | .error err => pure (some err)
  | .ok data => do
      match ← Prog.ask (.createTemp dir ("__" ++ file)) with
      | .error err => pure (some err)
      | .ok name => do
          let result ← fillAndRename name data (joinPath dir file)
          let _ ← Prog.ask (.remove name)
          pure result

/-- A status received by `dumpLoop`.  The error is only logged. -/
def dumpStatus (dumpfile : String) (_ : Unit) (st : S) :
    Prog FileRequest FileAnswer (Unit × Option String) := do
  let (dir, file) := splitPath dumpfile
  let err ← toFile marshal st dir file
  pure ((), err)

/-! ### One dump -/

/-- The files are those of `base`, perhaps with a temporary one that was not there. -/
def Untouched (base : GoMap String String) (target : String) (files : GoMap String String) : Prop :=
  files = base ∨ ∃ temp text, temp ∉ base ∧ temp ≠ target ∧ files = base.insert temp text

/-- What a run of `ToFile` does to the files of `base`. -/
structure Replaces (base : GoMap String String) (target : String) (marshalled : Except String String)
    (run : Run FileRequest FileAnswer Disk (Option String)) : Prop where
  each : ∀ c ∈ run.calls, Untouched base target c.after.files
    ∨ run.result = none ∧ ∃ text, marshalled = .ok text ∧ c.after.files = base.insert target text
  failed : run.result ≠ none → Untouched base target run.final.files
  done : run.result = none → ∃ text, marshalled = .ok text ∧ run.final.files = base.insert target text
  removed : (∀ c ∈ run.calls, ∀ name, c.request = .remove name → cleanPath name ∉ c.after.files) →
    ∀ path ∈ run.final.files, path = target ∨ path ∈ base

/-- The file is renamed only when all else has succeeded. -/
theorem fillAndRename_run {d : Disk} {base : GoMap String String} {name : String}
    (hnew : cleanPath name ∉ base) (hd : d.files = base.insert (cleanPath name) "")
    (data newpath : String) :
    let run := (fillAndRename name data newpath).run Disk.serve d
    (run.result = none ∧ run.final.files = base.insert (cleanPath newpath) data
        ∧ ∀ c ∈ run.calls, (∃ text, c.after.files = base.insert (cleanPath name) text)
          ∨ c.after.files = base.insert (cleanPath newpath) data)
      ∨ (run.result ≠ none ∧ (∃ text, run.final.files = base.insert (cleanPath name) text)
        ∧ ∀ c ∈ run.calls, ∃ text, c.after.files = base.insert (cleanPath name) text) := by
  dsimp only
  rw [fillAndRename, Prog.run_ask_bind]
  obtain ⟨err, d₁, text, hserve, hd₁⟩ | ⟨answer, d₁, hserve, hd₁⟩ := Disk.serve_write hd data
  · rw [hserve]
    exact .inr ⟨Option.some_ne_none err, ⟨text, hd₁⟩, List.forall_mem_singleton.mpr ⟨text, hd₁⟩⟩
  rw [hserve]
  dsimp only
  rw [Prog.run_ask_bind]
  have hd₂ : (d₁.serve (.close name)).2.files = base.insert (cleanPath name) ("" ++ data) :=
    (Disk.serve_close d₁ name).trans hd₁
  generalize d₁.serve (.close name) = closed at hd₂
  rcases closed with ⟨err | answer', d₂⟩
  · exact .inr ⟨Option.some_ne_none err, ⟨_, hd₂⟩,
      List.forall_mem_cons.mpr ⟨⟨_, hd₁⟩, List.forall_mem_singleton.mpr ⟨_, hd₂⟩⟩⟩
  dsimp only
  rw [Prog.run_ask_bind]
  obtain ⟨err, d₃, hserve', hd₃⟩ | ⟨answer'', d₃, hserve', hd₃⟩ := Disk.serve_rename hd₂ hnew newpath
  · rw [hserve']
    exact .inr ⟨Option.some_ne_none err, ⟨_, hd₃.trans hd₂⟩,
      List.forall_mem_cons.mpr ⟨⟨_, hd₁⟩, List.forall_mem_cons.mpr ⟨⟨_, hd₂⟩,
        List.forall_mem_singleton.mpr ⟨_, hd₃.trans hd₂⟩⟩⟩⟩
  · rw [String.empty_append] at hd₃
    rw [hserve']
    exact .inl ⟨rfl, hd₃,
      List.forall_mem_cons.mpr ⟨.inl ⟨_, hd₁⟩, List.forall_mem_cons.mpr ⟨.inl ⟨_, hd₂⟩,
        List.forall_mem_singleton.mpr (.inr hd₃)⟩⟩⟩

theorem Untouched.lookup {base files : GoMap String String} {target path : String}
    (h : Untouched base target files) (hpath : path = target ∨ path ∈ base) :
    files.lookup path = base.lookup path := by
  rcases h with rfl | ⟨temp, text, hnew, hne, rfl⟩
  · rfl
  · refine Finmap.lookup_insert_of_ne base ?_
    rintro rfl
    exact hpath.elim hne hnew

theorem Untouched.filling {base : GoMap String String} {target temp : String} (hnew : temp ∉ base)
    (hne : temp ≠ target) (text : String) : Untouched base target (base.insert temp text) :=
  .inr ⟨temp, text, hnew, hne, rfl⟩

/-- A dump that gives up before it has a file to remove. -/
theorem replaces_of_pure {base : GoMap String String} (target : String)
    (marshalled : Except String String) {d : Disk} (hd : d.files = base) (err : String) :
    Replaces base target marshalled ((pure (some err) : Prog FileRequest FileAnswer _).run Disk.serve d) where
  each := List.forall_mem_nil _
  failed := fun _ => .inl hd
  done := fun h => absurd h (Option.some_ne_none err)
  removed := fun _ _ hpath => .inr (hd ▸ hpath)

theorem Replaces.cons {base : GoMap String String} {target : String}
    {marshalled : Except String String} {run : Run FileRequest FileAnswer Disk (Option String)}
    (h : Replaces base target marshalled run) {c : Call FileRequest FileAnswer Disk}
    (hc : Untouched base target c.after.files) : Replaces base target marshalled (run.cons c) where
  each := List.forall_mem_cons.mpr ⟨.inl hc, h.each⟩
  failed := h.failed
  done := h.done
  removed := fun hremoved => h.removed fun c' hc' => hremoved c' (List.mem_cons_of_mem c hc')

theorem fillAndRemove_replaces {d : Disk} {base : GoMap String String} {name newpath target : String}
    (hnew : cleanPath name ∉ base) (htarget : cleanPath newpath = target)
    (hne : cleanPath name ≠ target) (hd : d.files = base.insert (cleanPath name) "") (data : String) :
    Replaces base target (.ok data) (Prog.run Disk.serve (do
      let result ← fillAndRename name data newpath
      let _ ← Prog.ask (.remove name)
      pure result) d) := by
  have hfill := fillAndRename_run hnew hd data newpath
  rw [Prog.run_bind]
  generalize (fillAndRename name data newpath).run Disk.serve d = filled at hfill
  rw [Prog.run_ask_bind]
  have hremove := Disk.serve_remove filled.final name
  generalize filled.final.serve (.remove name) = answer at hremove
  rw [htarget] at hfill
  obtain ⟨hresult, hfinal, hcalls⟩ | ⟨hresult, ⟨text, hfinal⟩, hcalls⟩ := hfill
  · have hgone : answer.2.files = base.insert target data := by
      rcases hremove with hsame | ⟨hmem, -⟩
      · rw [hsame, hfinal]
      · rw [hfinal, Finmap.mem_insert] at hmem
        exact (hmem.elim hne hnew).elim
    refine ⟨?_, fun h => absurd hresult h, fun _ => ⟨data, rfl, hgone⟩, ?_⟩
    · intro c hc
      rcases List.mem_append.mp hc with hc | hc
      · rcases hcalls c hc with ⟨text, htext⟩ | hdone
        · exact .inl (htext ▸ .filling hnew hne text)
        · exact .inr ⟨hresult, data, rfl, hdone⟩
      · rw [List.mem_singleton.mp hc]
        exact .inr ⟨hresult, data, rfl, hgone⟩
    · intro _ path hpath
      exact Finmap.mem_insert.mp (hgone ▸ hpath)
  · -- the temporary file is still there, and may stay
    have hleft : answer.2.files = base.insert (cleanPath name) text ∨ answer.2.files = base := by
      rcases hremove with hsame | ⟨-, herased⟩
      · exact .inl (hsame.trans hfinal)
      · exact .inr (by rw [herased, hfinal, erase_insert hnew])
    have huntouched : Untouched base target answer.2.files := by
      rcases hleft with hleft | hleft
      · exact hleft ▸ .filling hnew hne text
      · exact .inl hleft
    refine ⟨?_, fun _ => huntouched, fun h => absurd h hresult, ?_⟩
    · intro c hc
      rcases List.mem_append.mp hc with hc | hc
      · obtain ⟨text', htext'⟩ := hcalls c hc
        exact .inl (htext' ▸ .filling hnew hne text')
      · rw [List.mem_singleton.mp hc]
        exact .inl huntouched
    · intro hremoved path hpath
      have hgone : cleanPath name ∉ answer.2.files :=
        hremoved _ (List.mem_append_right _ (List.mem_singleton_self _)) name rfl
      rcases hleft with hleft | hleft
      · exact absurd (hleft ▸ Finmap.mem_insert.mpr (.inl rfl)) hgone
      · exact .inr (hleft ▸ hpath)

/-- **One dump.**  Whatever fails, the file is replaced as a whole, and exactly if no error is
returned. -/
theorem toFile_replaces {dumpfile : String} (h : NamesFile dumpfile) (d : Disk) (st : S) :
    Replaces d.files (cleanPath dumpfile) (marshal st)
      ((toFile marshal st (splitPath dumpfile).1 (splitPath dumpfile).2).run Disk.serve d) := by
  rw [toFile, joinPath_splitPath h]
  rcases marshal st with err | data
  · exact replaces_of_pure _ _ rfl err
  dsimp only
  rw [Prog.run_ask_bind]
  obtain ⟨err, d', hserve, hd'⟩ | ⟨random, d', hserve, hpattern, hnew, hd'⟩ :=
    Disk.serve_createTemp d (splitPath dumpfile).1 ("__" ++ (splitPath dumpfile).2)
  · rw [hserve]
    exact (replaces_of_pure _ _ hd' err).cons (.inl hd')
  · have hne := tempName_ne h d.tempDir (splitPath dumpfile).1 random hpattern
    rw [hserve]
    refine (fillAndRemove_replaces hnew (cleanPath_cleanPath dumpfile) hne hd' data).cons ?_
    exact hd' ▸ Untouched.filling hnew hne ""

/-! ### The loop -/

/-- The dumps that `dumpLoop` makes until it is stopped. -/
def dumpLoop (dumpfile : String) (d : Disk) (sts : List S) :
    List (Round S FileRequest FileAnswer Disk Unit (Option String)) :=
  session (dumpStatus marshal dumpfile) Disk.serve () d sts

/-- The register: what the last dump without an error has written. -/
def dumped (old : Option String)
    (rounds : List (Round S FileRequest FileAnswer Disk Unit (Option String))) : Option String :=
  rounds.foldl (fun text r => if r.result = none then (marshal r.input).toOption else text) old

/-- No removal leaves its file. -/
def Removes (rounds : List (Round S FileRequest FileAnswer Disk Unit (Option String))) : Prop :=
  ∀ r ∈ rounds, ∀ c ∈ r.calls, ∀ name, c.request = .remove name → cleanPath name ∉ c.after.files

/-- The files after some dumps, compared with those at the start. -/
structure Dumping (dumpfile : String) (start : GoMap String String)
    (rounds : List (Round S FileRequest FileAnswer Disk Unit (Option String)))
    (files : GoMap String String) : Prop where
  register : files.lookup (cleanPath dumpfile)
    = dumped marshal (start.lookup (cleanPath dumpfile)) rounds
  others : ∀ path ∈ start, path ≠ cleanPath dumpfile → files.lookup path = start.lookup path
  clean : Removes rounds → ∀ path ∈ files, path = cleanPath dumpfile ∨ path ∈ start

/-- The files at a moment of the dump `r`, after those of `pre`. -/
structure Seen (dumpfile : String) (start : GoMap String String)
    (pre : List (Round S FileRequest FileAnswer Disk Unit (Option String)))
    (r : Round S FileRequest FileAnswer Disk Unit (Option String)) (files : GoMap String String) :
    Prop where
  register : files.lookup (cleanPath dumpfile)
      = dumped marshal (start.lookup (cleanPath dumpfile)) pre
    ∨ files.lookup (cleanPath dumpfile)
      = dumped marshal (start.lookup (cleanPath dumpfile)) (pre ++ [r])
  others : ∀ path ∈ start, path ≠ cleanPath dumpfile → files.lookup path = start.lookup path

theorem dumped_snoc (old : Option String)
    (rounds : List (Round S FileRequest FileAnswer Disk Unit (Option String)))
    (r : Round S FileRequest FileAnswer Disk Unit (Option String)) :
    dumped marshal old (rounds ++ [r])
      = if r.result = none then (marshal r.input).toOption else dumped marshal old rounds := by
  rw [dumped, List.foldl_append]
  rfl

variable {marshal}

/-- A dump, as a round of the loop. -/
theorem replaces_roundOf {dumpfile : String} (h : NamesFile dumpfile) (d : Disk) (st : S) :
    let r := roundOf (dumpStatus marshal dumpfile) Disk.serve () d st
    Replaces d.files (cleanPath dumpfile) (marshal r.input) ⟨r.calls, r.final, r.result⟩ := by
  have hrun := toFile_replaces marshal h d st
  simp only [roundOf, dumpStatus, Prog.run_bind, Prog.run_pure, List.append_nil]
  exact hrun

theorem mem_of_lookup_eq {files start : GoMap String String} {path : String}
    (h : files.lookup path = start.lookup path) (hpath : path ∈ start) : path ∈ files := by
  rwa [← Finmap.lookup_isSome, h, Finmap.lookup_isSome]

/-- Files next to the dumped one, in a state that the dump has left alone or has changed. -/
theorem Dumping.lookup_others {dumpfile : String} {start base files : GoMap String String}
    {rounds : List (Round S FileRequest FileAnswer Disk Unit (Option String))}
    (h : Dumping marshal dumpfile start rounds base)
    (hfiles : Untouched base (cleanPath dumpfile) files
      ∨ ∃ text, files = base.insert (cleanPath dumpfile) text) :
    ∀ path ∈ start, path ≠ cleanPath dumpfile → files.lookup path = start.lookup path := by
  intro path hpath hne
  have hbase := h.others path hpath hne
  rcases hfiles with hsame | ⟨text, rfl⟩
  · rw [hsame.lookup (.inr (mem_of_lookup_eq hbase hpath)), hbase]
  · rw [Finmap.lookup_insert_of_ne base hne, hbase]

/-- What one more dump does, and what is seen while it runs. -/
theorem Dumping.step {dumpfile : String} {start base : GoMap String String}
    {rounds : List (Round S FileRequest FileAnswer Disk Unit (Option String))}
    {r : Round S FileRequest FileAnswer Disk Unit (Option String)}
    (h : Dumping marshal dumpfile start rounds base)
    (hr : Replaces base (cleanPath dumpfile) (marshal r.input) ⟨r.calls, r.final, r.result⟩) :
    Dumping marshal dumpfile start (rounds ++ [r]) r.final.files
      ∧ ∀ c ∈ r.calls, Seen marshal dumpfile start rounds r c.after.files := by
  have hclean : Removes (rounds ++ [r]) →
      ∀ path ∈ r.final.files, path = cleanPath dumpfile ∨ path ∈ start := by
    intro hremoves path hpath
    have hbefore := h.clean fun r' hr' => hremoves r' (List.mem_append_left _ hr')
    have hnow := hr.removed (hremoves r (List.mem_append_right _ (List.mem_singleton_self r)))
    exact (hnow path hpath).elim .inl (hbefore path)
  refine ⟨?_, fun c hc => ?_⟩
  · by_cases hresult : r.result = none
    · obtain ⟨text, hmarshal, hfinal⟩ := hr.done hresult
      refine ⟨?_, h.lookup_others (.inr ⟨text, hfinal⟩), hclean⟩
      rw [dumped_snoc, if_pos hresult, hmarshal, hfinal, Finmap.lookup_insert]
      rfl
    · have hsame := hr.failed hresult
      refine ⟨?_, h.lookup_others (.inl hsame), hclean⟩
      rw [dumped_snoc, if_neg hresult, hsame.lookup (.inl rfl), h.register]
  · rcases hr.each c hc with hsame | ⟨hresult, text, hmarshal, hfiles⟩
    · refine ⟨.inl ?_, h.lookup_others (.inl hsame)⟩
      rw [hsame.lookup (.inl rfl), h.register]
    · refine ⟨.inr ?_, h.lookup_others (.inr ⟨text, hfiles⟩)⟩
      have hresult' : r.result = none := hresult
      rw [dumped_snoc, if_pos hresult', hmarshal, hfiles, Finmap.lookup_insert]
      rfl

/-- **The status file is an atomic register.**  Take any number of dumps, with any failures on
the way.  After each dump the file has what the last dump without an error has written.  At
each moment while one runs, it has either that or what this dump leaves; the other files from
the start are as they were.  And if no removal fails, no file is left behind. -/
theorem dump_replaces_whole {dumpfile : String} (h : NamesFile dumpfile) (d : Disk) (sts : List S)
    {pre post : List (Round S FileRequest FileAnswer Disk Unit (Option String))}
    {r : Round S FileRequest FileAnswer Disk Unit (Option String)}
    (hloop : dumpLoop marshal dumpfile d sts = pre ++ r :: post) :
    Dumping marshal dumpfile d.files (pre ++ [r]) r.final.files
      ∧ ∀ c ∈ r.calls, Seen marshal dumpfile d.files pre r c.after.files := by
  have hstart : Dumping marshal dumpfile d.files [] d.files :=
    ⟨rfl, fun _ _ _ => rfl, fun _ _ hpath => .inr hpath⟩
  refine session_rule (I := fun done _ s => Dumping marshal dumpfile d.files done s.files)
    (P := fun pre r => Dumping marshal dumpfile d.files (pre ++ [r]) r.final.files
      ∧ ∀ c ∈ r.calls, Seen marshal dumpfile d.files pre r c.after.files)
    ?_ hstart (fun _ _ => trivial) hloop
  intro done t s st hdone _
  have hstep := hdone.step (replaces_roundOf h s st)
  exact ⟨hstep.1, hstep⟩

/-- A disk that is full at the first write and not any more at the second. -/
def fullDisk : Disk :=
  ⟨∅, "/tmp", [⟨17, none, 0⟩, ⟨0, some "no space left on device", 1⟩, ⟨0, none, 0⟩]⟩

theorem dump_replaces_whole_full_disk :
    NamesFile "/run/pfpstatus/dump.json"
      ∧ ∃ pre r, dumpLoop Except.ok "/run/pfpstatus/dump.json" fullDisk ["status 1", "status 2"]
          = pre ++ r :: []
        ∧ Dumping Except.ok "/run/pfpstatus/dump.json" fullDisk.files (pre ++ [r]) r.final.files
        ∧ ∀ c ∈ r.calls, Seen Except.ok "/run/pfpstatus/dump.json" fullDisk.files pre r c.after.files :=
  ⟨by decide, [_], _, rfl, dump_replaces_whole (by decide) fullDisk ["status 1", "status 2"] rfl⟩

end Dump

end TopologyExporter
