/-
TopologyExporter/NotifyFiles.lean

The notification files of an event source (`AddFile` and what it calls).

`AddFile` makes sure that the file is there, under the cleaned path, and adds a filter
that compares the name of an event with the path as it was given.  The watcher reports
events under the cleaned path (this is what is assumed of it), so a path that is not
clean has a filter that its events do not pass.

The source after any calls holds one filter for each path that was added
(`filters_addFiles`), and `touched_file_triggers_iff` reads off when they are enough.
What the file system answers may differ from call to call.
-/
import TopologyExporter.EventSource
import TopologyExporter.Sysinfo

namespace TopologyExporter

open GoString

/-! ### Adding a file -/

/-- What the file system answers: errors of `os.MkdirAll`, of `os.Create` and of closing the
new file, and size and kind of an existing file. -/
structure NotifyFS where
  mkdirAll : String → Option String
  stat : String → Option (Int × Bool)
  create : String → Option String
  close : String → Option String

/-- `filepath.Dir`. -/
def dirPath (path : String) : String :=
  cleanPath (String.ofList (path.toList.reverse.dropWhile fun c => c ≠ '/').reverse)

example : dirPath "/run/rte/notify" = "/run/rte" := by decide

/-- `ensureNotifyFilePath`: the error, if any. -/
def ensureNotifyFilePath (fs : NotifyFS) (notifyFilePath : String) : Option String :=
  let notifyFilePath := cleanPath notifyFilePath
  match fs.mkdirAll (dirPath notifyFilePath) with
  | some err => some err
  | none =>
      let created := match fs.create notifyFilePath with
        | some err => some err
        | none => fs.close notifyFilePath
      match fs.stat notifyFilePath with
      | none => created
      | some (size, isReg) =>
          if 0 < size ∨ isReg = false then
            some ("cannot use " ++ quote notifyFilePath ++ ": already exists with size="
              ++ toString size ++ " isRegular=" ++ toString isReg)
          else created

/-- `AddFile`: the source afterwards and the error, if any.  A failure to watch the file is
only logged. -/
def addFile (fs : NotifyFS) (es : UnlimitedEventSource) (notifyFilePath : String) :
    UnlimitedEventSource × Option String :=
  if notifyFilePath = "" then (es, none)
  else
    match ensureNotifyFilePath fs notifyFilePath with
    | some err => (es, some err)
    | none => ({ es with filters := es.filters ++ [fileFilter notifyFilePath] }, none)

/-- A call of `AddFile`, and the file system that it meets. -/
structure AddCall where
  fs : NotifyFS
  path : String

/-- The source after some calls. -/
def addFiles (es : UnlimitedEventSource) (calls : List AddCall) : UnlimitedEventSource :=
  calls.foldl (fun es c => (addFile c.fs es c.path).1) es

/-- `AddFile` returns no error for the path of a file.  The empty path is none; it is
not handed to the watcher. -/
def AddCall.Adds (c : AddCall) : Prop := c.path ≠ "" ∧ ∀ es, (addFile c.fs es c.path).2 = none

theorem AddCall.adds_iff (c : AddCall) :
    c.Adds ↔ c.path ≠ "" ∧ ensureNotifyFilePath c.fs c.path = none := by
  refine and_congr_right fun hpath => ?_
  simp only [addFile, if_neg hpath]
  rcases ensureNotifyFilePath c.fs c.path with - | err
  · exact ⟨fun _ => rfl, fun _ _ => rfl⟩
  · exact ⟨fun h => h ⟨0, []⟩, fun h => by cases h⟩

instance (c : AddCall) : Decidable c.Adds := decidable_of_iff _ c.adds_iff.symm

/-- The paths that the calls add. -/
def addedPaths (calls : List AddCall) : List String :=
  (calls.filter fun c => c.Adds).map AddCall.path

theorem mem_addedPaths_iff {calls : List AddCall} {path : String} :
    path ∈ addedPaths calls ↔ ∃ c ∈ calls, c.Adds ∧ c.path = path := by
  simp only [addedPaths, List.mem_map, List.mem_filter, decide_eq_true_eq, and_assoc]

theorem addedPaths_cons (c : AddCall) (calls : List AddCall) :
    addedPaths (c :: calls) = (if c.Adds then [c.path] else []) ++ addedPaths calls := by
  by_cases hadds : c.Adds
  · simp [addedPaths, hadds]
  · simp [addedPaths, hadds]

/-- One call adds one filter or none. -/
theorem filters_addFile (es : UnlimitedEventSource) (c : AddCall) :
    (addFile c.fs es c.path).1.filters
      = es.filters ++ (if c.Adds then [c.path] else []).map fileFilter := by
  by_cases hadds : c.Adds
  · obtain ⟨hpath, hensure⟩ := c.adds_iff.mp hadds
    rw [if_pos hadds, addFile, if_neg hpath, hensure]
    rfl
  · -- an empty path or an error: the source stays as it was
    rw [if_neg hadds, List.map_nil, List.append_nil, addFile]
    rw [c.adds_iff, not_and] at hadds
    split_ifs with hpath
    · rfl
    · rcases hensure : ensureNotifyFilePath c.fs c.path with - | err
      · exact absurd hensure (hadds hpath)
      · rfl

/-- **The filters of a source**: those it had, and one for each path added. -/
theorem filters_addFiles (es : UnlimitedEventSource) (calls : List AddCall) :
    (addFiles es calls).filters = es.filters ++ (addedPaths calls).map fileFilter := by
  induction calls generalizing es with
  | nil => exact (List.append_nil _).symm
  | cons c calls ih =>
      show (addFiles (addFile c.fs es c.path).1 calls).filters = _
      rw [ih, filters_addFile, addedPaths_cons, List.map_append, List.append_assoc]

/-! ### Events -/

/-- The operation includes `Chmod` or `Write`. -/
def FsEvent.Touches (event : FsEvent) : Prop :=
  event.op &&& chmodOp = chmodOp ∨ event.op &&& writeOp = writeOp

instance (event : FsEvent) : Decidable event.Touches := inferInstanceAs (Decidable (_ ∨ _))

theorem anyFilter_fileFilter_iff (paths : List String) (event : FsEvent) :
    anyFilter (paths.map fileFilter) event = true ↔ event.name ∈ paths ∧ event.Touches := by
  simp only [anyFilter, List.any_map, List.any_eq_true, Function.comp_apply, fileFilter,
    Bool.and_eq_true, Bool.or_eq_true, beq_iff_eq, FsEvent.Touches]
  constructor
  · rintro ⟨path, hpath, rfl, htouch⟩
    exact ⟨hpath, htouch⟩
  · rintro ⟨hpath, htouch⟩
    exact ⟨event.name, hpath, rfl, htouch⟩

/-- The events that are to pass the filters.  The watcher names a file by its cleaned
path. -/
structure TouchTriggers (filters : List (FsEvent → Bool)) (calls : List AddCall) : Prop where
  touched : ∀ c ∈ calls, c.Adds → ∀ event : FsEvent, event.name = cleanPath c.path →
    event.Touches → anyFilter filters event = true
  otherFile : ∀ event : FsEvent, cleanPath event.name = event.name →
    (∀ c ∈ calls, c.Adds → event.name ≠ cleanPath c.path) → anyFilter filters event = false
  otherOp : ∀ event : FsEvent, ¬ event.Touches → anyFilter filters event = false

/-- **When touching a notification file triggers**: every file that was added was also added
under its cleaned path.  Nothing else ever triggers. -/
theorem touched_file_triggers_iff (interval : Int) (calls : List AddCall) :
    TouchTriggers (addFiles ⟨interval, []⟩ calls).filters calls
      ↔ ∀ c ∈ calls, c.Adds → ∃ c' ∈ calls, c'.Adds ∧ c'.path = cleanPath c.path := by
  have hpass : ∀ event, anyFilter (addFiles ⟨interval, []⟩ calls).filters event = true
      ↔ event.name ∈ addedPaths calls ∧ event.Touches := fun event => by
    rw [filters_addFiles, List.nil_append, anyFilter_fileFilter_iff]
  constructor
  · intro h c hc hadds
    -- a write to the file passes only if its name is a path that was added
    have hwrite : (FsEvent.mk (cleanPath c.path) writeOp).Touches :=
      Or.inr (Nat.and_self writeOp)
    have hname := ((hpass _).mp (h.touched c hc hadds ⟨cleanPath c.path, writeOp⟩ rfl hwrite)).1
    exact mem_addedPaths_iff.mp hname
  · intro h
    refine ⟨fun c hc hadds event hname htouch => ?_, fun event hclean hother => ?_,
      fun event htouch => ?_⟩
    · refine (hpass event).mpr ⟨?_, htouch⟩
      rw [hname]
      exact mem_addedPaths_iff.mpr (h c hc hadds)
    · -- a path that was added and is clean is the name of its own file
      refine Bool.eq_false_iff.mpr fun hany => ?_
      obtain ⟨c, hc, hadds, hpath⟩ := mem_addedPaths_iff.mp ((hpass event).mp hany).1
      refine hother c hc hadds ?_
      rw [hpath, hclean]
    · exact Bool.eq_false_iff.mpr fun hany => htouch ((hpass event).mp hany).2

/-- A file system on which everything succeeds and no file exists. -/
def freshNotifyFS : NotifyFS where
  mkdirAll := fun _ => none
  stat := fun _ => none
  create := fun _ => none
  close := fun _ => none

/-- With a doubled slash in its path, a file is added and never triggers. -/
theorem doubled_slash_never_triggers :
    (AddCall.mk freshNotifyFS "/run/rte//notify").Adds
      ∧ cleanPath "/run/rte//notify" = "/run/rte/notify"
      ∧ anyFilter (addFiles ⟨0, []⟩ [⟨freshNotifyFS, "/run/rte//notify"⟩]).filters
          ⟨"/run/rte/notify", writeOp⟩ = false := by
  decide

end TopologyExporter
