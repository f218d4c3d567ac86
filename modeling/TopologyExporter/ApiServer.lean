/-
TopologyExporter/ApiServer.lean

The API server, as far as its clients rely on it: a store of named objects
with optimistic concurrency.  Every write gives the object a resource version
that was never given out before; an update has to carry the version it was made
from; a create fails if the object exists; a merge patch is applied to whatever
is stored.

`World` puts the server among other clients.  Between any two requests of the
updater they write what they like, and any request may fail.  What they will do
is a script that the service consumes, one turn a request, so that a statement
about all scripts is one about all interleavings.
-/
import TopologyExporter.NRT

namespace TopologyExporter

open GoMap MergePatch

/-! ### The store -/

/-- The stored objects and the last resource version given out. -/
structure Server where
  objects : GoMap String NodeResourceTopology
  clock : Nat
  named : ∀ name, ∀ nrt ∈ objects.lookup name, nrt.name = name
  bounded : ∀ name, ∀ nrt ∈ objects.lookup name, nrt.serverMeta.resourceVersion ≤ clock

/-- No object yet. -/
def Server.empty : Server where
  objects := ∅
  clock := 0
  named := fun name nrt h => by rw [Finmap.lookup_empty] at h; cases h
  bounded := fun name nrt h => by rw [Finmap.lookup_empty] at h; cases h

/-- The object that is stored when `content` is written. -/
def Server.stamp (s : Server) (content : NRTContent) : NodeResourceTopology where
  toNRTContent := content
  serverMeta :=
    match s.objects.lookup content.name with
    | some cur => { cur.serverMeta with resourceVersion := s.clock + 1 }
    | none => ⟨s.clock + 1, s.clock + 1, s.clock + 1⟩

@[simp] theorem Server.resourceVersion_stamp (s : Server) (content : NRTContent) :
    (s.stamp content).serverMeta.resourceVersion = s.clock + 1 := by
  unfold Server.stamp
  rcases s.objects.lookup content.name with - | cur <;> rfl

/-- Store an object under its name. -/
def Server.write (s : Server) (content : NRTContent) : Server where
  objects := s.objects.insert content.name (s.stamp content)
  clock := s.clock + 1
  named name nrt h := by
    rw [Option.mem_def, lookup_insert_eq] at h
    split_ifs at h with hname
    · obtain rfl := Option.some.inj h
      exact hname.symm
    · exact s.named name nrt h
  bounded name nrt h := by
    rw [Option.mem_def, lookup_insert_eq] at h
    split_ifs at h with hname
    · obtain rfl := Option.some.inj h
      exact (s.resourceVersion_stamp content).le
    · exact (s.bounded name nrt h).trans (Nat.le_succ _)

/-- Remove an object. -/
def Server.delete (s : Server) (name : String) : Server where
  objects := s.objects.erase name
  clock := s.clock
  named name' nrt h := by
    by_cases hname : name' = name
    · rw [hname, Finmap.lookup_erase] at h
      cases h
    · rw [Finmap.lookup_erase_ne hname] at h
      exact s.named name' nrt h
  bounded name' nrt h := by
    by_cases hname : name' = name
    · rw [hname, Finmap.lookup_erase] at h
      cases h
    · rw [Finmap.lookup_erase_ne hname] at h
      exact s.bounded name' nrt h

theorem Server.lookup_write (s : Server) (content : NRTContent) (name : String) :
    (s.write content).objects.lookup name
      = if name = content.name then some (s.stamp content) else s.objects.lookup name :=
  lookup_insert_eq _ _ _ _

theorem Server.lookup_delete (s : Server) (name name' : String) :
    (s.delete name).objects.lookup name'
      = if name' = name then none else s.objects.lookup name' := by
  by_cases hname : name' = name
  · rw [if_pos hname, hname]
    exact Finmap.lookup_erase name s.objects
  · rw [if_neg hname]
    exact Finmap.lookup_erase_ne hname

/-! ### Requests -/

/-- The requests of the updater. -/
inductive Request
  | get (name : String)
  | create (nrt : NodeResourceTopology)
  | update (nrt : NodeResourceTopology)
  | patch (name : String) (patch : Object Leaf 2)

/-- Errors of the API server. -/
inductive ApiError
  | notFound
  | alreadyExists
  | conflict
  | invalid
  | other (message : String)
  deriving DecidableEq, Repr

/-- An object or an error. -/
abbrev Answer := Except ApiError NodeResourceTopology

/-- Answer a request. -/
def Server.exec (s : Server) : Request → Answer × Server
  | .get name =>
      match s.objects.lookup name with
      | none => (.error .notFound, s)
      | some nrt => (.ok nrt, s)
  | .create nrt =>
      match s.objects.lookup nrt.name with
      | none => (.ok (s.stamp nrt.toNRTContent), s.write nrt.toNRTContent)
      | some _ => (.error .alreadyExists, s)
  | .update nrt =>
      match s.objects.lookup nrt.name with
      | none => (.error .notFound, s)
      | some cur =>
          if nrt.serverMeta.resourceVersion = cur.serverMeta.resourceVersion then
            (.ok (s.stamp nrt.toNRTContent), s.write nrt.toNRTContent)
          else (.error .conflict, s)
  | .patch name patch =>
      match s.objects.lookup name with
      | none => (.error .notFound, s)
      | some cur =>
          match applyPatch cur patch with
          | none => (.error .invalid, s)
          | some nrt =>
              if nrt.name = name ∧ nrt.serverMeta = cur.serverMeta then
                (.ok (s.stamp nrt.toNRTContent), s.write nrt.toNRTContent)
              else (.error .conflict, s)

section Exec

variable {s s' : Server} {name : String} {nrt cur : NodeResourceTopology} {patch : Object Leaf 2}

theorem Server.exec_get_none (h : s.objects.lookup name = none) :
    s.exec (.get name) = (.error .notFound, s) := by
  simp only [exec, h]

theorem Server.exec_get (h : s.objects.lookup name = some nrt) :
    s.exec (.get name) = (.ok nrt, s) := by
  simp only [exec, h]

theorem Server.exec_create (hname : nrt.name = name) (h : s.objects.lookup name = none) :
    s.exec (.create nrt) = (.ok (s.stamp nrt.toNRTContent), s.write nrt.toNRTContent) := by
  subst hname
  simp only [exec, h]

theorem Server.exec_update (hname : nrt.name = name) (h : s.objects.lookup name = some cur)
    (hversion : nrt.serverMeta.resourceVersion = cur.serverMeta.resourceVersion) :
    s.exec (.update nrt) = (.ok (s.stamp nrt.toNRTContent), s.write nrt.toNRTContent) := by
  subst hname
  simp only [exec, h, if_pos hversion]

theorem Server.exec_patch_none (h : s.objects.lookup name = none) :
    s.exec (.patch name patch) = (.error .notFound, s) := by
  simp only [exec, h]

theorem Server.exec_patch (hname : nrt.name = name) (h : s.objects.lookup name = some cur)
    (hpatch : applyPatch cur patch = some nrt) (hmeta : nrt.serverMeta = cur.serverMeta) :
    s.exec (.patch name patch) = (.ok (s.stamp nrt.toNRTContent), s.write nrt.toNRTContent) := by
  simp only [exec, h, hpatch, if_pos (And.intro hname hmeta)]

/-- What a successful request did: a get reads, any other writes. -/
inductive Server.Accepts (s : Server) : Request → NodeResourceTopology → Server → Prop
  | get {name : String} {nrt : NodeResourceTopology} (h : s.objects.lookup name = some nrt) :
      s.Accepts (.get name) nrt s
  | create {nrt : NodeResourceTopology} (h : s.objects.lookup nrt.name = none) :
      s.Accepts (.create nrt) (s.stamp nrt.toNRTContent) (s.write nrt.toNRTContent)
  | update {nrt cur : NodeResourceTopology} (h : s.objects.lookup nrt.name = some cur)
      (hversion : nrt.serverMeta.resourceVersion = cur.serverMeta.resourceVersion) :
      s.Accepts (.update nrt) (s.stamp nrt.toNRTContent) (s.write nrt.toNRTContent)
  | patch {patch : Object Leaf 2} {nrt cur : NodeResourceTopology}
      (h : s.objects.lookup nrt.name = some cur) (hpatch : applyPatch cur patch = some nrt)
      (hmeta : nrt.serverMeta = cur.serverMeta) :
      s.Accepts (.patch nrt.name patch) (s.stamp nrt.toNRTContent) (s.write nrt.toNRTContent)

/-- After an accepted create or update the store holds what was sent. -/
theorem Server.Accepts.stored {q : Request} {sent : NodeResourceTopology} (h : s.Accepts q nrt s')
    (hq : q = .create sent ∨ q = .update sent) :
    s'.objects.lookup sent.name = some nrt ∧ nrt.toNRTContent = sent.toNRTContent := by
  have hlookup := s.lookup_write sent.toNRTContent sent.name
  rw [if_pos rfl] at hlookup
  rcases hq with rfl | rfl
  · cases h
    exact ⟨hlookup, rfl⟩
  · cases h
    exact ⟨hlookup, rfl⟩

theorem Server.Accepts.found (h : s.Accepts (.get name) nrt s') :
    s.objects.lookup name = some nrt := by
  cases h
  assumption

end Exec

/-- A request is accepted, or the store is as before. -/
theorem Server.exec_cases (s : Server) (q : Request) :
    (∃ nrt s', s.exec q = (.ok nrt, s') ∧ s.Accepts q nrt s')
      ∨ ∃ e, s.exec q = (.error e, s) := by
  cases q with
  | get name =>
      rcases h : s.objects.lookup name with - | nrt
      · exact Or.inr ⟨.notFound, exec_get_none h⟩
      · exact Or.inl ⟨_, _, exec_get h, Accepts.get h⟩
  | create nrt =>
      rcases h : s.objects.lookup nrt.name with - | cur
      · exact Or.inl ⟨_, _, exec_create rfl h, Accepts.create h⟩
      · exact Or.inr ⟨.alreadyExists, by simp only [exec, h]⟩
  | update nrt =>
      rcases h : s.objects.lookup nrt.name with - | cur
      · exact Or.inr ⟨.notFound, by simp only [exec, h]⟩
      · by_cases hversion : nrt.serverMeta.resourceVersion = cur.serverMeta.resourceVersion
        · exact Or.inl ⟨_, _, exec_update rfl h hversion, Accepts.update h hversion⟩
        · exact Or.inr ⟨.conflict, by simp only [exec, h, if_neg hversion]⟩
  | patch name patch =>
      rcases h : s.objects.lookup name with - | cur
      · exact Or.inr ⟨.notFound, exec_patch_none h⟩
      · rcases hpatch : applyPatch cur patch with - | nrt
        · exact Or.inr ⟨.invalid, by simp only [exec, h, hpatch]⟩
        · -- a patch that touches what the server owns is refused
          by_cases hkept : nrt.name = name ∧ nrt.serverMeta = cur.serverMeta
          · obtain ⟨rfl, hmeta⟩ := hkept
            exact Or.inl ⟨_, _, exec_patch rfl h hpatch hmeta, Accepts.patch h hpatch hmeta⟩
          · exact Or.inr ⟨.conflict, by simp only [exec, h, hpatch, if_neg hkept]⟩

/-! ### Other clients -/

/-- A write of another client: it leaves an object with this content, or none of
this name. -/
inductive ForeignWrite
  | put (content : NRTContent)
  | delete (name : String)

def Server.foreign (s : Server) : ForeignWrite → Server
  | .put content => s.write content
  | .delete name => s.delete name

/-- What happens at one request of the updater: first the other clients write,
then the request may fail. -/
structure Turn where
  writes : List ForeignWrite
  failure : Option ApiError

/-- The server, what is yet to happen, and all that the other clients have
written so far. -/
structure World where
  server : Server
  script : List Turn
  history : List ForeignWrite

/-- The turn of the next request; nothing happens once the script is over. -/
def World.turn (w : World) : Turn := w.script.headD ⟨[], none⟩

/-- The world when the request reaches the server. -/
def World.arrive (w : World) : World where
  server := w.turn.writes.foldl Server.foreign w.server
  script := w.script.tail
  history := w.history ++ w.turn.writes

/-- Serve a request of the updater. -/
def World.serve (w : World) (q : Request) : Answer × World :=
  match w.turn.failure with
  | some e => (.error e, w.arrive)
  | none => ((w.arrive.server.exec q).1, { w.arrive with server := (w.arrive.server.exec q).2 })

/-- A request is accepted by the server it reaches, or leaves it as it is. -/
theorem World.serve_cases (w : World) (q : Request) :
    (∃ nrt s', w.serve q = (.ok nrt, { w.arrive with server := s' })
        ∧ w.arrive.server.Accepts q nrt s')
      ∨ ∃ e, w.serve q = (.error e, w.arrive) := by
  unfold World.serve
  rcases w.turn.failure with - | e
  · rcases w.arrive.server.exec_cases q with ⟨nrt, s', hexec, haccepts⟩ | ⟨e, hexec⟩
    · exact Or.inl ⟨nrt, s', by rw [hexec], haccepts⟩
    · exact Or.inr ⟨e, by rw [hexec]⟩
  · exact Or.inr ⟨e, rfl⟩

theorem World.accepts_of_serve {w w' : World} {q : Request} {nrt : NodeResourceTopology}
    (h : w.serve q = (.ok nrt, w')) : w.arrive.server.Accepts q nrt w'.server := by
  rcases w.serve_cases q with ⟨nrt', s', hserve, haccepts⟩ | ⟨e, hserve⟩
  · rw [hserve] at h
    obtain ⟨hnrt, rfl⟩ := Prod.mk.inj h
    obtain rfl := Except.ok.inj hnrt
    exact haccepts
  · rw [hserve] at h
    cases (Prod.mk.inj h).1

end TopologyExporter
