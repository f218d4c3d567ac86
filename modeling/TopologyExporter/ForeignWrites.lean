/-
TopologyExporter/ForeignWrites.lean

The updater never undoes what another client wrote to labels, or to annotations
that are none of the updater's.

There are two ways it could.  A get+update writes back the whole object; it is
safe because the update carries the resource version of the object that was
read, and a version names one object (`Server.Remembers`).  A patch is made from
an object that may be long out of date; it is safe because it does not mention
what the two objects it compares have in common.  `Allowed` is this discipline,
`update_respects` says that the updater keeps to it, and `foreign_writes_kept`
follows by the invariant rule for such programs.
-/
import TopologyExporter.Staleness

namespace TopologyExporter

open Interaction GoMap MergePatch NRTUpdater

/-! ### What other clients wrote last -/

/-- Labels and annotations. -/
structure Marks where
  labels : GoMap String String
  annotations : GoMap String String

/-- The marks of an object; none if there is no object. -/
def marksOf : Option NodeResourceTopology → Marks
  | none => ⟨∅, ∅⟩
  | some nrt => ⟨nrt.labels, nrt.annotations⟩

/-- The marks of the object `name` after a write of another client. -/
def ForeignWrite.mark (name : String) (marks : Marks) : ForeignWrite → Marks
  | .put content => if name = content.name then ⟨content.labels, content.annotations⟩ else marks
  | .delete name' => if name = name' then ⟨∅, ∅⟩ else marks

/-- The marks that the other clients last gave the object `name`. -/
def lastForeign (server : Server) (history : List ForeignWrite) (name : String) : Marks :=
  history.foldl (ForeignWrite.mark name) (marksOf (server.objects.lookup name))

/-- The same labels, and the same `foreign` annotations. -/
structure Agrees (foreign : String → Prop) (marks marks' : Marks) : Prop where
  labels : marks.labels = marks'.labels
  annotations : ∀ k, foreign k → marks.annotations.lookup k = marks'.annotations.lookup k

/-- The annotations that are not the updater's: neither the update reason nor
part of any report. -/
def Foreign (inputs : List Report) (k : String) : Prop :=
  k ≠ rteUpdate ∧ ∀ input ∈ inputs, k ∉ input.info.annotations.getD ∅

theorem Agrees.refl (foreign : String → Prop) (marks : Marks) : Agrees foreign marks marks :=
  ⟨rfl, fun _ _ => rfl⟩

theorem Agrees.trans {foreign : String → Prop} {marks marks' marks'' : Marks}
    (h : Agrees foreign marks marks') (h' : Agrees foreign marks' marks'') :
    Agrees foreign marks marks'' :=
  ⟨h.labels.trans h'.labels, fun k hk => (h.annotations k hk).trans (h'.annotations k hk)⟩

variable {foreign : String → Prop}

/-! ### The discipline -/

/-- What the updater may send, given the object it last read. -/
def Allowed (foreign : String → Prop) (seen : Option NodeResourceTopology) : Request → Prop
  | .get _ => True
  | .create nrt => Agrees foreign (marksOf (some nrt)) (marksOf none)
  | .update nrt => ∃ read ∈ seen, nrt.name = read.name
      ∧ nrt.serverMeta.resourceVersion = read.serverMeta.resourceVersion
      ∧ Agrees foreign (marksOf (some nrt)) (marksOf (some read))
  | .patch _ patch => ForeignFree foreign patch

/-- What the updater has read after an answer. -/
def learn (seen : Option NodeResourceTopology) : Request → Answer → Option NodeResourceTopology
  | .get _, .ok nrt => some nrt
  | _, _ => seen

/-- The report does not touch foreign annotations. -/
structure Spares (foreign : String → Prop) (info : MonitorInfo) : Prop where
  reason : ¬ foreign rteUpdate
  annotations : ∀ k, foreign k → k ∉ info.annotations.getD ∅

section Discipline

variable {te : NRTUpdater} {nodeGetter : NodeGetter} {info : MonitorInfo}

/-- A report changes no foreign mark of the object it is worked into. -/
theorem agrees_mutate (hinfo : Spares foreign info) (nrt : NodeResourceTopology) :
    Agrees foreign (marksOf (some (te.mutate nodeGetter info nrt))) (marksOf (some nrt)) := by
  have hpublished := published_mutate te nodeGetter info nrt
  refine ⟨hpublished.labels, fun k hk => (hpublished.annotations k).trans ?_⟩
  have hne : k ≠ rteUpdate := fun hkey => hinfo.reason (hkey ▸ hk)
  rw [if_neg hne, Finmap.lookup_eq_none.mpr (hinfo.annotations k hk), Option.none_or]
  rfl

theorem foreignFree_of_mutate (hinfo : Spares foreign info) {nrt : NodeResourceTopology}
    {patch : Object Leaf 2}
    (h : makeNRTPatch te.lib nrt (te.mutate nodeGetter info nrt) = some patch) :
    ForeignFree foreign patch := by
  have hagrees : Agrees foreign (marksOf (some (te.mutate nodeGetter info nrt)))
      (marksOf (some nrt)) := agrees_mutate hinfo nrt
  refine foreignFree_makeNRTPatch hagrees.labels hagrees.annotations (fun hempty => ?_) h
  -- the update reason is always there
  have hreason := (published_mutate te nodeGetter info nrt).annotations rteUpdate
  rw [hempty, if_pos rfl, Finmap.lookup_empty] at hreason
  cases hreason

theorem sendObjectUpdate_respects (hinfo : Spares foreign info)
    (seen : Option NodeResourceTopology) :
    (te.sendObjectUpdate nodeGetter info).Respects (Allowed foreign) learn seen := by
  rw [sendObjectUpdate_eq, Prog.respects_ask_bind]
  refine ⟨trivial, fun r => ?_⟩
  rcases r with (- | - | - | - | m) | nrt
  · exact ⟨agrees_mutate hinfo te.freshNRT, fun r' => trivial⟩
  · trivial
  · trivial
  · trivial
  · trivial
  · refine ⟨⟨nrt, rfl, (published_mutate te nodeGetter info nrt).name, ?_,
      agrees_mutate hinfo nrt⟩, fun r' => trivial⟩
    rw [serverMeta_mutate]

theorem resync_respects (hinfo : Spares foreign info) (seen : Option NodeResourceTopology) :
    (te.resync nodeGetter info).Respects (Allowed foreign) learn seen := by
  refine (sendObjectUpdate_respects hinfo seen).bind fun seen' result => ?_
  rcases result with e | nrt <;> trivial

theorem patchNRT_respects (hinfo : Spares foreign info) (seen : Option NodeResourceTopology) :
    (te.patchNRT nodeGetter info).Respects (Allowed foreign) learn seen := by
  unfold patchNRT
  rcases te.prevNRT with - | prevNRT
  · trivial
  · simp only []
    rcases hpatch : makeNRTPatch te.lib prevNRT (te.mutate nodeGetter info prevNRT) with - | patch
    · trivial
    · refine ⟨foreignFree_of_mutate hinfo hpatch, fun r => ?_⟩
      rcases r with e | nrt <;> trivial

/-- **The updater keeps to the discipline**, in either mode. -/
theorem update_respects (te : NRTUpdater) (nodeGetter : NodeGetter) (hinfo : Spares foreign info)
    (seen : Option NodeResourceTopology) :
    (te.update nodeGetter info).Respects (Allowed foreign) learn seen := by
  unfold update
  split
  · trivial
  · refine Prog.Respects.bind ?_ fun seen' result => trivial
    unfold sendObject
    split
    · unfold sendObjectPatch
      split
      · exact resync_respects hinfo seen
      · refine (patchNRT_respects hinfo seen).bind fun seen' result => ?_
        rcases result with ⟨te', e | nrt⟩
        · exact resync_respects hinfo seen'
        · trivial
    · exact (sendObjectUpdate_respects hinfo seen).bind fun seen' result => trivial

end Discipline

/-! ### What the server keeps -/

/-- No other object of this name has the version of `read`, now or later. -/
structure Server.Remembers (s : Server) (read : NodeResourceTopology) : Prop where
  given : read.serverMeta.resourceVersion ≤ s.clock
  unique : ∀ cur ∈ s.objects.lookup read.name,
    cur.serverMeta.resourceVersion = read.serverMeta.resourceVersion → cur = read

theorem Server.remembers_found {s : Server} {name : String} {nrt : NodeResourceTopology}
    (h : s.objects.lookup name = some nrt) : s.Remembers nrt := by
  refine ⟨s.bounded name nrt h, fun cur hcur _ => ?_⟩
  rw [s.named name nrt h, h] at hcur
  exact (Option.some.inj hcur).symm

theorem Server.Remembers.write {s : Server} {read : NodeResourceTopology} (h : s.Remembers read)
    (content : NRTContent) : (s.write content).Remembers read := by
  refine ⟨h.given.trans (Nat.le_succ _), fun cur hcur hversion => ?_⟩
  rw [Option.mem_def, s.lookup_write] at hcur
  split_ifs at hcur with hname
  · -- the version of the new object is not one that was given out before
    obtain rfl := Option.some.inj hcur
    have hgiven := h.given
    rw [← hversion, s.resourceVersion_stamp] at hgiven
    exact absurd hgiven (Nat.not_succ_le_self _)
  · exact h.unique cur hcur hversion

theorem Server.Remembers.delete {s : Server} {read : NodeResourceTopology} (h : s.Remembers read)
    (name : String) : (s.delete name).Remembers read := by
  refine ⟨h.given, fun cur hcur hversion => ?_⟩
  rw [Option.mem_def, s.lookup_delete] at hcur
  split_ifs at hcur with hname
  exact h.unique cur hcur hversion

/-- The invariant: the objects have the marks that other clients last gave them,
and what the updater has read is still known by its version. -/
structure Undisturbed (foreign : String → Prop) (server : Server) (seen : Option NodeResourceTopology)
    (s : Server) (history : List ForeignWrite) : Prop where
  marks : ∀ name, Agrees foreign (marksOf (s.objects.lookup name)) (lastForeign server history name)
  remembers : ∀ read ∈ seen, s.Remembers read

section Undisturbed

variable {server s s' : Server} {seen : Option NodeResourceTopology} {history : List ForeignWrite}

theorem lastForeign_append_singleton (server : Server) (history : List ForeignWrite)
    (a : ForeignWrite) (name : String) :
    lastForeign server (history ++ [a]) name = a.mark name (lastForeign server history name) := by
  rw [lastForeign, List.foldl_append]
  rfl

theorem Undisturbed.foreignWrite (h : Undisturbed foreign server seen s history) (a : ForeignWrite) :
    Undisturbed foreign server seen (s.foreign a) (history ++ [a]) := by
  cases a with
  | put content =>
      refine ⟨fun name => ?_, fun read hread => (h.remembers read hread).write content⟩
      rw [lastForeign_append_singleton, ForeignWrite.mark, Server.foreign, s.lookup_write]
      split_ifs with hname
      · exact Agrees.refl foreign _
      · exact h.marks name
  | delete name' =>
      refine ⟨fun name => ?_, fun read hread => (h.remembers read hread).delete name'⟩
      rw [lastForeign_append_singleton, ForeignWrite.mark, Server.foreign, s.lookup_delete]
      split_ifs with hname
      · exact Agrees.refl foreign _
      · exact h.marks name

theorem Undisturbed.foldl_foreignWrite (h : Undisturbed foreign server seen s history) (writes : List ForeignWrite) :
    Undisturbed foreign server seen (writes.foldl Server.foreign s) (history ++ writes) := by
  induction writes generalizing s history with
  | nil => rwa [List.append_nil]
  | cons a writes ih =>
      rw [List.append_cons]
      exact ih (h.foreignWrite a)

/-- A write that agrees with what is stored keeps the marks. -/
theorem Undisturbed.write (h : Undisturbed foreign server seen s history) {content : NRTContent}
    (hagrees : Agrees foreign ⟨content.labels, content.annotations⟩
      (marksOf (s.objects.lookup content.name))) :
    Undisturbed foreign server seen (s.write content) history := by
  refine ⟨fun name => ?_, fun read hread => (h.remembers read hread).write content⟩
  rw [s.lookup_write]
  split_ifs with hname
  · subst hname
    exact hagrees.trans (h.marks content.name)
  · exact h.marks name

/-- What an allowed request writes agrees with what is stored. -/
theorem Undisturbed.accepts (h : Undisturbed foreign server seen s history) {q : Request}
    {nrt : NodeResourceTopology} (hallowed : Allowed foreign seen q) (haccepts : s.Accepts q nrt s') :
    Undisturbed foreign server (learn seen q (.ok nrt)) s' history := by
  cases haccepts with
  | get hfound =>
      refine ⟨h.marks, fun read hread => ?_⟩
      obtain rfl := Option.some.inj hread
      exact Server.remembers_found hfound
  | create habsent =>
      refine h.write ?_
      rw [habsent]
      exact hallowed
  | @update nrt cur hcur hversion =>
      -- the version is that of the object that was read, so the stored object is the one read
      obtain ⟨read, hread, hname, hread', hagrees⟩ := hallowed
      refine h.write ?_
      rw [hname] at hcur
      obtain rfl : cur = read :=
        (h.remembers read hread).unique cur hcur (hversion.symm.trans hread')
      rw [hname, hcur]
      exact hagrees
  | @patch patch nrt cur hcur hpatch hmeta =>
      refine h.write ?_
      rw [hcur]
      obtain ⟨hlabels, hannotations⟩ := applyPatch_foreign hallowed hpatch
      exact ⟨hlabels, hannotations⟩

end Undisturbed

/-- The world keeps the invariant on every allowed request. -/
theorem undisturbed_serve {server : Server} {seen : Option NodeResourceTopology} {w : World} {q : Request}
    (h : Undisturbed foreign server seen w.server w.history) (hallowed : Allowed foreign seen q) :
    Undisturbed foreign server (learn seen q (w.serve q).1) (w.serve q).2.server (w.serve q).2.history := by
  have harrive : Undisturbed foreign server seen w.arrive.server w.arrive.history :=
    h.foldl_foreignWrite w.turn.writes
  rcases w.serve_cases q with ⟨nrt, s', hserve, haccepts⟩ | ⟨e, hserve⟩
  · rw [hserve]
    exact harrive.accepts hallowed haccepts
  · rw [hserve]
    have hlearn : learn seen q (.error e) = seen := by cases q <;> rfl
    rw [hlearn]
    exact harrive

/-! ### Whole runs -/

theorem spares_of_mem {inputs : List Report} {input : Report} (h : input ∈ inputs) :
    Spares (Foreign inputs) input.info :=
  ⟨fun hforeign => hforeign.1 rfl, fun _ hforeign => hforeign.2 input h⟩

/-- The marks after a call are those the other clients last gave. -/
def MarksKept (foreign : String → Prop) (server : Server) (c : ApiCall) : Prop :=
  ∀ name, Agrees foreign (marksOf (c.after.server.objects.lookup name))
    (lastForeign server c.after.history name)

/-- One report, call by call. -/
theorem undisturbed_report {server : Server} {seen : Option NodeResourceTopology} {w : World}
    (h : Undisturbed foreign server seen w.server w.history) (te : NRTUpdater) {input : Report}
    (hinput : Spares foreign input.info) :
    (∀ c ∈ ((te.report input).run World.serve w).calls, MarksKept foreign server c)
    ∧ ∃ seen', Undisturbed foreign server seen' ((te.report input).run World.serve w).final.server
        ((te.report input).run World.serve w).final.history := by
  refine Prog.run_invariant
    (I := fun seen (w : World) => Undisturbed foreign server seen w.server w.history) ?_
    (update_respects te input.nodeGetter hinput seen) h
  intro seen w q hkept hallowed
  have hserve := undisturbed_serve hkept hallowed
  exact ⟨hserve, hserve.marks⟩

/-- **No foreign write is lost.**  For every script of other clients' writes and
failed requests, in either mode: after every successful call of the updater each
stored object has the labels, and the annotations that are not the updater's, as
the other clients last wrote them. -/
theorem foreign_writes_kept (lib : PatchLibrary) (args : NRTUpdaterArgs) (tmconf : TMConfig)
    (server : Server) (script : List Turn) (inputs : List Report) :
    ∀ r ∈ session NRTUpdater.report World.serve (newNRTUpdater lib args tmconf)
        ⟨server, script, []⟩ inputs,
      ∀ c ∈ r.calls, ∀ nrt, c.answer = .ok nrt →
        ∀ name stored, c.after.server.objects.lookup name = some stored →
          stored.labels = (lastForeign server c.after.history name).labels
          ∧ ∀ k, Foreign inputs k → stored.annotations.lookup k
              = (lastForeign server c.after.history name).annotations.lookup k := by
  intro r hr c hc nrt _ name stored hstored
  obtain ⟨pre, post, hsession⟩ := List.append_of_mem hr
  -- the invariant holds between reports, for whatever the last report has read
  let I : List ReportRound → NRTUpdater → World → Prop := fun _ _ w =>
    ∃ seen, Undisturbed (Foreign inputs) server seen w.server w.history
  let P : List ReportRound → ReportRound → Prop := fun _ r =>
    ∀ c ∈ r.calls, MarksKept (Foreign inputs) server c
  have hround : ∀ done te w input, I done te w → input ∈ inputs →
      I (done ++ [roundOf NRTUpdater.report World.serve te w input])
          (roundOf NRTUpdater.report World.serve te w input).after
          (roundOf NRTUpdater.report World.serve te w input).final
        ∧ P done (roundOf NRTUpdater.report World.serve te w input) := by
    rintro done te w input ⟨seen, hkept⟩ hinput
    obtain ⟨hcalls, hfinal⟩ := undisturbed_report hkept te (spares_of_mem hinput)
    exact ⟨hfinal, hcalls⟩
  have hinit : I [] (newNRTUpdater lib args tmconf) ⟨server, script, []⟩ :=
    ⟨none, fun name => Agrees.refl _ _, fun read hread => by cases hread⟩
  have hkept : P pre r := session_rule hround hinit (fun _ hinput => hinput) hsession
  have hagrees := hkept c hc name
  rw [hstored] at hagrees
  exact ⟨hagrees.labels, hagrees.annotations⟩

theorem foreign_writes_kept_edited_object :
    ∃ r ∈ threeReports, ∃ c ∈ r.calls, ∃ stored,
      c.after.server.objects.lookup "node-0" = some stored
        ∧ stored.labels.lookup "team" = some "batch"
        ∧ stored.labels = (lastForeign Server.empty c.after.history "node-0").labels := by
  have hedited : ∃ r ∈ threeReports, ∃ c ∈ r.calls, c.answer.toOption.isSome
      ∧ ((c.after.server.objects.lookup "node-0").bind fun nrt => nrt.labels.lookup "team")
        = some "batch" := by
    decide +kernel
  obtain ⟨r, hr, c, hc, hok, hteam⟩ := hedited
  obtain ⟨stored, hstored, hlabel⟩ := Option.bind_eq_some_iff.mp hteam
  obtain ⟨nrt, hnrt⟩ : ∃ nrt, c.answer = .ok nrt := by
    rcases hanswer : c.answer with e | nrt
    · rw [hanswer] at hok
      cases hok
    · exact ⟨nrt, rfl⟩
  exact ⟨r, hr, c, hc, stored, hstored, hlabel, (foreign_writes_kept threeWayLibrary resyncArgs
    podScope Server.empty editedWorld.script _ r hr c hc nrt hnrt "node-0" stored hstored).1⟩

end TopologyExporter
