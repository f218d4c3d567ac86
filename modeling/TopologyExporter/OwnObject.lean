/-
TopologyExporter/OwnObject.lean

What the exporter leaves alone.

The updater takes the name of the object that it writes from three places: from its
arguments, from the answer to a get, and, for a patch, from the object that its last write
returned.  All three are the name of the host (`update_addresses`), so that in every
interleaving of the exporter's goroutines, and whatever other clients write and whichever
requests fail, the objects of other nodes are as the other clients left them.  And a report
is written at most once: a patch that fails has written nothing when the object is sent in
full (`exporter_minds_own_object`).
-/
import TopologyExporter.ExporterSafety
import TopologyExporter.ForeignWrites

namespace TopologyExporter

open Goroutines Interaction GoMap MergePatch NRTUpdater

/-! ### What other clients leave -/

/-- The content under a name after a write of another client. -/
def ForeignWrite.leave (name : String) (content : Option NRTContent) : ForeignWrite → Option NRTContent
  | .put written => if name = written.name then some written else content
  | .delete name' => if name = name' then none else content

/-- The content that the other clients have left under a name. -/
def leftByOthers (server : Server) (history : List ForeignWrite) (name : String) : Option NRTContent :=
  history.foldl (ForeignWrite.leave name)
    ((server.objects.lookup name).map fun nrt => nrt.toNRTContent)

def ForeignWrite.isPut : ForeignWrite → Bool
  | .put _ => true
  | .delete _ => false

/-- How many resource versions the other clients have been given. -/
def puts (history : List ForeignWrite) : Nat := history.countP ForeignWrite.isPut

/-- The invariant of a report: all objects but one are as the others left them, and what has been
read has that one name. -/
structure LeavesOthers (hostname : String) (server : Server) (seen : Option NodeResourceTopology)
    (w : World) : Prop where
  others : ∀ name ≠ hostname, ((w.server.objects.lookup name).map fun nrt => nrt.toNRTContent)
    = leftByOthers server w.history name
  read : ∀ nrt ∈ seen, nrt.name = hostname

theorem leave_foreign (s : Server) (a : ForeignWrite) (name : String) :
    (((s.foreign a).objects.lookup name).map fun nrt => nrt.toNRTContent)
      = a.leave name ((s.objects.lookup name).map fun nrt => nrt.toNRTContent) := by
  cases a with
  | put content =>
      rw [Server.foreign, s.lookup_write, ForeignWrite.leave]
      split_ifs <;> rfl
  | delete name' =>
      rw [Server.foreign, s.lookup_delete, ForeignWrite.leave]
      split_ifs <;> rfl

theorem leave_foldl_foreign (s : Server) (writes : List ForeignWrite) (name : String) :
    (((writes.foldl Server.foreign s).objects.lookup name).map fun nrt => nrt.toNRTContent)
      = writes.foldl (ForeignWrite.leave name)
          ((s.objects.lookup name).map fun nrt => nrt.toNRTContent) := by
  induction writes generalizing s with
  | nil => rfl
  | cons a writes ih => rw [List.foldl_cons, List.foldl_cons, ih, leave_foreign]

theorem clock_foldl_foreign (s : Server) (writes : List ForeignWrite) :
    (writes.foldl Server.foreign s).clock = s.clock + puts writes := by
  induction writes generalizing s with
  | nil => rfl
  | cons a writes ih =>
      rw [List.foldl_cons, ih, puts, puts, List.countP_cons]
      cases a with
      | put content =>
          show s.clock + 1 + _ = s.clock + (_ + 1)
          omega
      | delete name => rfl

section LeavesOthers

variable {hostname : String} {server : Server} {seen : Option NodeResourceTopology} {w : World}

theorem LeavesOthers.arrive (h : LeavesOthers hostname server seen w) :
    LeavesOthers hostname server seen w.arrive := by
  refine ⟨fun name hname => ?_, h.read⟩
  show (((w.turn.writes.foldl Server.foreign w.server).objects.lookup name).map _) = _
  rw [leave_foldl_foreign, h.others name hname, leftByOthers, leftByOthers]
  exact (List.foldl_append ..).symm

/-- A write under the one name. -/
theorem LeavesOthers.write (h : LeavesOthers hostname server seen w) {content : NRTContent}
    (hname : content.name = hostname) :
    LeavesOthers hostname server seen { w with server := w.server.write content } := by
  refine ⟨fun name hne => ?_, h.read⟩
  show (((w.server.write content).objects.lookup name).map _) = _
  rw [w.server.lookup_write, if_neg (by rw [hname]; exact hne)]
  exact h.others name hne

/-! ### The requests of the updater -/

/-- The request is about the object of the host. -/
def Addresses (hostname : String) (seen : Option NodeResourceTopology) : Request → Prop
  | .get name => name = hostname
  | .create nrt => nrt.name = hostname
  | .update nrt => ∃ read ∈ seen, nrt.name = read.name
  | .patch name _ => name = hostname

/-- What has been read is an answer. -/
theorem mem_learn {q : Request} {r : Answer} {read : NodeResourceTopology}
    (h : read ∈ learn seen q r) : read ∈ seen ∨ r = .ok read := by
  cases q with
  | get name =>
      rcases r with e | nrt
      · exact .inl h
      · exact .inr (congrArg Except.ok (Option.some.inj h))
  | create nrt | update nrt | patch name patch => exact .inl h

/-- Such a request keeps the invariant, and is answered with an object of that name. -/
theorem LeavesOthers.serve (h : LeavesOthers hostname server seen w) {q : Request}
    (hq : Addresses hostname seen q) :
    LeavesOthers hostname server (learn seen q (w.serve q).1) (w.serve q).2
      ∧ ∀ nrt, (w.serve q).1 = .ok nrt → nrt.name = hostname := by
  have hserved : LeavesOthers hostname server seen (w.serve q).2
      ∧ ∀ nrt, (w.serve q).1 = .ok nrt → nrt.name = hostname := by
    rcases w.serve_cases q with ⟨nrt, s', hserve, haccepts⟩ | ⟨e, hserve⟩
    · rw [hserve]
      have hname : LeavesOthers hostname server seen { w.arrive with server := s' }
          ∧ nrt.name = hostname := by
        cases haccepts with
        | get hfound => exact ⟨h.arrive, (w.arrive.server.named _ nrt hfound).trans hq⟩
        | create _ => exact ⟨h.arrive.write hq, hq⟩
        | update _ _ =>
            -- the update carries the name of the object that was read
            obtain ⟨read, hread, hname⟩ := hq
            have hhost := hname.trans (h.read read hread)
            exact ⟨h.arrive.write hhost, hhost⟩
        | patch _ _ _ => exact ⟨h.arrive.write hq, hq⟩
      refine ⟨hname.1, fun nrt' hok => ?_⟩
      rw [← Except.ok.inj hok]
      exact hname.2
    · rw [hserve]
      exact ⟨h.arrive, fun nrt hok => by cases hok⟩
  refine ⟨⟨hserved.1.others, fun read hread => ?_⟩, hserved.2⟩
  rcases mem_learn hread with hseen | hanswer
  · exact h.read read hseen
  · exact hserved.2 read hanswer

end LeavesOthers

section Requests

variable {te : NRTUpdater} {nodeGetter : NodeGetter} {info : MonitorInfo}

theorem sendObjectUpdate_addresses (seen : Option NodeResourceTopology) :
    (te.sendObjectUpdate nodeGetter info).Respects (Addresses te.args.hostname) learn seen := by
  rw [sendObjectUpdate_eq, Prog.respects_ask_bind]
  refine ⟨rfl, fun r => ?_⟩
  rcases r with (- | - | - | - | m) | nrt
  · exact ⟨(published_mutate te nodeGetter info te.freshNRT).name, fun r' => trivial⟩
  · trivial
  · trivial
  · trivial
  · trivial
  · exact ⟨⟨nrt, rfl, (published_mutate te nodeGetter info nrt).name⟩, fun r' => trivial⟩

theorem resync_addresses (seen : Option NodeResourceTopology) :
    (te.resync nodeGetter info).Respects (Addresses te.args.hostname) learn seen := by
  refine (sendObjectUpdate_addresses seen).bind fun seen' result => ?_
  rcases result with e | nrt <;> trivial

/-- A patch is tried; if there is none, or it fails, the object is sent in full. -/
theorem sendObjectPatch_eq (hresync : te.needsResync = false) :
    te.sendObjectPatch nodeGetter info
      = match te.prevNRT with
        | none => te.resync nodeGetter info
        | some prevNRT =>
            match makeNRTPatch te.lib prevNRT (te.mutate nodeGetter info prevNRT) with
            | none => te.resync nodeGetter info
            | some patch => Prog.ask (.patch prevNRT.name patch) >>= fun r =>
                match r with
                | .error _ => te.resync nodeGetter info
                | .ok nrt => pure ({ te with prevNRT := some nrt, patchCount := te.patchCount + 1 },
                    .ok nrt) := by
  rw [sendObjectPatch, hresync, patchNRT]
  rcases te.prevNRT with - | prevNRT
  · rfl
  · rcases hpatch : makeNRTPatch te.lib prevNRT (te.mutate nodeGetter info prevNRT) with - | patch
    · simp only [hpatch]
      rfl
    · simp only [hpatch]
      refine congrArg (Prog.call _) (funext fun r => ?_)
      rcases r with e | nrt <;> rfl

/-- **All requests of a report are about the object of the host.** -/
theorem update_addresses (hprev : ∀ nrt ∈ te.prevNRT, nrt.name = te.args.hostname)
    (seen : Option NodeResourceTopology) :
    (te.update nodeGetter info).Respects (Addresses te.args.hostname) learn seen := by
  unfold update
  split
  · trivial
  · refine Prog.Respects.bind ?_ fun seen' result => trivial
    unfold sendObject
    split
    · rcases hresync : te.needsResync
      · rw [sendObjectPatch_eq hresync]
        rcases hprevNRT : te.prevNRT with - | prevNRT
        · exact resync_addresses seen
        · simp only []
          rcases makeNRTPatch te.lib prevNRT (te.mutate nodeGetter info prevNRT) with - | patch
          · exact resync_addresses seen
          · refine ⟨hprev prevNRT hprevNRT, fun r => ?_⟩
            rcases r with e | nrt
            · exact resync_addresses _
            · trivial
      · rw [sendObjectPatch, hresync]
        exact resync_addresses seen
    · exact (sendObjectUpdate_addresses seen).bind fun seen' result => trivial

end Requests

/-! ### Writes -/

/-- A request that is served. -/
theorem clock_serve (w : World) (q : Request) :
    (w.serve q).2.server.clock + puts w.history
      = w.server.clock + puts (w.serve q).2.history
        + (written (⟨q, (w.serve q).1, (w.serve q).2⟩ : ApiCall)).toList.length := by
  have harrive : w.arrive.server.clock = w.server.clock + puts w.turn.writes :=
    clock_foldl_foreign w.server w.turn.writes
  have hputs : puts w.arrive.history = puts w.history + puts w.turn.writes := List.countP_append
  rcases w.serve_cases q with ⟨nrt, s', hserve, haccepts⟩ | ⟨e, hserve⟩
  · rw [hserve]
    show s'.clock + _ = _ + puts w.arrive.history + _
    cases haccepts with
    | get _ =>
        show w.arrive.server.clock + _ = _ + 0
        omega
    | create _ | update _ _ | patch _ _ _ =>
        show w.arrive.server.clock + 1 + _ = _ + 1
        omega
  · rw [hserve, written_error]
    show w.arrive.server.clock + _ = _ + puts w.arrive.history + 0
    omega

/-- In a run, versions are given out to the other clients and to the calls that write. -/
theorem clock_run {α : Type} (prog : Api α) (w : World) :
    (prog.run World.serve w).final.server.clock + puts w.history
      = w.server.clock + puts (prog.run World.serve w).final.history
        + ((prog.run World.serve w).calls.filterMap written).length := by
  induction prog generalizing w with
  | ret a => rfl
  | call q k ih =>
      have hserve := clock_serve w q
      have hrest := ih (w.serve q).1 (w.serve q).2
      have hrun : (Prog.call q k).run World.serve w
          = .cons ⟨q, (w.serve q).1, (w.serve q).2⟩ ((k (w.serve q).1).run World.serve (w.serve q).2) := rfl
      rw [hrun]
      simp only [Run.cons, List.filterMap_cons]
      rcases hwritten : written (⟨q, (w.serve q).1, (w.serve q).2⟩ : ApiCall) with - | nrt
      · rw [hwritten] at hserve
        simp only [Option.toList_none, List.length_nil] at hserve ⊢
        omega
      · rw [hwritten] at hserve
        simp only [Option.toList_some, List.length_cons, List.length_nil] at hserve ⊢
        omega

/-! ### One report -/

section Report

variable {σ : Type} {te : NRTUpdater}

/-- A report writes at most once, and remembers an object only if it was an answer. -/
structure WritesOnce (te : NRTUpdater) (run : Run Request Answer σ (NRTUpdater × Option UpdateError)) :
    Prop where
  args : run.result.1.args = te.args
  prevNRT : ∀ nrt ∈ run.result.1.prevNRT, nrt ∈ te.prevNRT ∨ ∃ c ∈ run.calls, c.answer = .ok nrt
  writes : (run.calls.filterMap written).length ≤ 1

theorem writesOnce_of_outcome {nodeGetter : NodeGetter} {info : MonitorInfo}
    {run : Run Request Answer σ (NRTUpdater × Option UpdateError)}
    (h : Outcome te nodeGetter info run) : WritesOnce te run := by
  cases h with
  | @patched name patch nrt s hresync =>
      refine ⟨rfl, fun nrt' hnrt' => .inr ⟨⟨.patch name patch, .ok nrt, s⟩, ?_, ?_⟩, Nat.le_refl 1⟩
      · exact List.mem_singleton.mpr rfl
      · exact congrArg Except.ok (Option.some.inj hnrt')
  | @resynced before r q nrt s s' hbefore hq =>
      refine ⟨rfl, fun nrt' hnrt' => .inr ⟨⟨q, .ok nrt, s'⟩, ?_, ?_⟩, ?_⟩
      · simp
      · exact congrArg Except.ok (Option.some.inj hnrt')
      · -- neither what came before nor the get has written
        have hget : written (⟨.get te.args.hostname, r, s⟩ : Call Request Answer σ) = none := rfl
        rw [List.filterMap_append, List.filterMap_eq_nil_iff.mpr hbefore, List.nil_append,
          List.filterMap_cons, hget]
        exact List.length_filterMap_le written [⟨q, .ok nrt, s'⟩]
  | failed hcalls =>
      refine ⟨rfl, fun nrt hnrt => .inl hnrt, ?_⟩
      rw [List.filterMap_eq_nil_iff.mpr hcalls]
      exact Nat.zero_le 1

variable {service : σ → Request → Answer × σ}

theorem calls_resync (te : NRTUpdater) (nodeGetter : NodeGetter) (info : MonitorInfo) (s : σ) :
    ((te.resync nodeGetter info).run service s).calls
      = ((te.sendObjectUpdate nodeGetter info).run service s).calls := by
  rw [resync, Prog.run_bind]
  rcases ((te.sendObjectUpdate nodeGetter info).run service s).result with e | nrt
  · exact List.append_nil _
  · exact List.append_nil _

theorem update_writesOnce (te : NRTUpdater) (nodeGetter : NodeGetter) (info : MonitorInfo) (s : σ) :
    WritesOnce te ((te.update nodeGetter info).run service s) := by
  rcases hpublish : te.args.noPublish
  · rcases hpatch : te.args.patchMode
    · -- without patches the calls are those of a resync
      have hresync : WritesOnce te ⟨[] ++ ((te.resync nodeGetter info).run service s).calls, _, _, _⟩ :=
        writesOnce_of_outcome (resync_outcome te nodeGetter info s (List.forall_mem_nil _))
      have hwrites := hresync.writes
      simp only [List.nil_append, calls_resync] at hwrites
      simp only [update, hpublish, sendObject, hpatch, Bool.false_eq_true, if_false, Prog.run_bind,
        Prog.run_pure, List.append_nil]
      exact ⟨rfl, fun nrt hnrt => .inl hnrt, hwrites⟩
    · exact writesOnce_of_outcome (update_outcome nodeGetter info s hpublish hpatch)
  · simp only [update, hpublish, if_true, Prog.run_pure]
    exact ⟨rfl, fun nrt hnrt => .inl hnrt, Nat.zero_le 1⟩

end Report

/-! ### All reports -/

/-- The updater and the world after so many reports. -/
structure MindsOwn (args : NRTUpdaterArgs) (start : World) (reports : Nat) (te : NRTUpdater) (w : World) :
    Prop where
  config : te.args = args
  prevNRT : ∀ nrt ∈ te.prevNRT, nrt.name = args.hostname
  others : ∀ name ≠ args.hostname, ((w.server.objects.lookup name).map fun nrt => nrt.toNRTContent)
    = leftByOthers start.server w.history name
  writes : w.server.clock ≤ start.server.clock + puts w.history + reports
  silent : args.noPublish = true → w = start

section Reports

variable {args : NRTUpdaterArgs} {start : World}

theorem MindsOwn.report {n : Nat} {te : NRTUpdater} {w : World} (h : MindsOwn args start n te w)
    (input : Report) :
    MindsOwn args start (n + 1) (roundOf NRTUpdater.report World.serve te w input).after
      (roundOf NRTUpdater.report World.serve te w input).final := by
  obtain ⟨rfl, hprev, hothers, hwrites, hsilent⟩ := h
  have honce : WritesOnce te ((te.report input).run World.serve w) :=
    update_writesOnce te input.nodeGetter input.info w
  have haddresses : (te.report input).Respects (Addresses te.args.hostname) learn none :=
    update_addresses hprev none
  have hrun : (∀ c ∈ ((te.report input).run World.serve w).calls,
        ∀ nrt, c.answer = .ok nrt → nrt.name = te.args.hostname)
      ∧ ∃ seen, LeavesOthers te.args.hostname start.server seen
          ((te.report input).run World.serve w).final := by
    refine Prog.run_invariant (I := LeavesOthers te.args.hostname start.server)
      (fun seen w' q hI hq => hI.serve hq) haddresses ⟨hothers, fun nrt hnrt => ?_⟩
    cases hnrt
  obtain ⟨hnames, seen, hleaves⟩ := hrun
  refine ⟨honce.args, fun nrt hnrt => ?_, hleaves.others, ?_, fun hpublish => ?_⟩
  · rcases honce.prevNRT nrt hnrt with hold | ⟨c, hc, hanswer⟩
    · exact hprev nrt hold
    · exact hnames c hc nrt hanswer
  · have hclock := clock_run (te.report input) w
    have hone := honce.writes
    show ((te.report input).run World.serve w).final.server.clock
      ≤ _ + puts ((te.report input).run World.serve w).final.history + _
    omega
  · have hpure : te.report input = pure (te, none) := by
      rw [NRTUpdater.report, update, if_pos hpublish]
    show ((te.report input).run World.serve w).final = start
    rw [hpure]
    exact hsilent hpublish

theorem mindsOwn_reached (lib : PatchLibrary) (tmconf : TMConfig) (hhistory : start.history = [])
    (inputs : List Report) :
    MindsOwn args start inputs.length
      (reached NRTUpdater.report World.serve (newNRTUpdater lib args tmconf) start inputs).1
      (reached NRTUpdater.report World.serve (newNRTUpdater lib args tmconf) start inputs).2 := by
  induction inputs using List.reverseRecOn with
  | nil =>
      refine ⟨rfl, fun nrt hnrt => ?_, fun name _ => ?_, Nat.le_add_right _ _, fun _ => rfl⟩
      · cases hnrt
      · show _ = leftByOthers start.server start.history name
        rw [hhistory]
        rfl
  | append_singleton inputs input ih =>
      rw [reached_snoc, List.length_append]
      exact ih.report input

end Reports

/-- **The exporter minds its own object.**  In every interleaving, whatever other clients write
and whichever requests fail: the objects of other nodes are as the other clients left them.  The
server has given out at most one resource version for each report, those of the other clients
aside.  And without publishing the world is as it was. -/
theorem exporter_minds_own_object {ρ : Type} (x : Exporter ρ) {lib : PatchLibrary}
    {args : NRTUpdaterArgs} {tmconf : TMConfig} (hte : x.te = newNRTUpdater lib args tmconf)
    (hhistory : x.world.history = []) {tr : List ExporterAct} {s : ExporterState x} (run : Run x.net (.initial x.net) tr s) :
    ∃ w, (UpdaterLoc.reached (s.loc .updater)).2 = w
      ∧ (∀ name ≠ args.hostname, ((w.server.objects.lookup name).map fun nrt => nrt.toNRTContent)
          = leftByOthers x.world.server w.history name)
      ∧ w.server.clock ≤ x.world.server.clock + puts w.history + (reported tr).length
      ∧ (args.noPublish = true → w = x.world) := by
  obtain ⟨done, track⟩ := updater_goes (run.goes .updater)
  have hown : MindsOwn args x.world _ _ _ :=
    mindsOwn_reached lib tmconf hhistory (done.map fun info => ⟨info, x.nodeGetter⟩)
  rw [← hte, ← track.reached, List.length_map] at hown
  have hdone : done.length ≤ (reported tr).length := by
    rw [reported, track.infos, List.length_append]
    exact Nat.le_add_right _ _
  exact ⟨_, rfl, hown.others, hown.writes.trans (Nat.add_le_add_left hdone _), hown.silent⟩

/-- What another client writes about its own node. -/
def neighbourContent : NRTContent := { editedContent with name := "node-1" }

/-- The object of another node arrives before the first request. -/
def neighbourWorld : World := ⟨Server.empty, [⟨[.put neighbourContent], none⟩], []⟩

def neighbourExporter : Exporter Unit := { smallExporter with world := neighbourWorld }

/-- The first report is published next to the object of another node. -/
theorem exporter_minds_own_object_neighbour :
    ∃ tr s w, Run neighbourExporter.net (.initial neighbourExporter.net) tr s
      ∧ (UpdaterLoc.reached (s.loc .updater)).2 = w ∧ w.history = [.put neighbourContent]
      ∧ ((w.server.objects.lookup "node-1").map fun nrt => nrt.toNRTContent) = some neighbourContent
      ∧ w.server.clock ≤ 2 := by
  have start : Run neighbourExporter.net (.initial neighbourExporter.net) []
    (.initial neighbourExporter.net) := .nil
  have run := ((((start.snoc (Exporter.step_stamp rfl 5)).snoc (Exporter.step_hand rfl rfl rfl)).snoc
    (Exporter.step_scan rfl emptyScan)).snoc (Exporter.step_info rfl rfl)).snoc (Exporter.step_update rfl)
  obtain ⟨w, hw, hothers, hclock, -⟩ := exporter_minds_own_object neighbourExporter rfl rfl run
  have hhistory : w.history = [.put neighbourContent] := by
    rw [← hw]
    rfl
  have hnode := hothers "node-1" (by decide)
  rw [hhistory] at hnode hclock
  exact ⟨_, _, w, run, hw, hhistory, hnode, hclock⟩

end TopologyExporter
