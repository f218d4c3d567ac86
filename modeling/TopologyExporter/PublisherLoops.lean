/-
TopologyExporter/PublisherLoops.lean

The updater and the injector of pod conditions as goroutines.

A call of `Update` or `Inject` is one step: no other goroutine touches the object that
it writes.  So each of the two goes through a session with its server, one round for
each value that it takes from its channel (`updater_goes`, `injector_goes`).
-/
import TopologyExporter.ObserverLoop
import TopologyExporter.Oneshot

namespace TopologyExporter

open Goroutines Interaction

/-! ### The updater -/

/-- The program points of `NRTUpdater.Run`. -/
inductive UpdaterLoc
  | select (te : NRTUpdater) (w : World)
  | updating (te : NRTUpdater) (w : World) (info : MonitorInfo)
  | stamping (condition : PodCondition) (te : NRTUpdater) (w : World)
  | setting (condition : TimedCondition) (te : NRTUpdater) (w : World)
  | returned (te : NRTUpdater) (w : World)

/-- The round of the updater for an info. -/
abbrev updateRound (nodeGetter : NodeGetter) (te : NRTUpdater) (w : World) (info : MonitorInfo) :
    ReportRound :=
  roundOf NRTUpdater.report World.serve te w ⟨info, nodeGetter⟩

/-- The condition that is set after an update.  The `break` of `Oneshot` skips it. -/
def roundConditions (condChan : Bool) (r : ReportRound) : List PodCondition :=
  if r.after.args.oneshot then []
  else setCondition condChan .nodeTopologyUpdated (conditionOf r.result)

/-- Where the updater goes after an update: to `SetCondition`, if there is something to
set. -/
def UpdaterLoc.updated (condChan : Bool) (r : ReportRound) : UpdaterLoc :=
  match roundConditions condChan r with
  | [] => .select r.after r.final
  | condition :: _ => .stamping condition r.after r.final

/-- `NRTUpdater.Run`. -/
def updater (condChan : Bool) (nodeGetter : NodeGetter) :
    UpdaterLoc → Option (Select ExporterChan.Val UpdaterLoc)
  | .select te w => some
      ⟨[.recv .infoChan (.updating te w), .recv .stopUpdater fun _ => .returned te w], none⟩
  | .updating te w info => some
      ⟨[], some (.updated condChan (updateRound nodeGetter te w info))⟩
  | .stamping condition te w => some ⟨[.recv .clock fun now => .setting ⟨condition, now⟩ te w], none⟩
  | .setting condition te w => some ⟨[.send .condChan condition (.select te w)], none⟩
  | .returned _ _ => none

/-- What the updater sends, and where it goes on. -/
inductive UpdaterSends (l : UpdaterLoc) : (c : ExporterChan) → c.Val → UpdaterLoc → Prop
  | set (condition : TimedCondition) (te : NRTUpdater) (w : World) (hl : l = .setting condition te w) :
      UpdaterSends l .condChan condition (.select te w)

/-- What the updater receives, and where it goes on. -/
inductive UpdaterTakes (l : UpdaterLoc) : (c : ExporterChan) → (c.Val → UpdaterLoc) → Prop
  | info (te : NRTUpdater) (w : World) (hl : l = .select te w) :
      UpdaterTakes l .infoChan (.updating te w)
  | stop (te : NRTUpdater) (w : World) (hl : l = .select te w) :
      UpdaterTakes l .stopUpdater fun _ => .returned te w
  | clock (condition : PodCondition) (te : NRTUpdater) (w : World) (hl : l = .stamping condition te w) :
      UpdaterTakes l .clock fun now => .setting ⟨condition, now⟩ te w

/-- Where the updater is after an update. -/
inductive UpdaterMoves (condChan : Bool) (nodeGetter : NodeGetter) (te : NRTUpdater) (w : World)
    (info : MonitorInfo) : UpdaterLoc → Prop
  | quiet (hcond : roundConditions condChan (updateRound nodeGetter te w info) = []) :
      UpdaterMoves condChan nodeGetter te w info
        (.select (updateRound nodeGetter te w info).after (updateRound nodeGetter te w info).final)
  | condition (condition : PodCondition)
      (hcond : roundConditions condChan (updateRound nodeGetter te w info) = [condition]) :
      UpdaterMoves condChan nodeGetter te w info
        (.stamping condition (updateRound nodeGetter te w info).after
          (updateRound nodeGetter te w info).final)

section Updater

variable {condChan : Bool} {nodeGetter : NodeGetter} {l next : UpdaterLoc}

theorem updater_sends {c : ExporterChan} {v : c.Val}
    (hsend : Offered (updater condChan nodeGetter) l (.send c v next)) : UpdaterSends l c v next := by
  obtain ⟨sel, hcode, hcase⟩ := hsend
  cases l with
  | select te w => cases hcode; simp at hcase
  | updating te w info => cases hcode; cases hcase
  | stamping condition te w => cases hcode; simp at hcase
  | setting condition te w =>
      cases hcode
      cases List.mem_singleton.mp hcase
      exact .set condition te w rfl
  | returned te w => cases hcode

theorem updater_takes {c : ExporterChan} {k : c.Val → UpdaterLoc}
    (hrecv : Offered (updater condChan nodeGetter) l (.recv c k)) : UpdaterTakes l c k := by
  obtain ⟨sel, hcode, hcase⟩ := hrecv
  cases l with
  | select te w =>
      cases hcode
      rcases List.mem_cons.mp hcase with hcase | hcase
      · cases hcase
        exact .info te w rfl
      · cases List.mem_singleton.mp hcase
        exact .stop te w rfl
  | updating te w info => cases hcode; cases hcase
  | stamping condition te w =>
      cases hcode
      cases List.mem_singleton.mp hcase
      exact .clock condition te w rfl
  | setting condition te w => cases hcode; simp at hcase
  | returned te w => cases hcode

/-- There is at most one condition for an update. -/
theorem roundConditions_cases (condChan : Bool) (r : ReportRound) :
    roundConditions condChan r = [] ∨ ∃ condition, roundConditions condChan r = [condition] := by
  unfold roundConditions setCondition
  split_ifs
  · exact .inl rfl
  · right
    rcases conditionOf r.result with - | - <;> exact ⟨_, rfl⟩
  · exact .inl rfl

/-- Without an injector there is nothing to set. -/
theorem UpdaterLoc.updated_false (r : ReportRound) : updated false r = .select r.after r.final := by
  have hnone : roundConditions false r = [] := ite_self _
  rw [updated, hnone]

theorem updater_default {sel : Select ExporterChan.Val UpdaterLoc}
    (hcode : updater condChan nodeGetter l = some sel) (hdefault : sel.default = some next) :
    ∃ te w info, l = .updating te w info ∧ UpdaterMoves condChan nodeGetter te w info next := by
  cases l with
  | updating te w info =>
      cases hcode
      refine ⟨te, w, info, rfl, ?_⟩
      obtain rfl := Option.some.inj hdefault
      rw [UpdaterLoc.updated]
      rcases roundConditions_cases condChan (updateRound nodeGetter te w info) with hcond | ⟨condition, hcond⟩
      · rw [hcond]
        exact .quiet hcond
      · rw [hcond]
        exact .condition condition hcond
  | select te w => cases hcode; cases hdefault
  | stamping condition te w => cases hcode; cases hdefault
  | setting condition te w => cases hcode; cases hdefault
  | returned te w => cases hcode

end Updater

/-! ### What the updater has done -/

namespace UpdaterLoc

/-- The updater and the API server, as the last update left them. -/
def reached : UpdaterLoc → NRTUpdater × World
  | .select te w | .updating te w _ | .stamping _ te w | .setting _ te w | .returned te w => (te, w)

/-- The info whose update has not returned. -/
def updates : UpdaterLoc → List MonitorInfo
  | .updating _ _ info => [info]
  | _ => []

/-- The condition that is still to be set. -/
def owed : UpdaterLoc → List PodCondition
  | .stamping condition _ _ => [condition]
  | .setting condition _ _ => [condition.condition]
  | _ => []

end UpdaterLoc

/-- What the updater has done so far, against a session with the API server: the
updates that have returned, the conditions for them, and the one it is at. -/
structure UpdaterTrack (condChan : Bool) (nodeGetter : NodeGetter) (te₀ : NRTUpdater) (w₀ : World)
    (h : List (Comm ExporterChan.Val)) (l : UpdaterLoc) (done : List MonitorInfo) : Prop where
  infos : gotOn .infoChan h = done ++ l.updates
  reached : l.reached = Interaction.reached NRTUpdater.report World.serve te₀ w₀
    (done.map fun info => ⟨info, nodeGetter⟩)
  conditions : (sentOn .condChan h).map TimedCondition.condition ++ l.owed
    = (session NRTUpdater.report World.serve te₀ w₀
        (done.map fun info => ⟨info, nodeGetter⟩)).flatMap (roundConditions condChan)

/-- **The updater goes through a session with the API server.** -/
theorem updater_goes {condChan : Bool} {nodeGetter : NodeGetter} {te₀ : NRTUpdater} {w₀ : World}
    {h : List (Comm ExporterChan.Val)} {l : UpdaterLoc}
    (goes : Goes (updater condChan nodeGetter) (.select te₀ w₀) h l) :
    ∃ done, UpdaterTrack condChan nodeGetter te₀ w₀ h l done := by
  induction goes with
  | start => exact ⟨[], rfl, rfl, rfl⟩
  | send _ hsend ih =>
      obtain ⟨done, infos, hreached, conditions⟩ := ih
      cases updater_sends hsend with
      | set condition te w hl =>
          subst hl
          refine ⟨done, ?_, hreached, ?_⟩
          · rwa [gotOn_snoc_sent]
          · rw [← conditions, sentOn_snoc_self]
            simp [UpdaterLoc.owed]
  | recv _ hrecv v ih =>
      obtain ⟨done, infos, hreached, conditions⟩ := ih
      cases updater_takes hrecv with
      | info te w hl =>
          subst hl
          refine ⟨done, ?_, hreached, ?_⟩
          · rw [gotOn_snoc_self, infos]
            simp [UpdaterLoc.updates]
          · rwa [sentOn_snoc_got]
      | stop te w hl =>
          subst hl
          refine ⟨done, ?_, hreached, ?_⟩
          · rwa [gotOn_snoc_of_ne (by simp)]
          · rwa [sentOn_snoc_got]
      | clock condition te w hl =>
          subst hl
          refine ⟨done, ?_, hreached, ?_⟩
          · rwa [gotOn_snoc_of_ne (by simp)]
          · rwa [sentOn_snoc_got]
  | default _ hcode hdefault ih =>
      obtain ⟨done, infos, hreached, conditions⟩ := ih
      obtain ⟨te, w, info, rfl, hmoves⟩ := updater_default hcode hdefault
      -- the round that ends here is the next one of the session
      obtain rfl : te = _ := congrArg Prod.fst hreached
      obtain rfl : w = _ := congrArg Prod.snd hreached
      refine ⟨done ++ [info], ?_, ?_, ?_⟩
      · cases hmoves <;> simpa [UpdaterLoc.updates] using infos
      · rw [List.map_append, List.map_singleton, reached_snoc]
        cases hmoves <;> rfl
      · rw [List.map_append, List.map_singleton, session_snoc, List.flatMap_append, ← conditions,
          List.flatMap_singleton]
        cases hmoves with
        | quiet hcond =>
            rw [hcond]
            simp [UpdaterLoc.owed]
        | condition condition hcond =>
            rw [hcond]
            simp [UpdaterLoc.owed]

/-- The updater returns on a stop only. -/
theorem updater_keeps_running {condChan : Bool} {nodeGetter : NodeGetter} {te₀ : NRTUpdater} {w₀ : World}
    {h : List (Comm ExporterChan.Val)} {l : UpdaterLoc}
    (goes : Goes (updater condChan nodeGetter) (.select te₀ w₀) h l)
    (hstop : gotOn .stopUpdater h = []) (te : NRTUpdater) (w : World) : l ≠ .returned te w := by
  cases goes with
  | start => simp
  | send _ hsend =>
      cases updater_sends hsend
      simp
  | recv _ hrecv v =>
      cases updater_takes hrecv with
      | info => simp
      | stop => simp at hstop
      | clock => simp
  | default _ hcode hdefault =>
      obtain ⟨te, w, info, rfl, hmoves⟩ := updater_default hcode hdefault
      cases hmoves <;> simp

/-! ### The injector -/

variable {ρ : Type}

/-- The program points of `ConditionInjector.Run`. -/
inductive InjectorLoc (ρ : Type)
  | select (ci : ConditionInjector) (w : PodWorld ρ)
  | injecting (ci : ConditionInjector) (w : PodWorld ρ) (condition : TimedCondition)
  | returned (ci : ConditionInjector) (w : PodWorld ρ)

/-- The round of the injector for a condition. -/
abbrev injectRound (ci : ConditionInjector) (w : PodWorld ρ) (condition : TimedCondition) :=
  roundOf ConditionInjector.inject PodWorld.serve ci w condition.toStatus

/-- `ConditionInjector.Run`.  The error of `Inject` is logged only. -/
def injector : InjectorLoc ρ → Option (Select ExporterChan.Val (InjectorLoc ρ))
  | .select ci w => some
      ⟨[.recv .condChan (.injecting ci w), .recv .ctxDone fun _ => .returned ci w], none⟩
  | .injecting ci w condition => some
      ⟨[], some (.select (injectRound ci w condition).after (injectRound ci w condition).final)⟩
  | .returned _ _ => none

/-- What the injector receives, and where it goes on. -/
inductive InjectorTakes (l : InjectorLoc ρ) : (c : ExporterChan) → (c.Val → InjectorLoc ρ) → Prop
  | condition (ci : ConditionInjector) (w : PodWorld ρ) (hl : l = .select ci w) :
      InjectorTakes l .condChan (.injecting ci w)
  | done (ci : ConditionInjector) (w : PodWorld ρ) (hl : l = .select ci w) :
      InjectorTakes l .ctxDone fun _ => .returned ci w

section Injector

variable {l next : InjectorLoc ρ}

theorem injector_sends {c : ExporterChan} {v : c.Val} :
    ¬ Offered injector l (.send c v next) := by
  rintro ⟨sel, hcode, hcase⟩
  cases l with
  | select ci w => cases hcode; simp at hcase
  | injecting ci w condition => cases hcode; cases hcase
  | returned ci w => cases hcode

theorem injector_takes {c : ExporterChan} {k : c.Val → InjectorLoc ρ}
    (hrecv : Offered injector l (.recv c k)) : InjectorTakes l c k := by
  obtain ⟨sel, hcode, hcase⟩ := hrecv
  cases l with
  | select ci w =>
      cases hcode
      rcases List.mem_cons.mp hcase with hcase | hcase
      · cases hcase
        exact .condition ci w rfl
      · cases List.mem_singleton.mp hcase
        exact .done ci w rfl
  | injecting ci w condition => cases hcode; cases hcase
  | returned ci w => cases hcode

theorem injector_default {sel : Select ExporterChan.Val (InjectorLoc ρ)}
    (hcode : injector l = some sel) (hdefault : sel.default = some next) :
    ∃ ci w condition, l = .injecting ci w condition
      ∧ next = .select (injectRound ci w condition).after (injectRound ci w condition).final := by
  cases l with
  | injecting ci w condition =>
      cases hcode
      cases hdefault
      exact ⟨ci, w, condition, rfl, rfl⟩
  | select ci w => cases hcode; cases hdefault
  | returned ci w => cases hcode

end Injector

namespace InjectorLoc

/-- The injector and the pod, as the last `Inject` left them. -/
def reached : InjectorLoc ρ → ConditionInjector × PodWorld ρ
  | .select ci w | .injecting ci w _ | .returned ci w => (ci, w)

/-- The condition whose `Inject` has not returned. -/
def injects : InjectorLoc ρ → List TimedCondition
  | .injecting _ _ condition => [condition]
  | _ => []

end InjectorLoc

/-- **The injector goes through a session with the pod.** -/
theorem injector_goes {ci₀ : ConditionInjector} {w₀ : PodWorld ρ} {h : List (Comm ExporterChan.Val)}
    {l : InjectorLoc ρ} (goes : Goes injector (.select ci₀ w₀) h l) :
    ∃ done, gotOn .condChan h = done ++ l.injects
      ∧ l.reached = reached ConditionInjector.inject PodWorld.serve ci₀ w₀
          (done.map TimedCondition.toStatus) := by
  induction goes with
  | start => exact ⟨[], rfl, rfl⟩
  | send _ hsend _ => exact (injector_sends hsend).elim
  | recv _ hrecv v ih =>
      obtain ⟨done, conditions, hreached⟩ := ih
      cases injector_takes hrecv with
      | condition ci w hl =>
          subst hl
          refine ⟨done, ?_, hreached⟩
          rw [gotOn_snoc_self, conditions]
          simp [InjectorLoc.injects]
      | done ci w hl =>
          subst hl
          refine ⟨done, ?_, hreached⟩
          rwa [gotOn_snoc_of_ne (by simp)]
  | default _ hcode hdefault ih =>
      obtain ⟨done, conditions, hreached⟩ := ih
      obtain ⟨ci, w, condition, rfl, rfl⟩ := injector_default hcode hdefault
      refine ⟨done ++ [condition], ?_, ?_⟩
      · simpa [InjectorLoc.injects] using conditions
      · rw [List.map_append, List.map_singleton, reached_snoc, ← hreached]
        rfl

/-- The injector returns only if its context is done. -/
theorem injector_keeps_running {ci₀ : ConditionInjector} {w₀ : PodWorld ρ}
    {h : List (Comm ExporterChan.Val)} {l : InjectorLoc ρ} (goes : Goes injector (.select ci₀ w₀) h l)
    (hdone : gotOn .ctxDone h = []) (ci : ConditionInjector) (w : PodWorld ρ) : l ≠ .returned ci w := by
  cases goes with
  | start => simp
  | send _ hsend => exact (injector_sends hsend).elim
  | recv _ hrecv v =>
      cases injector_takes hrecv with
      | condition => simp
      | done => simp at hdone
  | default _ hcode hdefault =>
      obtain ⟨ci, w, condition, rfl, rfl⟩ := injector_default hcode hdefault
      simp

end TopologyExporter
