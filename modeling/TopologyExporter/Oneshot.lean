/-
TopologyExporter/Oneshot.lean

The loop of the updater, `NRTUpdater.Run`, and its `Oneshot` argument.

The loop is a program that goes through what its `select` receives.  With
`Oneshot` the case of a report ends in `break`; in Go that leaves the `select`,
not the `for` around it, so the loop goes on.  `run_updates` counts the updates
of any run; `oneshot_updates_once_iff` says for which runs the argument keeps its
promise.
-/
import TopologyExporter.Staleness

namespace TopologyExporter

open Interaction NRTUpdater

/-- What the `select` of the loop receives. -/
inductive UpdaterInput
  | info (report : Report)
  | stop

/-- What is left of a run of the loop: the updater, the error of each `Update`, the
conditions sent, and whether `Run` has returned.  If it has not, it waits in its
`select`. -/
structure UpdaterTrace where
  te : NRTUpdater
  updates : List (Option UpdateError)
  conditions : List PodCondition
  returned : Bool

/-- The status of the condition for the outcome of an update. -/
def conditionOf (err : Option UpdateError) : ConditionStatus :=
  if err.isSome then .conditionFalse else .conditionTrue

/-- `NRTUpdater.Run`. -/
def NRTUpdater.run (condChan : Bool) : NRTUpdater → List UpdaterInput → Api UpdaterTrace
  | te, [] => pure { te := te, updates := [], conditions := [], returned := false }
  | te, .stop :: _ => pure { te := te, updates := [], conditions := [], returned := true }
  | te, .info r :: inputs => do
      let (te, err) ← te.report r
      -- the `break` of `Oneshot` skips the condition and comes back to the `select`
      let conditions :=
        if te.args.oneshot then [] else setCondition condChan .nodeTopologyUpdated (conditionOf err)
      let later ← run condChan te inputs
      pure { later with updates := err :: later.updates, conditions := conditions ++ later.conditions }

/-- The reports that are received before the first stop. -/
def infosBeforeStop : List UpdaterInput → List Report
  | [] => []
  | .stop :: _ => []
  | .info r :: inputs => r :: infosBeforeStop inputs

variable {σ : Type}

/-- There is one update for each report before the first stop, and `Run` returns
on a stop only. -/
theorem run_updates (service : σ → Request → Answer × σ) (condChan : Bool) (te : NRTUpdater)
    (inputs : List UpdaterInput) (s : σ) :
    ((te.run condChan inputs).run service s).result.updates.length = (infosBeforeStop inputs).length
      ∧ (((te.run condChan inputs).run service s).result.returned = true ↔ .stop ∈ inputs) := by
  induction inputs generalizing te s with
  | nil => simp [NRTUpdater.run, infosBeforeStop]
  | cons input inputs ih =>
      cases input with
      | stop => simp [NRTUpdater.run, infosBeforeStop]
      | info r =>
          obtain ⟨hlength, hreturned⟩ := ih ((te.report r).run service s).result.1
            ((te.report r).run service s).final
          rw [NRTUpdater.run, Prog.run_bind, Prog.run_bind]
          refine ⟨congrArg Nat.succ hlength, hreturned.trans ?_⟩
          simp

/-- The updater with `Oneshot` set. -/
def NRTUpdater.oneshot (te : NRTUpdater) : NRTUpdater :=
  { te with args := { te.args with oneshot := true } }

/-- **With `Oneshot`, a run updates at most once and returns after that, exactly if
no report comes before the first stop, or one does and then a stop.**  Neither
the outcome of the update nor the argument itself plays a part. -/
theorem oneshot_updates_once_iff (te : NRTUpdater) (condChan : Bool)
    (service : σ → Request → Answer × σ) (s : σ) (inputs : List UpdaterInput) :
    (((te.oneshot.run condChan inputs).run service s).result.updates.length ≤ 1
        ∧ (((te.oneshot.run condChan inputs).run service s).result.updates ≠ [] →
            ((te.oneshot.run condChan inputs).run service s).result.returned = true))
      ↔ infosBeforeStop inputs = []
        ∨ (infosBeforeStop inputs).length = 1 ∧ .stop ∈ inputs := by
  obtain ⟨hlength, hreturned⟩ := run_updates service condChan te.oneshot inputs s
  rw [hreturned, ← List.length_pos_iff_ne_nil, hlength, ← List.length_eq_zero_iff]
  constructor
  · rintro ⟨hle, hstop⟩
    rcases Nat.eq_zero_or_pos (infosBeforeStop inputs).length with hzero | hpos
    · exact .inl hzero
    · exact .inr ⟨le_antisymm hle hpos, hstop hpos⟩
  · rintro (hzero | ⟨hone, hstop⟩)
    · exact ⟨by omega, fun hpos => by omega⟩
    · exact ⟨hone.le, fun _ => hstop⟩

/-- Two reports and no stop: two updates, and the loop waits for a third report. -/
theorem oneshot_updates_twice :
    (((newNRTUpdater threeWayLibrary { resyncArgs with oneshot := true } podScope).run true
        [.info (zoneReport []), .info (zoneReport [])]).run World.serve editedWorld).result.updates
      = [none, none]
    ∧ (((newNRTUpdater threeWayLibrary { resyncArgs with oneshot := true } podScope).run true
        [.info (zoneReport []), .info (zoneReport [])]).run World.serve editedWorld).result.returned
      = false := by
  decide +kernel

end TopologyExporter
