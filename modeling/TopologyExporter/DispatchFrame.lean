/-
TopologyExporter/DispatchFrame.lean

What a dispatch of a flattened configuration changes, field by field.

The fields in the table of bindings are set by their keys and kept without them.  The
two special cases are not: the reference container is written by every dispatch, so
without its key it is reset, and the limit of the events has -1 as the mark of a missing
key, so -1 itself cannot be set.  `dispatch_exact_iff` says that these are the only
differences.
-/
import TopologyExporter.ConfigFiles

namespace TopologyExporter

open GoMap GoPanic Assignments

/-! ### One key -/

/-- A key that is present sets the new value; without it the old one stays. -/
def TakesValue {α : Type} (cm : ConfMap) (key : String) (convert : ConfValue → Except String α)
    (old new : α) : Prop :=
  match cm.lookup key with
  | none => new = old
  | some v => convert v = .ok new

section TakesValue

variable {α : Type} {cm : ConfMap} {key : String} {convert : ConfValue → Except String α}
variable {old new : α}

theorem takesValue_of_none (h : cm.lookup key = none) :
    TakesValue cm key convert old new ↔ new = old := by
  rw [TakesValue, h]

theorem takesValue_of_some {v : ConfValue} (h : cm.lookup key = some v) :
    TakesValue cm key convert old new ↔ convert v = .ok new := by
  rw [TakesValue, h]

end TakesValue

/-- The key of the reference container. -/
abbrev identKey : String := "topologyExporter.referenceContainer"

/-- The key of the limit of the events. -/
abbrev maxEventsKey : String := "topologyExporter.maxEventPerTimeUnit"

/-- The identity that a value stands for. -/
def readIdent (v : ConfValue) : Except String (Option ContainerIdent) :=
  Kind.string.read identKey v >>= ContainerIdent.ofString

/-- A dispatch changes what the map sets, and nothing else. -/
structure DispatchExact (cm : ConfMap) (p r : ProgArgs) : Prop where
  bound : ∀ b ∈ confBindings, TakesValue cm b.1 (b.2.kind.read b.1) (p.get b.2) (r.get b.2)
  referenceContainer : TakesValue cm identKey readIdent p.rte.referenceContainer
    r.rte.referenceContainer
  maxEvents : TakesValue cm maxEventsKey (Kind.int.read maxEventsKey)
    (p.get .maxEventsPerTimeUnit) (r.get .maxEventsPerTimeUnit)
  unbound : ∀ s, s ∉ confBindings.map Prod.snd → s ≠ .maxEventsPerTimeUnit → r.get s = p.get s
  rest : r = (p.withSettings r.get).setReferenceContainer r.rte.referenceContainer

/-! ### One dispatch -/

section Dispatch

variable {cm : ConfMap} {p r : ProgArgs} (h : dispatchConfObj cm p = .ok r)
include h

theorem takesValue_bound {b : String × Setting} (hb : b ∈ confBindings) :
    TakesValue cm b.1 (b.2.kind.read b.1) (p.get b.2) (r.get b.2) := by
  have hget := dispatchConfObj_get h hb
  rcases hv : cm.lookup b.1 with - | v
  · rw [takesValue_of_none hv, hget, boundValue, hv]
    rfl
  · obtain ⟨assignments, hread, -⟩ := dispatchConfObj_ok_iff.mp h
    obtain ⟨x, hx⟩ := read_of_readBindings hread hb hv
    rw [takesValue_of_some hv, hget, boundValue, hv, Option.bind_some, hx]
    rfl

/-- The reference container is reset where there is no key for it. -/
theorem takesValue_referenceContainer_iff :
    TakesValue cm identKey readIdent p.rte.referenceContainer r.rte.referenceContainer
      ↔ (cm.lookup identKey = none → p.rte.referenceContainer = none) := by
  obtain ⟨refCnt, hread, hident⟩ := dispatchConfObj_referenceContainer h
  rw [readLocal] at hread
  rcases hv : cm.lookup identKey with - | v
  · -- an absent key reads as the empty string, which is the identity `nil`
    rw [hv] at hread
    obtain rfl := Except.ok.inj hread
    have hnone : r.rte.referenceContainer = none := (Except.ok.inj hident).symm
    rw [takesValue_of_none hv, hnone]
    exact ⟨fun heq _ => heq.symm, fun heq => (heq rfl).symm⟩
  · rw [hv] at hread
    rw [takesValue_of_some hv]
    refine ⟨fun _ hnone => absurd hnone (Option.some_ne_none v), fun _ => ?_⟩
    exact bind_eq_ok_iff.mpr ⟨refCnt, hread, hident⟩

/-- A limit of -1 is not set. -/
theorem takesValue_maxEvents_iff :
    TakesValue cm maxEventsKey (Kind.int.read maxEventsKey) (p.get .maxEventsPerTimeUnit)
        (r.get .maxEventsPerTimeUnit)
      ↔ ∀ q, cm.lookup maxEventsKey = some (.float64 q) → truncate q = -1 →
          p.rte.maxEventsPerTimeUnit = -1 := by
  obtain ⟨n, hread, hget⟩ := dispatchConfObj_get_maxEvents h
  rw [readLocal] at hread
  rcases hv : cm.lookup maxEventsKey with - | v
  · -- an absent key reads as -1, which is not assigned
    rw [hv] at hread
    obtain rfl : -1 = n := Except.ok.inj hread
    rw [takesValue_of_none hv, hget]
    exact ⟨fun _ q hq => absurd hq.symm (Option.some_ne_none _), fun _ => rfl⟩
  · rw [hv] at hread
    rw [takesValue_of_some hv, hget]
    have hread' : Kind.int.read maxEventsKey v = .ok n := hread
    rw [hread', Except.ok.injEq]
    constructor
    · rintro heq q hq hone
      obtain rfl := Option.some.inj hq
      obtain rfl : truncate q = n := Except.ok.inj hread'
      rw [if_neg (not_not.mpr hone)] at heq
      exact heq.symm.trans hone
    · intro hall
      -- only a number is read
      cases v with
      | float64 q =>
          obtain rfl : truncate q = n := Except.ok.inj hread'
          by_cases hone : truncate q = -1
          · rw [if_neg (not_not.mpr hone), hone]
            exact (hall q rfl hone).symm
          · rw [if_pos hone]
      | string s => cases hread'
      | bool b => cases hread'
      | nil => cases hread'

/-- Everything but settings and the reference container is passed on. -/
theorem dispatchConfObj_rest :
    r = (p.withSettings r.get).setReferenceContainer r.rte.referenceContainer := by
  obtain ⟨assignments, -, refCnt, -, ident, -, n, -, rfl⟩ := dispatchConfObj_ok_iff.mp h
  have hrest : ∀ f : (s : Setting) → s.Val, (p.withSettings f).setReferenceContainer ident
      = (p.withSettings ((p.withSettings f).setReferenceContainer ident).get).setReferenceContainer
          ident := fun f => by
    have hget : ((p.withSettings f).setReferenceContainer ident).get = f := by
      funext s
      rw [ProgArgs.get_setReferenceContainer, ProgArgs.get_withSettings]
    rw [hget]
  split_ifs
  · exact hrest _
  · exact hrest _

end Dispatch

/-- **What a dispatch changes.**  It is what the map sets, unless the reference container has
no key and a value, or the limit of the events is to become -1 and is not. -/
theorem dispatch_exact_iff {cm : ConfMap} {p r : ProgArgs} (h : dispatchConfObj cm p = .ok r) :
    DispatchExact cm p r
      ↔ (cm.lookup identKey = none → p.rte.referenceContainer = none)
        ∧ ∀ q, cm.lookup maxEventsKey = some (.float64 q) → truncate q = -1 →
            p.rte.maxEventsPerTimeUnit = -1 := by
  rw [← takesValue_referenceContainer_iff h, ← takesValue_maxEvents_iff h]
  constructor
  · intro hexact
    exact ⟨hexact.referenceContainer, hexact.maxEvents⟩
  · rintro ⟨hreference, hmax⟩
    exact ⟨fun _ => takesValue_bound h, hreference, hmax,
      fun _ hs hne => dispatchConfObj_get_of_notMem h hs hne, dispatchConfObj_rest h⟩

/-- A configuration that turns debugging on. -/
def debugConf : ConfMap := Finmap.singleton "global.debug" (.bool true)

theorem dispatch_exact_debug :
    ∃ r, dispatchConfObj debugConf ProgArgs.zero = .ok r ∧ r.global.debug = true
      ∧ DispatchExact debugConf ProgArgs.zero r := by
  obtain ⟨r, hr, hdebug⟩ : ∃ r, dispatchConfObj debugConf ProgArgs.zero = .ok r
      ∧ r.global.debug = true := ⟨_, rfl, rfl⟩
  have hnone : debugConf.lookup maxEventsKey = none := by decide
  refine ⟨r, hr, hdebug, (dispatch_exact_iff hr).mpr ⟨fun _ => rfl, fun q hq => ?_⟩⟩
  rw [hnone] at hq
  cases hq

/-- Arguments with a reference container and a limit. -/
def limitedArgs : ProgArgs :=
  (ProgArgs.zero.setReferenceContainer (some ⟨"rte", "shared", "pool"⟩)).set .maxEventsPerTimeUnit
    (1 : Int)

/-- A configuration that is to lift the limit leaves it, and resets the reference
container. -/
theorem dispatch_ignores_and_resets :
    ∃ r, dispatchConfObj (Finmap.singleton maxEventsKey (.float64 (-1))) limitedArgs = .ok r
      ∧ r.rte.maxEventsPerTimeUnit = 1 ∧ r.rte.referenceContainer = none :=
  ⟨_, rfl, rfl, rfl⟩

end TopologyExporter
