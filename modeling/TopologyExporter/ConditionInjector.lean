/-
TopologyExporter/ConditionInjector.lean

The injector of pod conditions (`conditioninjector.go`).

`Inject` skips the API server if the condition is the one it wrote last, so it
rests on an agreement between its map `lastUpdate` and the pod on the server.
The server is one pod that other clients change too: at each request first the
others write, then the request may fail.  `history` keeps every write, so the
theorem can speak of each state the pod went through.

An update of the status carries the resource version of the pod that was read;
the server refuses it if the pod has changed since.  Hence a successful
`Inject` writes over the very pod it has read.
-/
import TopologyExporter.GoMap
import TopologyExporter.Interaction

namespace TopologyExporter

open Interaction

/-! ### The pod and its conditions -/

/-- `v1.PodCondition`, of any type. -/
structure StatusCondition where
  type : String
  status : String
  reason : String
  message : String
  lastTransitionTime : Int
  deriving DecidableEq, Repr

/-- `equalPodCondition`. -/
def equalPodCondition (a b : StatusCondition) : Bool :=
  a.type = b.type && a.status = b.status && a.reason = b.reason && a.message = b.message

theorem equalPodCondition_iff {a b : StatusCondition} :
    equalPodCondition a b = true
      ↔ a.type = b.type ∧ a.status = b.status ∧ a.reason = b.reason ∧ a.message = b.message := by
  simp [equalPodCondition, and_assoc]

theorem equalPodCondition_refl (a : StatusCondition) : equalPodCondition a a = true := by
  simp [equalPodCondition_iff]

theorem equalPodCondition_trans {a b c : StatusCondition} (h : equalPodCondition a b = true)
    (h' : equalPodCondition b c = true) : equalPodCondition a c = true := by
  simp only [equalPodCondition_iff] at h h' ⊢
  exact ⟨h.1.trans h'.1, h.2.1.trans h'.2.1, h.2.2.1.trans h'.2.2.1, h.2.2.2.trans h'.2.2.2⟩

/-- The conditions of one type. -/
def ofType (t : String) (conditions : List StatusCondition) : List StatusCondition :=
  conditions.filter fun c => c.type = t

/-- The conditions of the other types, in order. -/
def otherTypes (t : String) (conditions : List StatusCondition) : List StatusCondition :=
  conditions.filter fun c => c.type ≠ t

/-- A pod; `rest` is everything but the conditions. -/
structure StatusPod (ρ : Type) where
  conditions : List StatusCondition
  rest : ρ
  resourceVersion : Nat

/-! ### `Inject` -/

/-- The condition put in place of the first one of its type, or at the end. -/
def putCondition (conditions : List StatusCondition) (cond : StatusCondition) :
    List StatusCondition :=
  match conditions.findIdx? fun c => c.type = cond.type with
  | some pos => conditions.set pos cond
  | none => conditions ++ [cond]

/-- The calls of the injector. -/
inductive PodRequest (ρ : Type)
  | get
  | updateStatus (pod : StatusPod ρ)

/-- `ConditionInjector`; the pod it is for is the one of the server. -/
structure ConditionInjector where
  lastUpdate : GoMap String StatusCondition

/-- `NewConditionInjectorWithIdentity`. -/
def newConditionInjector : ConditionInjector := ⟨∅⟩

/-- The condition is the one written last. -/
def ConditionInjector.unchanged (ci : ConditionInjector) (cond : StatusCondition) : Bool :=
  (ci.lastUpdate.lookup cond.type).any fun oldCond => equalPodCondition oldCond cond

variable {ρ : Type}

/-- `Inject`; the second component is the error. -/
def ConditionInjector.inject (ci : ConditionInjector) (cond : StatusCondition) :
    Prog (PodRequest ρ) (Except String (StatusPod ρ)) (ConditionInjector × Option String) :=
  if ci.unchanged cond then pure (ci, none)
  else do
    match ← Prog.ask .get with
    | .error err => pure (ci, some err)
    | .ok pod =>
        match ← Prog.ask (.updateStatus { pod with conditions := putCondition pod.conditions cond }) with
        | .error err => pure (ci, some err)
        | .ok _ => pure (⟨ci.lastUpdate.insert cond.type cond⟩, none)

/-! ### The server -/

/-- A write to the pod, and whether the injector made it. -/
structure PodChange (ρ : Type) where
  own : Bool
  before : StatusPod ρ
  after : StatusPod ρ

/-- What happens at one request: the other clients write, then it may fail. -/
structure PodTurn (ρ : Type) where
  edits : List (StatusPod ρ → StatusPod ρ)
  failure : Option String

/-- The pod, what is yet to happen, and all that was written so far. -/
structure PodWorld (ρ : Type) where
  pod : StatusPod ρ
  script : List (PodTurn ρ)
  history : List (PodChange ρ)

namespace PodWorld

/-- Every write gives the pod a new version. -/
def write (w : PodWorld ρ) (own : Bool) (pod : StatusPod ρ) : PodWorld ρ :=
  let stored := { pod with resourceVersion := w.pod.resourceVersion + 1 }
  { w with pod := stored, history := w.history ++ [⟨own, w.pod, stored⟩] }

/-- A write of another client. -/
def foreign (w : PodWorld ρ) (edit : StatusPod ρ → StatusPod ρ) : PodWorld ρ := w.write false (edit w.pod)

/-- The turn of the next request; nothing happens once the script is over. -/
def turn (w : PodWorld ρ) : PodTurn ρ := w.script.headD ⟨[], none⟩

/-- The world when the request reaches the server. -/
def arrive (w : PodWorld ρ) : PodWorld ρ :=
  w.turn.edits.foldl foreign { w with script := w.script.tail }

/-- The answer of the server. -/
def exec (w : PodWorld ρ) : PodRequest ρ → Except String (StatusPod ρ) × PodWorld ρ
  | .get => (.ok w.pod, w)
  | .updateStatus pod =>
      if pod.resourceVersion = w.pod.resourceVersion then
        let w' := w.write true { w.pod with conditions := pod.conditions }
        (.ok w'.pod, w')
      else (.error "the object has been modified", w)

/-- Serve a request of the injector. -/
def serve (w : PodWorld ρ) (q : PodRequest ρ) : Except String (StatusPod ρ) × PodWorld ρ :=
  match w.turn.failure with
  | some err => (.error err, w.arrive)
  | none => w.arrive.exec q

end PodWorld

/-! ### Putting a condition in place -/

theorem putCondition_cons (c : StatusCondition) (conditions : List StatusCondition)
    (cond : StatusCondition) :
    putCondition (c :: conditions) cond
      = if c.type = cond.type then cond :: conditions else c :: putCondition conditions cond := by
  rw [putCondition, List.findIdx?_cons]
  by_cases h : c.type = cond.type
  · simp [h]
  · rcases hpos : conditions.findIdx? (fun c => c.type = cond.type) with - | pos <;>
      simp [h, putCondition, hpos]

/-- The conditions of the other types keep their values and their order. -/
theorem otherTypes_putCondition (conditions : List StatusCondition) (cond : StatusCondition) :
    otherTypes cond.type (putCondition conditions cond) = otherTypes cond.type conditions := by
  induction conditions with
  | nil => simp [putCondition, otherTypes]
  | cons c conditions ih =>
      rw [putCondition_cons]
      split
      · next h => simp [otherTypes, h]
      · next h => simpa [otherTypes, h] using ih

theorem ofType_putCondition_of_ne {t : String} (conditions : List StatusCondition)
    {cond : StatusCondition} (ht : cond.type ≠ t) :
    ofType t (putCondition conditions cond) = ofType t conditions := by
  induction conditions with
  | nil => simp [putCondition, ofType, ht]
  | cons c conditions ih =>
      rw [putCondition_cons]
      split
      · next h => simp [ofType, ht, h]
      · simp only [ofType] at ih
        simp [ofType, List.filter_cons, ih]

/-- If there was at most one condition of the type, the new one is the only one. -/
theorem ofType_putCondition (conditions : List StatusCondition) (cond : StatusCondition)
    (hone : (ofType cond.type conditions).length ≤ 1) :
    ofType cond.type (putCondition conditions cond) = [cond] := by
  induction conditions with
  | nil => simp [putCondition, ofType]
  | cons c conditions ih =>
      rw [putCondition_cons]
      split
      · next h =>
          have hnone : ofType cond.type conditions = [] := by
            simpa [ofType, h] using hone
          simpa [ofType] using hnone
      · next h =>
          simp only [ofType, List.filter_cons, h, decide_false] at hone ⊢
          exact ih hone

/-! ### The other clients -/

/-- The changes lead from one pod to the other. -/
def Linked : StatusPod ρ → List (PodChange ρ) → StatusPod ρ → Prop
  | p, [], q => q = p
  | p, ch :: changes, q => ch.before = p ∧ Linked ch.after changes q

theorem Linked.append {p q r : StatusPod ρ} {changes changes' : List (PodChange ρ)}
    (h : Linked p changes q) (h' : Linked q changes' r) : Linked p (changes ++ changes') r := by
  induction changes generalizing p with
  | nil =>
      obtain rfl := h
      exact h'
  | cons ch changes ih => exact ⟨h.1, ih h.2⟩

variable {injected : String → Prop}

/-- The edit leaves the conditions of the injected types alone. -/
def SparesInjected (injected : String → Prop) (edit : StatusPod ρ → StatusPod ρ) : Prop :=
  ∀ pod t, injected t → ofType t (edit pod).conditions = ofType t pod.conditions

/-- All that the other clients will do. -/
def SparesScript (injected : String → Prop) (script : List (PodTurn ρ)) : Prop :=
  ∀ turn ∈ script, ∀ edit ∈ turn.edits, SparesInjected injected edit

/-- From `w` to `w'` only the other clients wrote, and they made these changes. -/
structure ForeignOnly (injected : String → Prop) (w w' : PodWorld ρ) (changes : List (PodChange ρ)) :
    Prop where
  history : w'.history = w.history ++ changes
  linked : Linked w.pod changes w'.pod
  notOwn : ∀ ch ∈ changes, ch.own = false
  version : w'.pod.resourceVersion = w.pod.resourceVersion + changes.length
  spared : ∀ t, injected t → ofType t w'.pod.conditions = ofType t w.pod.conditions
  sparedAll : ∀ ch ∈ changes, ∀ t, injected t →
    ofType t ch.before.conditions = ofType t w.pod.conditions
      ∧ ofType t ch.after.conditions = ofType t w.pod.conditions

theorem ForeignOnly.refl (w w' : PodWorld ρ) (hpod : w'.pod = w.pod) (hhistory : w'.history = w.history) :
    ForeignOnly injected w w' [] where
  history := by simp [hhistory]
  linked := hpod
  notOwn := by simp
  version := by simp [hpod]
  spared := by simp [hpod]
  sparedAll := by simp

theorem ForeignOnly.foreign {w w' : PodWorld ρ} {changes : List (PodChange ρ)} {edit : StatusPod ρ → StatusPod ρ}
    (hedit : SparesInjected injected edit) (h : ForeignOnly injected (w.foreign edit) w' changes) :
    ForeignOnly injected w w' (⟨false, w.pod, (w.foreign edit).pod⟩ :: changes) := by
  have hspared : ∀ t, injected t → ofType t (w.foreign edit).pod.conditions = ofType t w.pod.conditions :=
    fun t ht => hedit w.pod t ht
  constructor
  · rw [h.history]
    simp [PodWorld.foreign, PodWorld.write]
  · exact ⟨rfl, h.linked⟩
  · intro ch hch
    rcases List.mem_cons.mp hch with rfl | hch
    · rfl
    · exact h.notOwn ch hch
  · rw [h.version, List.length_cons]
    simp only [PodWorld.foreign, PodWorld.write]
    omega
  · intro t ht
    rw [h.spared t ht, hspared t ht]
  · intro ch hch t ht
    rcases List.mem_cons.mp hch with rfl | hch
    · exact ⟨rfl, hspared t ht⟩
    · rw [(h.sparedAll ch hch t ht).1, (h.sparedAll ch hch t ht).2, hspared t ht]
      exact ⟨rfl, rfl⟩

theorem foreignOnly_foldl (edits : List (StatusPod ρ → StatusPod ρ)) (w : PodWorld ρ)
    (hedits : ∀ edit ∈ edits, SparesInjected injected edit) :
    ∃ changes, ForeignOnly injected w (edits.foldl PodWorld.foreign w) changes := by
  induction edits generalizing w with
  | nil => exact ⟨[], .refl w w rfl rfl⟩
  | cons edit edits ih =>
      obtain ⟨changes, h⟩ := ih (w.foreign edit) fun e he => hedits e (List.mem_cons_of_mem _ he)
      exact ⟨_, h.foreign (hedits edit List.mem_cons_self)⟩

theorem script_foldl_foreign (edits : List (StatusPod ρ → StatusPod ρ)) (w : PodWorld ρ) :
    (edits.foldl PodWorld.foreign w).script = w.script := by
  induction edits generalizing w with
  | nil => rfl
  | cons edit edits ih => exact ih (w.foreign edit)

/-- What happens before a request reaches the server. -/
theorem foreignOnly_arrive (w : PodWorld ρ) (hscript : SparesScript injected w.script) :
    SparesScript injected w.arrive.script ∧ ∃ changes, ForeignOnly injected w w.arrive changes := by
  have hturn : ∀ edit ∈ w.turn.edits, SparesInjected injected edit := by
    rcases h : w.script with - | ⟨turn, script⟩
    · simp [PodWorld.turn, h]
    · intro edit hedit
      rw [PodWorld.turn, h] at hedit
      exact hscript turn (by simp [h]) edit hedit
  constructor
  · intro turn hmem
    rw [PodWorld.arrive, script_foldl_foreign] at hmem
    exact hscript turn (List.mem_of_mem_tail hmem)
  · obtain ⟨changes, h⟩ := foreignOnly_foldl w.turn.edits { w with script := w.script.tail } hturn
    exact ⟨changes, h.history, h.linked, h.notOwn, h.version, h.spared, h.sparedAll⟩

theorem ForeignOnly.trans {w w' w'' : PodWorld ρ} {changes changes' : List (PodChange ρ)}
    (h : ForeignOnly injected w w' changes) (h' : ForeignOnly injected w' w'' changes') :
    ForeignOnly injected w w'' (changes ++ changes') where
  history := by rw [h'.history, h.history, List.append_assoc]
  linked := h.linked.append h'.linked
  notOwn := fun ch hch => (List.mem_append.mp hch).elim (h.notOwn ch) (h'.notOwn ch)
  version := by rw [h'.version, h.version, List.length_append, Nat.add_assoc]
  spared := fun t ht => (h'.spared t ht).trans (h.spared t ht)
  sparedAll := by
    intro ch hch t ht
    rcases List.mem_append.mp hch with hch | hch
    · exact h.sparedAll ch hch t ht
    · rw [← h.spared t ht]
      exact h'.sparedAll ch hch t ht

/-- The same version means that no one wrote. -/
theorem ForeignOnly.pod_eq {w w' : PodWorld ρ} {changes : List (PodChange ρ)}
    (h : ForeignOnly injected w w' changes)
    (hversion : w.pod.resourceVersion = w'.pod.resourceVersion) : w'.pod = w.pod := by
  have hnil : changes = [] := by
    apply List.eq_nil_of_length_eq_zero
    have := h.version
    omega
  subst hnil
  exact h.linked

/-- A request fails, or it reads the pod, or it replaces the conditions of the
version it was made from. -/
theorem PodWorld.serve_cases (w : PodWorld ρ) (q : PodRequest ρ) :
    (∃ err, w.serve q = (.error err, w.arrive))
      ∨ (q = .get ∧ w.serve q = (.ok w.arrive.pod, w.arrive))
      ∨ ∃ pod, q = .updateStatus pod ∧ pod.resourceVersion = w.arrive.pod.resourceVersion
        ∧ w.serve q = (.ok (w.arrive.write true { w.arrive.pod with conditions := pod.conditions }).pod,
            w.arrive.write true { w.arrive.pod with conditions := pod.conditions }) := by
  unfold PodWorld.serve
  rcases w.turn.failure with - | err
  · cases q with
    | get => exact .inr (.inl ⟨rfl, rfl⟩)
    | updateStatus pod =>
        by_cases hversion : pod.resourceVersion = w.arrive.pod.resourceVersion
        · exact .inr (.inr ⟨pod, rfl, hversion, by simp only [exec, if_pos hversion]⟩)
        · exact .inl ⟨_, by simp only [exec, if_neg hversion]; rfl⟩
  · exact .inl ⟨err, rfl⟩

/-! ### The cache and the pod -/

/-- Each entry of the cache agrees with the one condition of its type. -/
def CacheAgrees (ci : ConditionInjector) (pod : StatusPod ρ) : Prop :=
  ∀ t oldCond, ci.lastUpdate.lookup t = some oldCond →
    ∃ c, ofType t pod.conditions = [c] ∧ equalPodCondition c oldCond = true

/-- What holds between two calls of `Inject`. -/
structure Cached (injected : String → Prop) (ci : ConditionInjector) (pod : StatusPod ρ) : Prop where
  agrees : CacheAgrees ci pod
  unique : ∀ t, injected t → (ofType t pod.conditions).length ≤ 1
  keys : ∀ t ∈ ci.lastUpdate, injected t

theorem CacheAgrees.of_spared {ci : ConditionInjector} {pod pod' : StatusPod ρ} (h : CacheAgrees ci pod)
    (hkeys : ∀ t ∈ ci.lastUpdate, injected t)
    (hspared : ∀ t, injected t → ofType t pod'.conditions = ofType t pod.conditions) :
    CacheAgrees ci pod' := by
  intro t oldCond hlookup
  rw [hspared t (hkeys t (Finmap.mem_of_lookup_eq_some hlookup))]
  exact h t oldCond hlookup

theorem Cached.of_spared {ci : ConditionInjector} {pod pod' : StatusPod ρ} (h : Cached injected ci pod)
    (hspared : ∀ t, injected t → ofType t pod'.conditions = ofType t pod.conditions) :
    Cached injected ci pod' where
  agrees := h.agrees.of_spared h.keys hspared
  unique := fun t ht => by rw [hspared t ht]; exact h.unique t ht
  keys := h.keys

/-- After a successful write, with the cache that `Inject` leaves. -/
theorem Cached.put {ci : ConditionInjector} {pod pod' : StatusPod ρ} {cond : StatusCondition}
    (h : Cached injected ci pod) (hcond : injected cond.type)
    (hpod : pod'.conditions = putCondition pod.conditions cond) :
    Cached injected ⟨ci.lastUpdate.insert cond.type cond⟩ pod' where
  agrees := by
    intro t oldCond hlookup
    rw [GoMap.lookup_insert_eq] at hlookup
    rw [hpod]
    split at hlookup
    · next ht =>
        obtain rfl := Option.some.inj hlookup
        rw [ht]
        exact ⟨cond, ofType_putCondition _ _ (h.unique _ hcond), equalPodCondition_refl cond⟩
    · next ht =>
        rw [ofType_putCondition_of_ne _ (Ne.symm ht)]
        exact h.agrees t oldCond hlookup
  unique := by
    intro t ht
    rw [hpod]
    rcases eq_or_ne cond.type t with rfl | hne
    · rw [ofType_putCondition _ _ (h.unique _ ht)]
      exact le_rfl
    · rw [ofType_putCondition_of_ne _ hne]
      exact h.unique t ht
  keys := by
    intro t ht
    rcases Finmap.mem_insert.mp ht with rfl | ht
    · exact hcond
    · exact h.keys t ht

/-! ### One call of `Inject` -/

/-- A call of `Inject` and what happened during it. -/
abbrev InjectRound (ρ : Type) :=
  Round StatusCondition (PodRequest ρ) (Except String (StatusPod ρ)) (PodWorld ρ) ConditionInjector (Option String)

/-- The call started in `w`, and these are the writes to the pod during it. -/
structure InjectFacts (w : PodWorld ρ) (r : InjectRound ρ) (changes : List (PodChange ρ)) : Prop where
  history : r.final.history = w.history ++ changes
  linked : Linked w.pod changes r.final.pod
  /-- The cache agrees with the pod when the call starts, -/
  agreesBefore : CacheAgrees r.before w.pod
  /-- in each state the pod goes through, -/
  agreesDuring : ∀ ch ∈ changes, CacheAgrees r.before ch.before
    ∧ CacheAgrees (if ch.own then r.after else r.before) ch.after
  /-- and when it ends. -/
  agreesAfter : CacheAgrees r.after r.final.pod
  /-- Without an error the pod has the condition, and the others are as they were. -/
  success : r.result = none →
    (∃ c, ofType r.input.type r.final.pod.conditions = [c] ∧ equalPodCondition c r.input = true)
      ∧ ∀ ch ∈ changes, ch.own = true →
          otherTypes r.input.type ch.after.conditions = otherTypes r.input.type ch.before.conditions
  /-- With an error neither the cache nor the pod was changed by the call. -/
  failure : r.result ≠ none → r.after = r.before ∧ ∀ ch ∈ changes, ch.own = false

/-- A call that writes nothing. -/
theorem injectFacts_of_foreignOnly {w : PodWorld ρ} {r : InjectRound ρ} {changes : List (PodChange ρ)}
    (hcached : Cached injected r.before w.pod) (h : ForeignOnly injected w r.final changes)
    (hafter : r.after = r.before)
    (hsuccess : r.result = none → ∃ c, ofType r.input.type r.final.pod.conditions = [c]
      ∧ equalPodCondition c r.input = true) :
    InjectFacts w r changes where
  history := h.history
  linked := h.linked
  agreesBefore := hcached.agrees
  agreesDuring := by
    intro ch hch
    rw [hafter, ite_self]
    exact ⟨hcached.agrees.of_spared hcached.keys fun t ht => (h.sparedAll ch hch t ht).1,
      hcached.agrees.of_spared hcached.keys fun t ht => (h.sparedAll ch hch t ht).2⟩
  agreesAfter := by
    rw [hafter]
    exact hcached.agrees.of_spared hcached.keys h.spared
  success := fun hnone => ⟨hsuccess hnone, fun ch hch hown => by rw [h.notOwn ch hch] at hown; cases hown⟩
  failure := fun _ => ⟨hafter, h.notOwn⟩

/-- A call that writes: `w'` is the world when the update reaches the server, and
the pod is the one that was read. -/
theorem injectFacts_of_write {w w' : PodWorld ρ} {r : InjectRound ρ} {changes : List (PodChange ρ)}
    {pod : StatusPod ρ} (hcached : Cached injected r.before w.pod) (hcond : injected r.input.type)
    (h : ForeignOnly injected w w' changes)
    (hpod : pod.conditions = putCondition w'.pod.conditions r.input)
    (hafter : r.after = ⟨r.before.lastUpdate.insert r.input.type r.input⟩)
    (hfinal : r.final = w'.write true pod) (hresult : r.result = none) :
    InjectFacts w r (changes ++ [⟨true, w'.pod, (w'.write true pod).pod⟩]) := by
  have hw' : Cached injected r.before w'.pod := hcached.of_spared h.spared
  have hput : Cached injected r.after (w'.write true pod).pod := by
    rw [hafter]
    exact hw'.put hcond hpod
  constructor
  · rw [hfinal, ← List.append_assoc, ← h.history]
    rfl
  · rw [hfinal]
    exact h.linked.append ⟨rfl, rfl⟩
  · exact hcached.agrees
  · -- up to the write only others have changed the pod, and they spare the injected types
    intro ch hch
    rcases List.mem_append.mp hch with hch | hch
    · rw [h.notOwn ch hch]
      exact ⟨hcached.agrees.of_spared hcached.keys fun t ht => (h.sparedAll ch hch t ht).1,
        hcached.agrees.of_spared hcached.keys fun t ht => (h.sparedAll ch hch t ht).2⟩
    · obtain rfl := List.mem_singleton.mp hch
      exact ⟨hw'.agrees, hput.agrees⟩
  · rw [hfinal]
    exact hput.agrees
  · intro _
    constructor
    · rw [hfinal]
      refine ⟨r.input, ?_, equalPodCondition_refl _⟩
      show ofType r.input.type pod.conditions = [r.input]
      rw [hpod]
      exact ofType_putCondition _ _ (hw'.unique _ hcond)
    · intro ch hch hown
      rcases List.mem_append.mp hch with hch | hch
      · rw [h.notOwn ch hch] at hown
        cases hown
      · obtain rfl := List.mem_singleton.mp hch
        show otherTypes r.input.type pod.conditions = otherTypes r.input.type w'.pod.conditions
        rw [hpod]
        exact otherTypes_putCondition _ _
  · intro hne
    exact (hne hresult).elim

/-- The ways a call can end: nothing to do, an error of the first or of the second
request, or a write over the pod that was read. -/
theorem inject_cases (ci : ConditionInjector) (w : PodWorld ρ) (cond : StatusCondition) :
    ∃ after result calls final,
      roundOf ConditionInjector.inject PodWorld.serve ci w cond = ⟨cond, ci, after, result, calls, final⟩
      ∧ ((ci.unchanged cond = true ∧ after = ci ∧ result = none ∧ final = w)
        ∨ (after = ci ∧ result ≠ none ∧ (final = w.arrive ∨ final = w.arrive.arrive))
        ∨ after = ⟨ci.lastUpdate.insert cond.type cond⟩ ∧ result = none
          ∧ w.arrive.pod.resourceVersion = w.arrive.arrive.pod.resourceVersion
          ∧ final = w.arrive.arrive.write true
              { w.arrive.arrive.pod with conditions := putCondition w.arrive.pod.conditions cond }) := by
  refine ⟨_, _, _, _, rfl, ?_⟩
  simp only [ConditionInjector.inject]
  by_cases hunchanged : ci.unchanged cond = true
  · simp [hunchanged]
  · simp only [if_neg hunchanged, Prog.run_ask_bind]
    rcases w.serve_cases .get with ⟨err, hget⟩ | ⟨-, hget⟩ | ⟨pod, hq, -⟩
    · simp [hget, Run.cons]
    · simp only [hget, Prog.run_ask_bind]
      rcases w.arrive.serve_cases
          (.updateStatus { w.arrive.pod with conditions := putCondition w.arrive.pod.conditions cond })
        with ⟨err, hupdate⟩ | ⟨hq, -⟩ | ⟨pod, hq, hversion, hupdate⟩
      · simp [hupdate, Run.cons]
      · cases hq
      · obtain rfl := PodRequest.updateStatus.inj hq
        refine .inr (.inr ⟨?_, ?_, hversion, ?_⟩) <;> simp [hupdate, Run.cons]
    · cases hq

theorem inject_round {ci : ConditionInjector} {w : PodWorld ρ} {cond : StatusCondition}
    (hcached : Cached injected ci w.pod) (hscript : SparesScript injected w.script)
    (hcond : injected cond.type) :
    (∃ changes, InjectFacts w (roundOf ConditionInjector.inject PodWorld.serve ci w cond) changes)
      ∧ Cached injected (roundOf ConditionInjector.inject PodWorld.serve ci w cond).after
          (roundOf ConditionInjector.inject PodWorld.serve ci w cond).final.pod
      ∧ SparesScript injected (roundOf ConditionInjector.inject PodWorld.serve ci w cond).final.script := by
  obtain ⟨hscript₁, changes₁, hforeign₁⟩ := foreignOnly_arrive w hscript
  obtain ⟨hscript₂, changes₂, hforeign₂⟩ := foreignOnly_arrive w.arrive hscript₁
  obtain ⟨after, result, calls, final, hround, hcases⟩ := inject_cases ci w cond
  rw [hround]
  rcases hcases with ⟨hunchanged, rfl, rfl, rfl⟩ | ⟨rfl, herr, rfl | rfl⟩ | ⟨rfl, rfl, hversion, rfl⟩
  · -- the cache has the condition, so the pod has it
    refine ⟨⟨[], injectFacts_of_foreignOnly hcached (.refl _ _ rfl rfl) rfl fun _ => ?_⟩, hcached, hscript⟩
    obtain ⟨oldCond, hlookup, hequal⟩ := (Option.any_eq_true _ _).mp hunchanged
    obtain ⟨c, hc, hagrees⟩ := hcached.agrees cond.type oldCond hlookup
    exact ⟨c, hc, equalPodCondition_trans hagrees hequal⟩
  · exact ⟨⟨_, injectFacts_of_foreignOnly hcached hforeign₁ rfl fun hnone => (herr hnone).elim⟩,
      hcached.of_spared hforeign₁.spared, hscript₁⟩
  · exact ⟨⟨_, injectFacts_of_foreignOnly hcached (hforeign₁.trans hforeign₂) rfl
        fun hnone => (herr hnone).elim⟩,
      hcached.of_spared (hforeign₁.trans hforeign₂).spared, hscript₂⟩
  · have hpod := hforeign₂.pod_eq hversion
    refine ⟨⟨_, injectFacts_of_write hcached hcond (hforeign₁.trans hforeign₂) ?_ rfl rfl rfl⟩, ?_, hscript₂⟩
    · show putCondition w.arrive.pod.conditions cond = _
      rw [hpod]
    · exact (hcached.of_spared hforeign₁.spared).put hcond rfl

/-! ### Any number of calls -/

/-- The world in which the next call starts. -/
def worldAfter (w : PodWorld ρ) (done : List (InjectRound ρ)) : PodWorld ρ :=
  (done.getLast?.map Round.final).getD w

/-- **The condition cache never hides a needed write.**

For every pod with at most one condition of a type, every sequence of calls and
failures, and other clients that leave the conditions of the injected types
alone: the cache agrees with the pod in every state; after a call without an
error the pod has exactly the condition that was asked for, and the conditions
of the other types are untouched; a call with an error changes nothing. -/
theorem condition_cache_exact (w : PodWorld ρ) (conds : List StatusCondition)
    (injected : String → Prop) (hconds : ∀ cond ∈ conds, injected cond.type)
    (hunique : ∀ t, (ofType t w.pod.conditions).length ≤ 1) (hothers : SparesScript injected w.script)
    (done later : List (InjectRound ρ)) (r : InjectRound ρ)
    (hsession : session ConditionInjector.inject PodWorld.serve newConditionInjector w conds
      = done ++ r :: later) :
    ∃ changes, InjectFacts (worldAfter w done) r changes := by
  let I : List (InjectRound ρ) → ConditionInjector → PodWorld ρ → Prop := fun done ci w' =>
    w' = worldAfter w done ∧ Cached injected ci w'.pod ∧ SparesScript injected w'.script
  let P : List (InjectRound ρ) → InjectRound ρ → Prop := fun done r =>
    ∃ changes, InjectFacts (worldAfter w done) r changes
  have hstart : I [] newConditionInjector w := by
    refine ⟨rfl, ⟨?_, fun t _ => hunique t, ?_⟩, hothers⟩
    · intro t oldCond hlookup
      cases hlookup
    · intro t ht
      exact (Finmap.notMem_empty ht).elim
  refine session_rule (I := I) (P := P) ?_ hstart hconds hsession
  rintro done ci w' cond ⟨rfl, hcached, hscript⟩ hcond
  obtain ⟨hfacts, hcached', hscript'⟩ := inject_round hcached hscript hcond
  exact ⟨⟨by simp [worldAfter], hcached', hscript'⟩, hfacts⟩

/-- A pod with a condition of its own.  Another client adds one at the first
request, and the second request fails. -/
def flakyWorld : PodWorld Unit where
  pod := ⟨[⟨"Ready", "True", "", "", 0⟩], (), 1⟩
  script :=
    [⟨[fun pod => { pod with conditions := pod.conditions ++ [⟨"Initialized", "True", "", "", 1⟩] }], none⟩,
      ⟨[], some "timeout"⟩]
  history := []

/-- The same condition is injected again after a failed update. -/
theorem condition_cache_exact_failed_update :
    ∃ done r changes,
      session ConditionInjector.inject PodWorld.serve newConditionInjector flakyWorld
          [⟨"PodresourcesFetched", "True", "", "", 2⟩, ⟨"PodresourcesFetched", "True", "", "", 3⟩]
        = done ++ r :: []
      ∧ done.map Round.result = [some "timeout"] ∧ r.result = none
      ∧ InjectFacts (worldAfter flakyWorld done) r changes := by
  have hsession : session ConditionInjector.inject PodWorld.serve newConditionInjector flakyWorld
      [⟨"PodresourcesFetched", "True", "", "", 2⟩, ⟨"PodresourcesFetched", "True", "", "", 3⟩]
        = [_] ++ _ :: [] := rfl
  obtain ⟨changes, hfacts⟩ := condition_cache_exact flakyWorld _ (fun t => t = "PodresourcesFetched")
    (by simp) (fun t => (List.length_filter_le _ _).trans (by decide))
    (by simp [SparesScript, flakyWorld, SparesInjected, ofType]) _ _ _ hsession
  exact ⟨_, _, changes, hsession, rfl, rfl, hfacts⟩

end TopologyExporter
