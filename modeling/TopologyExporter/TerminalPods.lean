/-
TopologyExporter/TerminalPods.lean

The client of `terminalpods.go`, which drops the pods in a terminal phase from
the kubelet's answer.  It takes them from an informer's lister.

Of client-go, the model has what the client depends on.  An informer exists
once it has been requested from its factory; `Start` starts the informers
requested so far; the lister of a started informer holds the pods that its
field selector matches, and any other lister holds nothing.  The terms of a
field selector are a conjunction.

The client requests its informer on the first `List`, after `Start`, so its
lister stays empty (`Serving.not_started`), and `list_drops_terminal_iff` is
what is left of the filter.  Starting the informer would not help: no pod
matches both terms of the selector (`terminalFieldSelector_selects_nothing`).
-/
import TopologyExporter.PodResources

namespace TopologyExporter

/-! ### Pods and field selectors -/

/-- `v1.PodPhase`. -/
inductive PodPhase
  | pending
  | running
  | succeeded
  | failed
  | unknown
  deriving DecidableEq, Repr

def PodPhase.text : PodPhase → String
  | .pending => "Pending"
  | .running => "Running"
  | .succeeded => "Succeeded"
  | .failed => "Failed"
  | .unknown => "Unknown"

/-- `v1.Pod`. -/
structure Pod where
  «namespace» : String
  name : String
  phase : PodPhase
  deriving DecidableEq, Repr

/-- A term `field==value` of a field selector. -/
structure SelectorTerm where
  field : String
  value : String
  deriving DecidableEq, Repr

def parseTerm (term : List Char) : SelectorTerm where
  field := String.ofList (term.takeWhile fun c => c ≠ '=')
  value := String.ofList ((term.dropWhile fun c => c ≠ '=').dropWhile fun c => c = '=')

/-- The terms of a field selector, separated by commas. -/
def parseSelector (selector : String) : List SelectorTerm :=
  (selector.toList.splitOn ',').map parseTerm

/-- The value of a pod's field, for the fields that pods can be selected by. -/
def Pod.field (pod : Pod) (field : String) : String :=
  if field = "status.phase" then pod.phase.text
  else if field = "metadata.name" then pod.name
  else if field = "metadata.namespace" then pod.namespace
  else ""

/-- A field selector matches a pod if all its terms do. -/
def selects (selector : String) (pod : Pod) : Bool :=
  (parseSelector selector).all fun term => pod.field term.field = term.value

/-! ### Informers -/

/-- A shared informer factory, as far as its pod informer goes. -/
structure InformerFactory where
  selector : String
  requested : Bool
  started : Bool
  deriving DecidableEq, Repr

/-- `NewSharedInformerFactoryWithOptions`. -/
def InformerFactory.new (selector : String) : InformerFactory :=
  { selector := selector, requested := false, started := false }

/-- Asking for the informer or its lister requests it. -/
def InformerFactory.informerFor (factory : InformerFactory) : InformerFactory :=
  { factory with requested := true }

/-- `Start`. -/
def InformerFactory.start (factory : InformerFactory) : InformerFactory :=
  { factory with started := factory.started || factory.requested }

/-- `WaitForCacheSync`, over the started informers. -/
def InformerFactory.waitForCacheSync (factory : InformerFactory) (synced : Bool) : Bool :=
  !factory.started || synced

/-- What the lister holds. -/
def InformerFactory.lister (factory : InformerFactory) (cluster : List Pod) : List Pod :=
  if factory.started then cluster.filter (selects factory.selector) else []

/-! ### The client -/

/-- `terminalFieldSelector`. -/
def terminalFieldSelector : String := "status.phase==Failed,status.phase==Succeeded"

/-- `FilterFrom`. -/
def filterFrom (resp : List PodResources) (pods : List Pod) : List PodResources :=
  resp.filter fun pr =>
    !pods.any fun pod => pod.namespace == pr.namespace && pod.name == pr.name

/-- `terminalpods.filteringClient`. -/
structure TerminalPodsClient where
  factory : InformerFactory
  deriving DecidableEq, Repr

/-- `terminalpods.NewFromLister`; `synced` says whether started caches sync. -/
def TerminalPodsClient.newFromLister (synced : Bool) : Except String TerminalPodsClient :=
  -- `factory.Core().V1().Pods()` only names the informer
  let factory := (InformerFactory.new terminalFieldSelector).start
  if factory.waitForCacheSync synced then .ok { factory := factory }
  else .error "caches failed to sync: *v1.Pod"

/-- `List`, given the pods of the cluster and the answer of the inner client. -/
def TerminalPodsClient.list (fc : TerminalPodsClient) (cluster : List Pod)
    (inner : Except String (List PodResources)) :
    TerminalPodsClient × Except String (List PodResources) :=
  match inner with
  | .error err => (fc, .error err)
  | .ok resp =>
      let factory := fc.factory.informerFor
      ({ factory := factory }, .ok (filterFrom resp (factory.lister cluster)))

/-- The clients in use: started successfully, then any number of calls. -/
inductive Serving : TerminalPodsClient → Prop
  | started {synced : Bool} {fc : TerminalPodsClient}
      (h : TerminalPodsClient.newFromLister synced = .ok fc) : Serving fc
  | listed {fc : TerminalPodsClient} (cluster : List Pod)
      (inner : Except String (List PodResources)) (h : Serving fc) :
      Serving (fc.list cluster inner).1

/-! ### What the lister holds -/

/-- The informer of a client in use never runs. -/
theorem Serving.not_started {fc : TerminalPodsClient} (h : Serving fc) :
    fc.factory.started = false := by
  induction h with
  | started h =>
      obtain rfl := Except.ok.inj h
      rfl
  | listed cluster inner _ ih =>
      rcases inner with err | resp
      · exact ih
      · exact ih

/-- No pod is in two phases. -/
theorem terminalFieldSelector_selects_nothing (pod : Pod) :
    selects terminalFieldSelector pod = false := by
  have hterms : parseSelector terminalFieldSelector
      = [⟨"status.phase", "Failed"⟩, ⟨"status.phase", "Succeeded"⟩] := by decide
  rcases pod with ⟨ns, name, phase⟩
  rw [selects, hterms]
  cases phase with
  | pending => rfl
  | running => rfl
  | succeeded => rfl
  | failed => rfl
  | unknown => rfl

/-! ### Terminal pods -/

/-- A pod has the name and namespace of an entry, and is in a terminal phase. -/
def isTerminal (cluster : List Pod) (pr : PodResources) : Bool :=
  cluster.any fun pod => (pod.phase == .failed || pod.phase == .succeeded)
    && pod.namespace == pr.namespace && pod.name == pr.name

/-- **The client drops exactly the terminal pods iff there is none to drop.** -/
theorem list_drops_terminal_iff {fc : TerminalPodsClient} (h : Serving fc) (cluster : List Pod)
    (resp : List PodResources) :
    (fc.list cluster (.ok resp)).2 = .ok (resp.filter fun pr => !isTerminal cluster pr)
      ↔ ∀ pr ∈ resp, isTerminal cluster pr = false := by
  have hempty : fc.factory.informerFor.lister cluster = [] := if_neg (by
    rw [InformerFactory.informerFor, h.not_started]
    simp)
  have hall : (fc.list cluster (.ok resp)).2 = .ok resp := by
    show Except.ok (filterFrom resp (fc.factory.informerFor.lister cluster)) = _
    rw [hempty]
    exact congrArg Except.ok (List.filter_true resp)
  rw [hall, Except.ok.injEq, eq_comm, List.filter_eq_self]
  simp only [Bool.not_eq_true']

/-- A cluster whose only pod is running: nothing to drop, nothing dropped. -/
theorem list_drops_terminal_running_pod :
    ((⟨(InformerFactory.new terminalFieldSelector).start⟩ : TerminalPodsClient).list
        [⟨"default", "web", .running⟩] (.ok [⟨"web", "default", []⟩])).2
      = .ok [⟨"web", "default", []⟩] :=
  (list_drops_terminal_iff
    (.started (show TerminalPodsClient.newFromLister true = .ok _ from rfl))
    [⟨"default", "web", .running⟩] [⟨"web", "default", []⟩]).mpr (by decide)

/-- A failed pod is still in the kubelet's answer, and stays in it. -/
theorem list_keeps_failed_pod :
    TerminalPodsClient.newFromLister true = .ok ⟨(InformerFactory.new terminalFieldSelector).start⟩
      ∧ ((⟨(InformerFactory.new terminalFieldSelector).start⟩ : TerminalPodsClient).list
          [⟨"default", "job", .failed⟩] (.ok [⟨"job", "default", []⟩])).2
        = .ok [⟨"job", "default", []⟩]
      ∧ isTerminal [⟨"default", "job", .failed⟩] ⟨"job", "default", []⟩ = true :=
  ⟨rfl, rfl, by decide⟩

end TopologyExporter
