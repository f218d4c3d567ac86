/-
TopologyExporter/Shutdown.lean

Stopping the rate-limited source.

The network is the source's loop, the receiver, the sender and one caller of
`Stop` and then `Wait`; the ticker, the watcher and the consumer are outside.
`Stop` asks the source, waits for it, then asks the receiver and the sender.
For each of the three there are three stages: not asked yet, asked, waited for
(`Told`).  `Phase` is all that a step does to the stages, and `Orderly`, which
says that everyone is where the caller's progress allows, is kept by it.

Freedom from deadlock is then read off: in each stage the party that the caller
waits for can move, or someone whom it waits for can.
-/
import TopologyExporter.EventSource

namespace TopologyExporter

open Goroutines

inductive StopParty
  | source
  | receiver
  | sender
  | caller
  deriving DecidableEq, Repr

/-- The source, the limiter and the caller of `Stop` and `Wait`. -/
def stoppable (es : UnlimitedEventSource) : Net StopParty EventChan.Val where
  Loc
    | .source => SourceLoc
    | .receiver => ReceiverLoc
    | .sender => SenderLoc
    | .caller => CallerLoc
  code
    | .source => es.run
    | .receiver => receiver
    | .sender => sender
    | .caller => caller
  start
    | .source => .stamping
    | .receiver => .select
    | .sender => .select
    | .caller => .stopSource
  cap := EventChan.cap

variable {es : UnlimitedEventSource}

abbrev StopState (es : UnlimitedEventSource) := State (stoppable es)

abbrev StopAct := Act StopParty EventChan.Val

/-! ### Stages -/

/-- How far a goroutine is with stopping. -/
inductive Status
  | running
  | stopping
  | returned
  deriving DecidableEq, Repr

def SourceLoc.status : SourceLoc → Status
  | .finishing => .stopping
  | .returned => .returned
  | _ => .running

def ReceiverLoc.status : ReceiverLoc → Status
  | .stopping => .stopping
  | .returned => .returned
  | _ => .running

def SenderLoc.status : SenderLoc → Status
  | .stopping => .stopping
  | .returned => .returned
  | _ => .running

theorem SourceLoc.eq_of_stopping {l : SourceLoc} (h : l.status = .stopping) : l = .finishing := by
  cases l <;> cases h
  rfl

theorem SourceLoc.eq_of_returned {l : SourceLoc} (h : l.status = .returned) : l = .returned := by
  cases l <;> cases h
  rfl

theorem ReceiverLoc.eq_of_stopping {l : ReceiverLoc} (h : l.status = .stopping) : l = .stopping := by
  cases l <;> cases h
  rfl

theorem ReceiverLoc.eq_of_returned {l : ReceiverLoc} (h : l.status = .returned) : l = .returned := by
  cases l <;> cases h
  rfl

theorem SenderLoc.eq_of_stopping {l : SenderLoc} (h : l.status = .stopping) : l = .stopping := by
  cases l <;> cases h
  rfl

theorem SenderLoc.eq_of_returned {l : SenderLoc} (h : l.status = .returned) : l = .returned := by
  cases l <;> cases h
  rfl

/-- What matters for stopping. -/
structure StopView where
  caller : CallerLoc
  source : Status
  receiver : Status
  doneReceiver : List Unit
  sender : Status
  doneSender : List Unit

def stopView (s : StopState es) : StopView where
  caller := s.loc .caller
  source := SourceLoc.status (s.loc .source)
  receiver := ReceiverLoc.status (s.loc .receiver)
  doneReceiver := s.buf .doneReceiverCh
  sender := SenderLoc.status (s.loc .sender)
  doneSender := s.buf .doneSenderCh

/-- What a step does to the stages. -/
inductive Phase (x : StopView) : StopView → Prop
  | quiet : Phase x x
  | stopSource (hcaller : x.caller = .stopSource) :
      Phase x { x with caller := .waitSource, source := .stopping }
  | sourceDone (hcaller : x.caller = .waitSource) :
      Phase x { x with caller := .stopReceiver, source := .returned }
  | stopReceiver (hcaller : x.caller = .stopReceiver) :
      Phase x { x with caller := .stopSender, receiver := .stopping }
  | receiverDone (hreceiver : x.receiver = .stopping) :
      Phase x { x with receiver := .returned, doneReceiver := x.doneReceiver ++ [()] }
  | stopSender (hcaller : x.caller = .stopSender) :
      Phase x { x with caller := .waitReceiver, sender := .stopping }
  | senderDone (hsender : x.sender = .stopping) :
      Phase x { x with sender := .returned, doneSender := x.doneSender ++ [()] }
  | waitReceiver (rest : List Unit) (hcaller : x.caller = .waitReceiver)
      (hdone : x.doneReceiver = () :: rest) :
      Phase x { x with caller := .waitSender, doneReceiver := rest }
  | waitSender (rest : List Unit) (hcaller : x.caller = .waitSender)
      (hdone : x.doneSender = () :: rest) :
      Phase x { x with caller := .returned, doneSender := rest }

theorem stopView_move_source (s : StopState es) (l : SourceLoc) :
    stopView (s.move .source l) = { stopView s with source := l.status } := rfl

theorem stopView_move_receiver (s : StopState es) (l : ReceiverLoc) :
    stopView (s.move .receiver l) = { stopView s with receiver := l.status } := rfl

theorem stopView_move_sender (s : StopState es) (l : SenderLoc) :
    stopView (s.move .sender l) = { stopView s with sender := l.status } := rfl

/-- A step inside the source's loop. -/
theorem Phase.source_runs {s : StopState es} {l l' : SourceLoc} (hl : s.loc .source = l)
    (hstatus : l.status = l'.status) : Phase (stopView s) (stopView (s.move .source l')) := by
  have hsource : (stopView s).source = l'.status := by rw [← hstatus, ← hl]; rfl
  rw [stopView_move_source, ← hsource]
  exact .quiet

theorem Phase.receiver_runs {s : StopState es} {l l' : ReceiverLoc} (hl : s.loc .receiver = l)
    (hstatus : l.status = l'.status) : Phase (stopView s) (stopView (s.move .receiver l')) := by
  have hreceiver : (stopView s).receiver = l'.status := by rw [← hstatus, ← hl]; rfl
  rw [stopView_move_receiver, ← hreceiver]
  exact .quiet

theorem Phase.sender_runs {s : StopState es} {l l' : SenderLoc} (hl : s.loc .sender = l)
    (hstatus : l.status = l'.status) : Phase (stopView s) (stopView (s.move .sender l')) := by
  have hsender : (stopView s).sender = l'.status := by rw [← hstatus, ← hl]; rfl
  rw [stopView_move_sender, ← hsender]
  exact .quiet

theorem phase_of_push {s : StopState es} {p : StopParty} {c : EventChan} {v : c.Val}
    {l : (stoppable es).Loc p} {n : Nat} (hsend : s.Offers p (.send c v l)) (hcap : c.cap = some n)
    (room : (s.buf c).length < n) :
    Phase (stopView s) (stopView ((s.move p l).store c (s.buf c ++ [v]))) := by
  cases p with
  | source =>
      cases source_sends hsend <;> cases hcap <;> cases room
  | receiver =>
      cases receiver_sends hsend with
      | keep ev hl => exact Phase.receiver_runs hl rfl
      | done hl => exact .receiverDone (congrArg ReceiverLoc.status hl)
  | sender =>
      cases sender_sends hsend with
      | hand ev hl => cases hcap
      | done hl => exact .senderDone (congrArg SenderLoc.status hl)
  | caller =>
      cases caller_sends hsend <;> cases hcap <;> cases room

theorem phase_of_pull {s : StopState es} {p : StopParty} {c : EventChan} {v : c.Val}
    {rest : List c.Val} {k : c.Val → (stoppable es).Loc p} {n : Nat}
    (hrecv : s.Offers p (.recv c k)) (hcap : c.cap = some (n + 1)) (hbuf : s.buf c = v :: rest) :
    Phase (stopView s) (stopView ((s.move p (k v)).store c rest)) := by
  cases p with
  | source =>
      cases source_takes hrecv <;> cases hcap
  | receiver =>
      cases receiver_takes hrecv <;> cases hcap
  | sender =>
      cases sender_takes hrecv with
      | event hl => exact Phase.sender_runs hl rfl
      | stop hl => cases hcap
      | token ev hl => cases hcap
  | caller =>
      cases caller_takes hrecv with
      | source hl => cases hcap
      | receiver hl => exact .waitReceiver rest hl hbuf
      | sender hl => exact .waitSender rest hl hbuf

/-- What the taker of an unbuffered channel does to the stages. -/
def takerPhase : EventChan → StopView → StopView
  | .inCh, x => { x with receiver := .running }
  | .doneChan, x => { x with caller := .stopReceiver }
  | .stopChan, x => { x with source := .stopping }
  | .stopReceiverCh, x => { x with receiver := .stopping }
  | .stopSenderCh, x => { x with sender := .stopping }
  | _, x => x

/-- Where the taker was. -/
def TakerWas : EventChan → StopView → Prop
  | .inCh, x => x.receiver = .running
  | .doneChan, x => x.caller = .waitSource
  | _, _ => True

/-- An unbuffered channel has one taker. -/
theorem stopView_taker {s : StopState es} {q : StopParty} {c : EventChan}
    {k : c.Val → (stoppable es).Loc q} (hcap : c.cap = some 0) (hrecv : s.Offers q (.recv c k))
    (t : StopState es) (v : c.Val) :
    stopView (t.move q (k v)) = takerPhase c (stopView t) ∧ TakerWas c (stopView s) := by
  cases q with
  | source =>
      cases source_takes hrecv with
      | stop hl => exact ⟨rfl, trivial⟩
      | now hl => cases hcap
      | tick hl => cases hcap
      | file hl => cases hcap
      | watchError hl => cases hcap
  | receiver =>
      cases receiver_takes hrecv with
      | event hl => exact ⟨rfl, congrArg ReceiverLoc.status hl⟩
      | stop hl => exact ⟨rfl, trivial⟩
  | sender =>
      cases sender_takes hrecv with
      | stop hl => exact ⟨rfl, trivial⟩
      | event hl => cases hcap
      | token ev hl => cases hcap
  | caller =>
      cases caller_takes hrecv with
      | source hl => exact ⟨rfl, hl⟩
      | receiver hl => cases hcap
      | sender hl => cases hcap

theorem phase_of_meet {s : StopState es} {p q : StopParty} {c : EventChan} {v : c.Val}
    {l : (stoppable es).Loc p} {k : c.Val → (stoppable es).Loc q} (hcap : c.cap = some 0)
    (hsend : s.Offers p (.send c v l)) (hrecv : s.Offers q (.recv c k)) :
    Phase (stopView s) (stopView ((s.move p l).move q (k v))) := by
  obtain ⟨htaker, hwas⟩ := stopView_taker hcap hrecv (s.move p l) v
  rw [htaker]
  cases p with
  | source =>
      cases source_sends hsend with
      | hand ev hl =>
          -- an event goes from the source to the receiver, and both keep running
          have hmoved : takerPhase .inCh (stopView (s.move .source .select))
              = stopView (s.move .source .select) := by
            show ({ stopView (s.move .source .select) with receiver := .running } : StopView) = _
            rw [← hwas]
            rfl
          rw [hmoved]
          exact Phase.source_runs hl rfl
      | done hl => exact .sourceDone hwas
  | receiver =>
      cases receiver_sends hsend <;> cases hcap
  | sender =>
      cases sender_sends hsend <;> cases hcap
  | caller =>
      cases caller_sends hsend with
      | stopSource hl => exact .stopSource hl
      | stopReceiver hl => exact .stopReceiver hl
      | stopSender hl => exact .stopSender hl

theorem phase_of_input {s : StopState es} {p : StopParty} {c : EventChan} {v : c.Val}
    {k : c.Val → (stoppable es).Loc p} (hcap : c.cap = none) (hrecv : s.Offers p (.recv c k)) :
    Phase (stopView s) (stopView (s.move p (k v))) := by
  cases p with
  | source =>
      cases source_takes hrecv with
      | now hl => exact Phase.source_runs hl rfl
      | tick hl => exact Phase.source_runs hl rfl
      | file hl =>
          -- whether the filters let the event through or not, the loop goes on
          refine Phase.source_runs hl ?_
          show Status.running = SourceLoc.status (if anyFilter es.filters v then .stamping else .select)
          split <;> rfl
      | watchError hl => exact Phase.source_runs hl rfl
      | stop hl => cases hcap
  | receiver =>
      cases receiver_takes hrecv <;> cases hcap
  | sender =>
      cases sender_takes hrecv with
      | event hl => cases hcap
      | stop hl => cases hcap
      | token ev hl => exact Phase.sender_runs hl rfl
  | caller =>
      cases caller_takes hrecv <;> cases hcap

theorem phase_of_output {s : StopState es} {p : StopParty} {c : EventChan} {v : c.Val}
    {l : (stoppable es).Loc p} (hcap : c.cap = none) (hsend : s.Offers p (.send c v l)) :
    Phase (stopView s) (stopView (s.move p l)) := by
  cases p with
  | source =>
      cases source_sends hsend <;> cases hcap
  | receiver =>
      cases receiver_sends hsend <;> cases hcap
  | sender =>
      cases sender_sends hsend with
      | hand ev hl => exact Phase.sender_runs hl rfl
      | done hl => cases hcap
  | caller =>
      cases caller_sends hsend <;> cases hcap

theorem phase_of_step {s t : StopState es} {a : StopAct} (step : Step (stoppable es) s a t) :
    Phase (stopView s) (stopView t) := by
  cases step with
  | push hsend hcap room => exact phase_of_push hsend hcap room
  | pull hrecv hcap hbuf => exact phase_of_pull hrecv hcap hbuf
  | meet _ hcap hsend hrecv => exact phase_of_meet hcap hsend hrecv
  | input hrecv hcap => exact phase_of_input hcap hrecv
  | output hsend hcap => exact phase_of_output hcap hsend
  | @default p _ _ hcode hdefault _ =>
      cases p with
      | source => cases (source_default hcode).symm.trans hdefault
      | receiver =>
          obtain ⟨ev, hl, -, rfl⟩ := receiver_default hcode hdefault
          exact Phase.receiver_runs hl rfl
      | sender => cases (sender_default hcode).symm.trans hdefault
      | caller => cases (caller_default hcode).symm.trans hdefault

/-! ### Everyone is where the caller's progress allows -/

/-- The stages of a goroutine as the caller sees it. -/
inductive Stage
  | before
  | asked
  | waited

/-- Where a goroutine may be, and what its done channel holds. -/
def Told : Stage → Status → List Unit → Prop
  | .before, st, done => st = .running ∧ done = []
  | .asked, st, done => st = .stopping ∧ done = [] ∨ st = .returned ∧ done = [()]
  | .waited, st, done => st = .returned ∧ done = []

/-- The source's done channel has no buffer. -/
def CallerLoc.source : CallerLoc → Status
  | .stopSource => .running
  | .waitSource => .stopping
  | _ => .returned

def CallerLoc.receiver : CallerLoc → Stage
  | .stopSource | .waitSource | .stopReceiver => .before
  | .stopSender | .waitReceiver => .asked
  | .waitSender | .returned => .waited

def CallerLoc.sender : CallerLoc → Stage
  | .stopSource | .waitSource | .stopReceiver | .stopSender => .before
  | .waitReceiver | .waitSender => .asked
  | .returned => .waited

structure Orderly (x : StopView) : Prop where
  source : x.source = x.caller.source
  receiver : Told x.caller.receiver x.receiver x.doneReceiver
  sender : Told x.caller.sender x.sender x.doneSender

/-- A goroutine that was asked reports once. -/
theorem Told.report {stage : Stage} {done : List Unit} (h : Told stage .stopping done) :
    Told stage .returned (done ++ [()]) := by
  cases stage with
  | before => cases h.1
  | asked =>
      rcases h with ⟨-, rfl⟩ | ⟨hst, -⟩
      · exact .inr ⟨rfl, rfl⟩
      · cases hst
  | waited => cases h.1

theorem Phase.orderly {x y : StopView} (phase : Phase x y) (h : Orderly x) : Orderly y := by
  obtain ⟨hsource, hreceiver, hsender⟩ := h
  cases phase with
  | quiet => exact ⟨hsource, hreceiver, hsender⟩
  | stopSource hcaller =>
      rw [hcaller] at hreceiver hsender
      exact ⟨rfl, hreceiver, hsender⟩
  | sourceDone hcaller =>
      rw [hcaller] at hreceiver hsender
      exact ⟨rfl, hreceiver, hsender⟩
  | stopReceiver hcaller =>
      rw [hcaller] at hsource hreceiver hsender
      exact ⟨hsource, .inl ⟨rfl, hreceiver.2⟩, hsender⟩
  | receiverDone hstopping =>
      rw [hstopping] at hreceiver
      exact ⟨hsource, hreceiver.report, hsender⟩
  | stopSender hcaller =>
      rw [hcaller] at hsource hreceiver hsender
      exact ⟨hsource, hreceiver, .inl ⟨rfl, hsender.2⟩⟩
  | senderDone hstopping =>
      rw [hstopping] at hsender
      exact ⟨hsource, hreceiver, hsender.report⟩
  | waitReceiver rest hcaller hdone =>
      rw [hcaller] at hsource hreceiver hsender
      rw [hdone] at hreceiver
      -- a full done channel is left by a goroutine that has returned
      rcases hreceiver with ⟨-, h⟩ | ⟨hst, h⟩
      · cases h
      · cases h
        exact ⟨hsource, ⟨hst, rfl⟩, hsender⟩
  | waitSender rest hcaller hdone =>
      rw [hcaller] at hsource hreceiver hsender
      rw [hdone] at hsender
      rcases hsender with ⟨-, h⟩ | ⟨hst, h⟩
      · cases h
      · cases h
        exact ⟨hsource, hreceiver, ⟨hst, rfl⟩⟩

theorem orderly_run {tr : List StopAct} {s : StopState es}
    (run : Run (stoppable es) (.initial (stoppable es)) tr s) : Orderly (stopView s) := by
  refine run.rule (I := fun _ s => Orderly (stopView s)) ?_ ?_
  · exact ⟨rfl, ⟨rfl, rfl⟩, ⟨rfl, rfl⟩⟩
  · intro tr t a u h step
    exact (phase_of_step step).orderly h

/-! ### The moves, from where the parties are -/

section Moves

variable {s : StopState es} {ev : Event} {rest : List Unit}

theorem step_stamp (ts : Int) (hs : s.loc .source = .stamping) :
    Step (stoppable es) s (.input .source .now ts) (s.move .source (.handing ⟨ts, 0⟩)) := by
  have hrecv : s.Offers .source (.recv .now fun ts => .handing ⟨ts, 0⟩) :=
    offered_source.mpr (.inl ⟨hs, rfl⟩)
  exact .input hrecv rfl

theorem step_hand (hs : s.loc .source = .handing ev) (hr : s.loc .receiver = .select) :
    Step (stoppable es) s (.meet .source .receiver .inCh ev)
      ((s.move .source .select).move .receiver (.incoming ev)) :=
  .meet (by decide) rfl (offered_source.mpr (.inr (.inl ⟨ev, hs, rfl⟩)))
    (offered_receiver.mpr (.inl ⟨hr, .inl rfl⟩))

theorem step_keep (hr : s.loc .receiver = .incoming ev) (room : (s.buf .bufferCh).length < bufferSize) :
    Step (stoppable es) s (.push .receiver .bufferCh ev)
      ((s.move .receiver .select).store .bufferCh (s.buf .bufferCh ++ [ev])) :=
  .push (offered_receiver.mpr (.inr (.inl ⟨ev, hr, rfl⟩))) rfl room

theorem step_giveUp (hr : s.loc .receiver = .incoming ev) (full : bufferSize ≤ (s.buf .bufferCh).length) :
    Step (stoppable es) s (.default .receiver) (s.move .receiver .select) := by
  have hcode : receiver (s.loc .receiver) = some ⟨[.send .bufferCh ev .select], some .select⟩ := by
    rw [hr]
    rfl
  refine .default hcode rfl ?_
  intro case hcase
  obtain rfl := List.mem_singleton.mp hcase
  intro hready
  exact Nat.not_lt_of_le full ((State.ready_send rfl).mp hready)

theorem step_take (ts : Int) (hs : s.loc .sender = .taking ev) :
    Step (stoppable es) s (.input .sender .take ts) (s.move .sender (.handing ev)) := by
  have hrecv : s.Offers .sender (.recv .take fun _ => .handing ev) :=
    offered_sender.mpr (.inr (.inl ⟨ev, hs, rfl⟩))
  exact .input hrecv rfl

theorem step_deliver (hs : s.loc .sender = .handing ev) :
    Step (stoppable es) s (.output .sender .outCh ev) (s.move .sender .select) :=
  .output (offered_sender.mpr (.inr (.inr (.inl ⟨ev, hs, rfl⟩)))) rfl

theorem step_stopSource (hc : s.loc .caller = .stopSource) (hs : s.loc .source = .select) :
    Step (stoppable es) s (.meet .caller .source .stopChan ())
      ((s.move .caller .waitSource).move .source .finishing) := by
  have hsend : s.Offers .caller (.send .stopChan () .waitSource) := offered_caller.mpr (.inl ⟨hc, rfl⟩)
  have hrecv : s.Offers .source (.recv .stopChan fun _ => .finishing) :=
    offered_source.mpr (.inr (.inr (.inl ⟨hs, .inr (.inr (.inr rfl))⟩)))
  exact .meet (by decide) rfl hsend hrecv

theorem step_sourceDone (hc : s.loc .caller = .waitSource) (hs : s.loc .source = .finishing) :
    Step (stoppable es) s (.meet .source .caller .doneChan ())
      ((s.move .source .returned).move .caller .stopReceiver) := by
  have hsend : s.Offers .source (.send .doneChan () .returned) :=
    offered_source.mpr (.inr (.inr (.inr ⟨hs, rfl⟩)))
  have hrecv : s.Offers .caller (.recv .doneChan fun _ => .stopReceiver) :=
    offered_caller.mpr (.inr (.inl ⟨hc, rfl⟩))
  exact .meet (by decide) rfl hsend hrecv

theorem step_stopReceiver (hc : s.loc .caller = .stopReceiver) (hr : s.loc .receiver = .select) :
    Step (stoppable es) s (.meet .caller .receiver .stopReceiverCh ())
      ((s.move .caller .stopSender).move .receiver .stopping) := by
  have hsend : s.Offers .caller (.send .stopReceiverCh () .stopSender) :=
    offered_caller.mpr (.inr (.inr (.inl ⟨hc, rfl⟩)))
  have hrecv : s.Offers .receiver (.recv .stopReceiverCh fun _ => .stopping) :=
    offered_receiver.mpr (.inl ⟨hr, .inr rfl⟩)
  exact .meet (by decide) rfl hsend hrecv

theorem step_stopSender (hc : s.loc .caller = .stopSender) (hs : s.loc .sender = .select) :
    Step (stoppable es) s (.meet .caller .sender .stopSenderCh ())
      ((s.move .caller .waitReceiver).move .sender .stopping) := by
  have hsend : s.Offers .caller (.send .stopSenderCh () .waitReceiver) :=
    offered_caller.mpr (.inr (.inr (.inr (.inl ⟨hc, rfl⟩))))
  have hrecv : s.Offers .sender (.recv .stopSenderCh fun _ => .stopping) :=
    offered_sender.mpr (.inl ⟨hs, .inr rfl⟩)
  exact .meet (by decide) rfl hsend hrecv

theorem step_receiverDone (hr : s.loc .receiver = .stopping) (hdone : s.buf .doneReceiverCh = []) :
    Step (stoppable es) s (.push .receiver .doneReceiverCh ())
      ((s.move .receiver .returned).store .doneReceiverCh (s.buf .doneReceiverCh ++ [()])) :=
  .push (offered_receiver.mpr (.inr (.inr ⟨hr, rfl⟩))) rfl (by simp [hdone])

theorem step_senderDone (hs : s.loc .sender = .stopping) (hdone : s.buf .doneSenderCh = []) :
    Step (stoppable es) s (.push .sender .doneSenderCh ())
      ((s.move .sender .returned).store .doneSenderCh (s.buf .doneSenderCh ++ [()])) :=
  .push (offered_sender.mpr (.inr (.inr (.inr ⟨hs, rfl⟩)))) rfl (by simp [hdone])

theorem step_waitReceiver (hc : s.loc .caller = .waitReceiver) (hdone : s.buf .doneReceiverCh = () :: rest) :
    Step (stoppable es) s (.pull .caller .doneReceiverCh ())
      ((s.move .caller .waitSender).store .doneReceiverCh rest) := by
  have hrecv : s.Offers .caller (.recv .doneReceiverCh fun _ => .waitSender) :=
    offered_caller.mpr (.inr (.inr (.inr (.inr (.inl ⟨hc, rfl⟩)))))
  exact .pull hrecv rfl hdone

theorem step_waitSender (hc : s.loc .caller = .waitSender) (hdone : s.buf .doneSenderCh = () :: rest) :
    Step (stoppable es) s (.pull .caller .doneSenderCh ())
      ((s.move .caller .returned).store .doneSenderCh rest) := by
  have hrecv : s.Offers .caller (.recv .doneSenderCh fun _ => .returned) :=
    offered_caller.mpr (.inr (.inr (.inr (.inr (.inr ⟨hc, rfl⟩)))))
  exact .pull hrecv rfl hdone

end Moves

/-! ### Someone can always move -/

/-- The action waits for the ticker or the file watcher, which may stay silent. -/
def FromWorld : StopAct → Prop
  | .input _ .timeEvents _ | .input _ .watcherEvents _ | .input _ .watcherErrors _ => True
  | _ => False

/-- Some party can move, with no help from the ticker or the watcher. -/
def CanMove (s : StopState es) : Prop :=
  ∃ a t, Step (stoppable es) s a t ∧ ¬ FromWorld a

/-- A running receiver is at its `select`, or it has an event to deal with. -/
theorem canMove_of_receiver {s : StopState es} (h : (stopView s).receiver = .running)
    (hselect : s.loc .receiver = .select → CanMove s) : CanMove s := by
  rcases hl : (show ReceiverLoc from s.loc .receiver) with - | ev | - | -
  · exact hselect hl
  · rcases Nat.lt_or_ge (s.buf .bufferCh).length bufferSize with room | full
    · exact ⟨_, _, step_keep hl room, id⟩
    · exact ⟨_, _, step_giveUp hl full, id⟩
  · cases h.symm.trans (congrArg ReceiverLoc.status hl)
  · cases h.symm.trans (congrArg ReceiverLoc.status hl)

/-- The limiter and the consumer let a running sender come back to its `select`. -/
theorem canMove_of_sender {s : StopState es} (h : (stopView s).sender = .running)
    (hselect : s.loc .sender = .select → CanMove s) : CanMove s := by
  rcases hl : (show SenderLoc from s.loc .sender) with - | ev | ev | - | -
  · exact hselect hl
  · exact ⟨_, _, step_take 0 hl, id⟩
  · exact ⟨_, _, step_deliver hl, id⟩
  · cases h.symm.trans (congrArg SenderLoc.status hl)
  · cases h.symm.trans (congrArg SenderLoc.status hl)

theorem canMove_of_source {s : StopState es} (h : (stopView s).source = .running)
    (hreceiver : (stopView s).receiver = .running)
    (hselect : s.loc .source = .select → CanMove s) : CanMove s := by
  rcases hl : (show SourceLoc from s.loc .source) with - | ev | - | - | -
  · exact ⟨_, _, step_stamp 0 hl, id⟩
  · -- a source that hands over an event waits for the receiver, and that one is still there
    exact canMove_of_receiver hreceiver fun hr => ⟨_, _, step_hand hl hr, id⟩
  · exact hselect hl
  · cases h.symm.trans (congrArg SourceLoc.status hl)
  · cases h.symm.trans (congrArg SourceLoc.status hl)

theorem canMove_of_orderly {s : StopState es} (h : Orderly (stopView s))
    (hcaller : s.loc .caller ≠ .returned) : CanMove s := by
  obtain ⟨hsource, hreceiver, hsender⟩ := h
  rcases hl : (show CallerLoc from s.loc .caller) with - | - | - | - | - | - | -
  all_goals
    have hview : (stopView s).caller = _ := hl
    rw [hview] at hsource hreceiver hsender
  · -- `stopSource`
    exact canMove_of_source hsource hreceiver.1 fun hs => ⟨_, _, step_stopSource hl hs, id⟩
  · -- `waitSource`
    exact ⟨_, _, step_sourceDone hl (SourceLoc.eq_of_stopping hsource), id⟩
  · -- `stopReceiver`
    exact canMove_of_receiver hreceiver.1 fun hr => ⟨_, _, step_stopReceiver hl hr, id⟩
  · -- `stopSender`
    exact canMove_of_sender hsender.1 fun hs => ⟨_, _, step_stopSender hl hs, id⟩
  · -- `waitReceiver`: the receiver reports, or it has
    rcases hreceiver with ⟨hst, hdone⟩ | ⟨-, hdone⟩
    · exact ⟨_, _, step_receiverDone (ReceiverLoc.eq_of_stopping hst) hdone, id⟩
    · exact ⟨_, _, step_waitReceiver hl hdone, id⟩
  · -- `waitSender`: the same for the sender
    rcases hsender with ⟨hst, hdone⟩ | ⟨-, hdone⟩
    · exact ⟨_, _, step_senderDone (SenderLoc.eq_of_stopping hst) hdone, id⟩
    · exact ⟨_, _, step_waitSender hl hdone, id⟩
  · exact (hcaller hl).elim

/-- **Stopping cannot deadlock.**  Until the caller of `Stop` and `Wait` is done
some party can move, even if the ticker and the watcher stay silent; and when
`Wait` returns, the source's loop, the receiver and the sender have returned. -/
theorem stop_and_wait_never_stuck (es : UnlimitedEventSource) (tr : List StopAct) (s : StopState es)
    (run : Run (stoppable es) (.initial (stoppable es)) tr s) :
    (s.loc .caller ≠ .returned → ∃ a t, Step (stoppable es) s a t ∧ ¬ FromWorld a)
      ∧ (s.loc .caller = .returned →
          s.loc .source = .returned ∧ s.loc .receiver = .returned ∧ s.loc .sender = .returned) := by
  have horderly := orderly_run run
  refine ⟨canMove_of_orderly horderly, fun hl => ?_⟩
  obtain ⟨hsource, hreceiver, hsender⟩ := horderly
  have hview : (stopView s).caller = .returned := hl
  rw [hview] at hsource hreceiver hsender
  exact ⟨SourceLoc.eq_of_returned hsource, ReceiverLoc.eq_of_returned hreceiver.1,
    SenderLoc.eq_of_returned hsender.1⟩

/-- A source without a timer hands over its first event, which stays in
`bufferCh`, and is then stopped. -/
theorem stop_and_wait_never_stuck_first_event :
    (∃ a t, Step (stoppable ⟨0, []⟩) (.initial _) a t ∧ ¬ FromWorld a)
      ∧ ∃ tr s, Run (stoppable ⟨0, []⟩) (.initial _) tr s ∧ s.loc .caller = .returned
        ∧ s.loc .source = .returned ∧ s.loc .receiver = .returned ∧ s.loc .sender = .returned := by
  refine ⟨(stop_and_wait_never_stuck ⟨0, []⟩ [] _ .nil).1 nofun, ?_⟩
  have stamped : Run (stoppable ⟨0, []⟩) (.initial _) _ _ := Run.nil.snoc (step_stamp 0 rfl)
  have handed := stamped.snoc (step_hand rfl rfl)
  have kept := handed.snoc (step_keep rfl (by decide))
  have sourceDone := (kept.snoc (step_stopSource rfl rfl)).snoc (step_sourceDone rfl rfl)
  have asked := (sourceDone.snoc (step_stopReceiver rfl rfl)).snoc (step_stopSender rfl rfl)
  have reported := (asked.snoc (step_receiverDone rfl rfl)).snoc (step_senderDone rfl rfl)
  have waited := (reported.snoc (step_waitReceiver rfl rfl)).snoc (step_waitSender rfl rfl)
  exact ⟨_, _, waited, rfl, (stop_and_wait_never_stuck ⟨0, []⟩ _ _ waited).2 rfl⟩

end TopologyExporter
