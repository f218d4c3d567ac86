/-
TopologyExporter/EventSource.lean

The goroutines behind the events: the loop of `UnlimitedEventSource`
(`notification.go`), the receiver and the sender of `RateLimitedEventSource`
(`ratelimiter.go`), and a caller of `Stop` and then `Wait`.

Each is given by its program points.  What comes from outside the repository is
on channels that lead outside: the ticker, the file watcher, the consumer of
`Events()`, and the two calls that take a value from elsewhere, `time.Now()` and
`rt.Take()`.
-/
import TopologyExporter.Goroutines
import TopologyExporter.Observer

namespace TopologyExporter

open Goroutines

/-! ### Channels -/

/-- `fsnotify.Event`; the operation is a set of bits. -/
structure FsEvent where
  name : String
  op : Nat
  deriving DecidableEq, Repr

/-- The channels.  `inCh` is the `eventChan` of the decorated source. -/
inductive EventChan
  | inCh
  | bufferCh
  | outCh
  | stopReceiverCh
  | doneReceiverCh
  | stopSenderCh
  | doneSenderCh
  | stopChan
  | doneChan
  | timeEvents
  | watcherEvents
  | watcherErrors
  | now
  | take
  deriving DecidableEq, Repr

/-- What a channel carries. -/
abbrev EventChan.Val : EventChan → Type
  | .inCh | .bufferCh | .outCh => Event
  | .timeEvents | .now | .take => Int
  | .watcherEvents => FsEvent
  | .watcherErrors => String
  | .stopReceiverCh | .doneReceiverCh | .stopSenderCh | .doneSenderCh | .stopChan | .doneChan => Unit

/-- `bufferSize`. -/
def bufferSize : Nat := 5

/-- The capacities given to `make`; none for what leads outside. -/
def EventChan.cap : EventChan → Option Nat
  | .bufferCh => some bufferSize
  | .doneReceiverCh | .doneSenderCh => some 1
  | .inCh | .stopReceiverCh | .stopSenderCh | .stopChan | .doneChan => some 0
  | .outCh | .timeEvents | .watcherEvents | .watcherErrors | .now | .take => none

/-! ### The source -/

/-- `UnlimitedEventSource`, as far as its loop reads it. -/
structure UnlimitedEventSource where
  sleepInterval : Int
  filters : List (FsEvent → Bool)

/-- `AnyFilter`. -/
def anyFilter (filters : List (FsEvent → Bool)) (event : FsEvent) : Bool :=
  filters.any fun filter => filter event

/-- `fsnotify.Chmod` and `fsnotify.Write`. -/
def chmodOp : Nat := 16

@[inherit_doc chmodOp] def writeOp : Nat := 2

/-- The filter that `AddFile` adds. -/
def fileFilter (notifyFilePath : String) (event : FsEvent) : Bool :=
  event.name == notifyFilePath
    && (event.op &&& chmodOp == chmodOp || event.op &&& writeOp == writeOp)

/-- The program points of `UnlimitedEventSource.Run`. -/
inductive SourceLoc
  | stamping
  | handing (ev : Event)
  | select
  | finishing
  | returned
  deriving DecidableEq, Repr

/-- `UnlimitedEventSource.Run`.  Without an interval `timeEvents` is a channel
that nothing is sent on. -/
def UnlimitedEventSource.run (es : UnlimitedEventSource) :
    SourceLoc → Option (Select EventChan.Val SourceLoc)
  | .stamping => some ⟨[.recv .now fun ts => .handing ⟨ts, 0⟩], none⟩
  | .handing ev => some ⟨[.send .inCh ev .select], none⟩
  | .select => some
      ⟨(if 0 < es.sleepInterval then
            [.recv .timeEvents fun tickTs => .handing ⟨tickTs, es.sleepInterval⟩] else [])
          ++ [.recv .watcherEvents fun event =>
                if anyFilter es.filters event then .stamping else .select,
              .recv .watcherErrors fun _ => .select,
              .recv .stopChan fun _ => .finishing], none⟩
  | .finishing => some ⟨[.send .doneChan () .returned], none⟩
  | .returned => none

theorem offered_source {es : UnlimitedEventSource} {l : SourceLoc}
    {case : Case EventChan.Val SourceLoc} :
    Offered es.run l case ↔
      (l = .stamping ∧ case = .recv .now fun ts => .handing ⟨ts, 0⟩)
        ∨ (∃ ev, l = .handing ev ∧ case = .send .inCh ev .select)
        ∨ (l = .select ∧
            (0 < es.sleepInterval
                ∧ (case = .recv .timeEvents fun tickTs => .handing ⟨tickTs, es.sleepInterval⟩)
              ∨ (case = .recv .watcherEvents fun event =>
                  if anyFilter es.filters event then .stamping else .select)
              ∨ (case = .recv .watcherErrors fun _ => .select)
              ∨ case = .recv .stopChan fun _ => .finishing))
        ∨ l = .finishing ∧ case = .send .doneChan () .returned := by
  cases l with
  | select => by_cases h : 0 < es.sleepInterval <;> simp [Offered, UnlimitedEventSource.run, h]
  | stamping => simp [Offered, UnlimitedEventSource.run]
  | handing ev => simp [Offered, UnlimitedEventSource.run]
  | finishing => simp [Offered, UnlimitedEventSource.run]
  | returned => simp [Offered, UnlimitedEventSource.run]

/-- What the source sends, and where it goes on. -/
inductive SourceSends (l : SourceLoc) : (c : EventChan) → c.Val → SourceLoc → Prop
  | hand (ev : Event) (hl : l = .handing ev) : SourceSends l .inCh ev .select
  | done (hl : l = .finishing) : SourceSends l .doneChan () .returned

theorem source_sends {es : UnlimitedEventSource} {l next : SourceLoc} {c : EventChan} {v : c.Val}
    (hsend : Offered es.run l (.send c v next)) : SourceSends l c v next := by
  rcases offered_source.mp hsend with ⟨-, h⟩ | ⟨ev, hl, h⟩ | ⟨-, ⟨-, h⟩ | h | h | h⟩ | ⟨hl, h⟩
    <;> cases h
  · exact .hand ev hl
  · exact .done hl

/-- What the source receives, and where it goes on. -/
inductive SourceTakes (es : UnlimitedEventSource) (l : SourceLoc) :
    (c : EventChan) → (c.Val → SourceLoc) → Prop
  | now (hl : l = .stamping) : SourceTakes es l .now fun ts => .handing ⟨ts, 0⟩
  | tick (hl : l = .select) :
      SourceTakes es l .timeEvents fun tickTs => .handing ⟨tickTs, es.sleepInterval⟩
  | file (hl : l = .select) :
      SourceTakes es l .watcherEvents fun event =>
        if anyFilter es.filters event then .stamping else .select
  | watchError (hl : l = .select) : SourceTakes es l .watcherErrors fun _ => .select
  | stop (hl : l = .select) : SourceTakes es l .stopChan fun _ => .finishing

theorem source_takes {es : UnlimitedEventSource} {l : SourceLoc} {c : EventChan}
    {k : c.Val → SourceLoc} (hrecv : Offered es.run l (.recv c k)) : SourceTakes es l c k := by
  rcases offered_source.mp hrecv with ⟨hl, h⟩ | ⟨ev, -, h⟩ | ⟨hl, ⟨-, h⟩ | h | h | h⟩ | ⟨-, h⟩
    <;> cases h
  · exact .now hl
  · exact .tick hl
  · exact .file hl
  · exact .watchError hl
  · exact .stop hl

theorem source_default {es : UnlimitedEventSource} {l : SourceLoc}
    {sel : Select EventChan.Val SourceLoc} (hcode : es.run l = some sel) : sel.default = none := by
  cases l <;> cases hcode <;> rfl

/-! ### The limiter -/

/-- The program points of `receiver`. -/
inductive ReceiverLoc
  | select
  | incoming (incomingEvent : Event)
  | stopping
  | returned
  deriving DecidableEq, Repr

/-- `receiver`. -/
def receiver : ReceiverLoc → Option (Select EventChan.Val ReceiverLoc)
  | .select => some ⟨[.recv .inCh .incoming, .recv .stopReceiverCh fun _ => .stopping], none⟩
  | .incoming incomingEvent => some ⟨[.send .bufferCh incomingEvent .select], some .select⟩
  | .stopping => some ⟨[.send .doneReceiverCh () .returned], none⟩
  | .returned => none

theorem offered_receiver {l : ReceiverLoc} {case : Case EventChan.Val ReceiverLoc} :
    Offered receiver l case ↔
      l = .select ∧ (case = .recv .inCh .incoming ∨ case = .recv .stopReceiverCh fun _ => .stopping)
        ∨ (∃ ev, l = .incoming ev ∧ case = .send .bufferCh ev .select)
        ∨ l = .stopping ∧ case = .send .doneReceiverCh () .returned := by
  cases l <;> simp [Offered, receiver]

/-- What the receiver sends, and where it goes on. -/
inductive ReceiverSends (l : ReceiverLoc) : (c : EventChan) → c.Val → ReceiverLoc → Prop
  | keep (ev : Event) (hl : l = .incoming ev) : ReceiverSends l .bufferCh ev .select
  | done (hl : l = .stopping) : ReceiverSends l .doneReceiverCh () .returned

theorem receiver_sends {l next : ReceiverLoc} {c : EventChan} {v : c.Val}
    (hsend : Offered receiver l (.send c v next)) : ReceiverSends l c v next := by
  rcases offered_receiver.mp hsend with ⟨-, h | h⟩ | ⟨ev, hl, h⟩ | ⟨hl, h⟩ <;> cases h
  · exact .keep ev hl
  · exact .done hl

/-- What the receiver receives, and where it goes on. -/
inductive ReceiverTakes (l : ReceiverLoc) : (c : EventChan) → (c.Val → ReceiverLoc) → Prop
  | event (hl : l = .select) : ReceiverTakes l .inCh .incoming
  | stop (hl : l = .select) : ReceiverTakes l .stopReceiverCh fun _ => .stopping

theorem receiver_takes {l : ReceiverLoc} {c : EventChan} {k : c.Val → ReceiverLoc}
    (hrecv : Offered receiver l (.recv c k)) : ReceiverTakes l c k := by
  rcases offered_receiver.mp hrecv with ⟨hl, h | h⟩ | ⟨ev, -, h⟩ | ⟨-, h⟩ <;> cases h
  · exact .event hl
  · exact .stop hl

/-- The one `default` branch: the event read is given up. -/
theorem receiver_default {l next : ReceiverLoc} {sel : Select EventChan.Val ReceiverLoc}
    (hcode : receiver l = some sel) (hdefault : sel.default = some next) :
    ∃ ev, l = .incoming ev ∧ sel.cases = [.send .bufferCh ev .select] ∧ next = .select := by
  cases l <;> cases hcode <;> cases hdefault
  exact ⟨_, rfl, rfl, rfl⟩

/-- The program points of `sender`. -/
inductive SenderLoc
  | select
  | taking (event : Event)
  | handing (event : Event)
  | stopping
  | returned
  deriving DecidableEq, Repr

/-- `sender`. -/
def sender : SenderLoc → Option (Select EventChan.Val SenderLoc)
  | .select => some ⟨[.recv .bufferCh .taking, .recv .stopSenderCh fun _ => .stopping], none⟩
  | .taking event => some ⟨[.recv .take fun _ => .handing event], none⟩
  | .handing event => some ⟨[.send .outCh event .select], none⟩
  | .stopping => some ⟨[.send .doneSenderCh () .returned], none⟩
  | .returned => none

theorem offered_sender {l : SenderLoc} {case : Case EventChan.Val SenderLoc} :
    Offered sender l case ↔
      l = .select ∧ (case = .recv .bufferCh .taking ∨ case = .recv .stopSenderCh fun _ => .stopping)
        ∨ (∃ ev, l = .taking ev ∧ case = .recv .take fun _ => .handing ev)
        ∨ (∃ ev, l = .handing ev ∧ case = .send .outCh ev .select)
        ∨ l = .stopping ∧ case = .send .doneSenderCh () .returned := by
  cases l <;> simp [Offered, sender]

/-- What the sender sends, and where it goes on. -/
inductive SenderSends (l : SenderLoc) : (c : EventChan) → c.Val → SenderLoc → Prop
  | hand (ev : Event) (hl : l = .handing ev) : SenderSends l .outCh ev .select
  | done (hl : l = .stopping) : SenderSends l .doneSenderCh () .returned

theorem sender_sends {l next : SenderLoc} {c : EventChan} {v : c.Val}
    (hsend : Offered sender l (.send c v next)) : SenderSends l c v next := by
  rcases offered_sender.mp hsend with ⟨-, h | h⟩ | ⟨ev, -, h⟩ | ⟨ev, hl, h⟩ | ⟨hl, h⟩ <;> cases h
  · exact .hand ev hl
  · exact .done hl

/-- What the sender receives, and where it goes on. -/
inductive SenderTakes (l : SenderLoc) : (c : EventChan) → (c.Val → SenderLoc) → Prop
  | event (hl : l = .select) : SenderTakes l .bufferCh .taking
  | stop (hl : l = .select) : SenderTakes l .stopSenderCh fun _ => .stopping
  | token (ev : Event) (hl : l = .taking ev) : SenderTakes l .take fun _ => .handing ev

theorem sender_takes {l : SenderLoc} {c : EventChan} {k : c.Val → SenderLoc}
    (hrecv : Offered sender l (.recv c k)) : SenderTakes l c k := by
  rcases offered_sender.mp hrecv with ⟨hl, h | h⟩ | ⟨ev, hl, h⟩ | ⟨ev, -, h⟩ | ⟨-, h⟩ <;> cases h
  · exact .event hl
  · exact .stop hl
  · exact .token ev hl

theorem sender_default {l : SenderLoc} {sel : Select EventChan.Val SenderLoc}
    (hcode : sender l = some sel) : sel.default = none := by
  cases l <;> cases hcode <;> rfl

/-! ### The caller of `Stop` and `Wait` -/

/-- The program points of `Stop(); Wait()`. -/
inductive CallerLoc
  | stopSource
  | waitSource
  | stopReceiver
  | stopSender
  | waitReceiver
  | waitSender
  | returned
  deriving DecidableEq, Repr

/-- `RateLimitedEventSource.Stop` and then `Wait`. -/
def caller : CallerLoc → Option (Select EventChan.Val CallerLoc)
  | .stopSource => some ⟨[.send .stopChan () .waitSource], none⟩
  | .waitSource => some ⟨[.recv .doneChan fun _ => .stopReceiver], none⟩
  | .stopReceiver => some ⟨[.send .stopReceiverCh () .stopSender], none⟩
  | .stopSender => some ⟨[.send .stopSenderCh () .waitReceiver], none⟩
  | .waitReceiver => some ⟨[.recv .doneReceiverCh fun _ => .waitSender], none⟩
  | .waitSender => some ⟨[.recv .doneSenderCh fun _ => .returned], none⟩
  | .returned => none

theorem offered_caller {l : CallerLoc} {case : Case EventChan.Val CallerLoc} :
    Offered caller l case ↔
      l = .stopSource ∧ case = .send .stopChan () .waitSource
        ∨ (l = .waitSource ∧ case = .recv .doneChan fun _ => .stopReceiver)
        ∨ l = .stopReceiver ∧ case = .send .stopReceiverCh () .stopSender
        ∨ l = .stopSender ∧ case = .send .stopSenderCh () .waitReceiver
        ∨ (l = .waitReceiver ∧ case = .recv .doneReceiverCh fun _ => .waitSender)
        ∨ (l = .waitSender ∧ case = .recv .doneSenderCh fun _ => .returned) := by
  cases l <;> simp [Offered, caller]

/-- What the caller sends, and where it goes on. -/
inductive CallerSends (l : CallerLoc) : (c : EventChan) → c.Val → CallerLoc → Prop
  | stopSource (hl : l = .stopSource) : CallerSends l .stopChan () .waitSource
  | stopReceiver (hl : l = .stopReceiver) : CallerSends l .stopReceiverCh () .stopSender
  | stopSender (hl : l = .stopSender) : CallerSends l .stopSenderCh () .waitReceiver

theorem caller_sends {l next : CallerLoc} {c : EventChan} {v : c.Val}
    (hsend : Offered caller l (.send c v next)) : CallerSends l c v next := by
  rcases offered_caller.mp hsend with ⟨hl, h⟩ | ⟨-, h⟩ | ⟨hl, h⟩ | ⟨hl, h⟩ | ⟨-, h⟩ | ⟨-, h⟩
    <;> cases h
  · exact .stopSource hl
  · exact .stopReceiver hl
  · exact .stopSender hl

/-- What the caller waits for, and where it goes on. -/
inductive CallerTakes (l : CallerLoc) : (c : EventChan) → (c.Val → CallerLoc) → Prop
  | source (hl : l = .waitSource) : CallerTakes l .doneChan fun _ => .stopReceiver
  | receiver (hl : l = .waitReceiver) : CallerTakes l .doneReceiverCh fun _ => .waitSender
  | sender (hl : l = .waitSender) : CallerTakes l .doneSenderCh fun _ => .returned

theorem caller_takes {l : CallerLoc} {c : EventChan} {k : c.Val → CallerLoc}
    (hrecv : Offered caller l (.recv c k)) : CallerTakes l c k := by
  rcases offered_caller.mp hrecv with ⟨-, h⟩ | ⟨hl, h⟩ | ⟨-, h⟩ | ⟨-, h⟩ | ⟨hl, h⟩ | ⟨hl, h⟩
    <;> cases h
  · exact .source hl
  · exact .receiver hl
  · exact .sender hl

theorem caller_default {l : CallerLoc} {sel : Select EventChan.Val CallerLoc}
    (hcode : caller l = some sel) : sel.default = none := by
  cases l <;> cases hcode <;> rfl

end TopologyExporter
