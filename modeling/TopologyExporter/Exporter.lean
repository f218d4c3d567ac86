/-
TopologyExporter/Exporter.lean

The exporter as a whole: every goroutine that `Execute` starts.

The source hands its events to the limiter, if there is one, and to the observer
otherwise; the observer hands an info to the updater; the observer and the updater hand
their conditions to the injector, if there is one.  Nobody calls `Stop`, and the context
of the injector is never done.  Outside are the ticker, the file watcher, the clock, the
tokens of the limiter, and the answers of `Scan`.
-/
import TopologyExporter.PublisherLoops
import TopologyExporter.RateLimiter

namespace TopologyExporter

open Goroutines Interaction

/-! ### The goroutines behind the events, each on its own -/

/-- The event that the source has not yet handed over. -/
def SourceLoc.hand : SourceLoc → Option Event
  | .handing ev => some ev
  | _ => none

/-- The event that the source is about to make. -/
def SourceLoc.stamps : SourceLoc → Nat
  | .stamping => 1
  | _ => 0

section Events

variable {h : List (Comm EventChan.Val)} {es : UnlimitedEventSource}

theorem interval_pos_of_tick {l : SourceLoc} {k : Int → SourceLoc}
    (hrecv : Offered es.run l (.recv .timeEvents k)) : 0 < es.sleepInterval := by
  rcases offered_source.mp hrecv with ⟨-, h⟩ | ⟨ev, -, h⟩ | ⟨-, ⟨hpos, -⟩ | h | h | h⟩ | ⟨-, h⟩
  · cases h
  · cases h
  · exact hpos
  all_goals cases h

/-- The source makes a timer event of each tick, one event at the start, and one of each
change of a file that it is to watch; the last one may still be in its hand. -/
theorem source_goes {l : SourceLoc} (goes : Goes es.run .stamping h l) :
    (sentOn .inCh h ++ l.hand.toList).countP Event.isTimer = (gotOn .timeEvents h).length
      ∧ (sentOn .inCh h ++ l.hand.toList).countP (fun ev => !ev.isTimer) + l.stamps
        = 1 + (gotOn .watcherEvents h).countP (anyFilter es.filters) := by
  induction goes with
  | start => exact ⟨rfl, rfl⟩
  | send _ hsend ih =>
      cases source_sends hsend with
      | hand ev hl =>
          subst hl
          simpa [SourceLoc.hand, SourceLoc.stamps] using ih
      | done hl =>
          subst hl
          simpa [SourceLoc.hand, SourceLoc.stamps] using ih
  | recv _ hrecv v ih =>
      cases source_takes hrecv with
      | now hl =>
          subst hl
          simpa [SourceLoc.hand, SourceLoc.stamps, Event.isTimer] using ih
      | tick hl =>
          subst hl
          simpa [SourceLoc.hand, SourceLoc.stamps, Event.isTimer, interval_pos_of_tick hrecv] using ih
      | file hl =>
          subst hl
          by_cases hpass : anyFilter es.filters v = true
          · simp only [SourceLoc.hand, SourceLoc.stamps, Option.toList_none, List.append_nil] at ih
            simp [SourceLoc.hand, SourceLoc.stamps, hpass, ih]
            omega
          · simpa [SourceLoc.hand, SourceLoc.stamps, hpass] using ih
      | watchError hl =>
          subst hl
          simpa [SourceLoc.hand, SourceLoc.stamps] using ih
      | stop hl =>
          subst hl
          simpa [SourceLoc.hand, SourceLoc.stamps] using ih
  | default _ hcode hdefault ih =>
      rw [source_default hcode] at hdefault
      cases hdefault

/-- The receiver passes on a subsequence of what it reads. -/
theorem receiver_goes {l : ReceiverLoc} (goes : Goes receiver .select h l) :
    (sentOn .bufferCh h ++ l.hand.toList).Sublist (gotOn .inCh h) := by
  induction goes with
  | start => exact List.Sublist.refl _
  | send _ hsend ih =>
      cases receiver_sends hsend with
      | keep ev hl =>
          subst hl
          simpa [ReceiverLoc.hand] using ih
      | done hl =>
          subst hl
          simpa [ReceiverLoc.hand] using ih
  | recv _ hrecv v ih =>
      cases receiver_takes hrecv with
      | event hl =>
          subst hl
          simpa [ReceiverLoc.hand] using ih.append_right [v]
      | stop hl =>
          subst hl
          simpa [ReceiverLoc.hand] using ih
  | default _ hcode hdefault ih =>
      obtain ⟨ev, rfl, -, rfl⟩ := receiver_default hcode hdefault
      -- the event in hand is given up
      simpa [ReceiverLoc.hand] using (List.sublist_append_left _ _).trans ih

/-- The sender delivers all that it takes, in order. -/
theorem sender_goes {l : SenderLoc} (goes : Goes sender .select h l) :
    gotOn .bufferCh h = sentOn .outCh h ++ l.hand.toList := by
  induction goes with
  | start => rfl
  | send _ hsend ih =>
      cases sender_sends hsend with
      | hand ev hl =>
          subst hl
          simpa [SenderLoc.hand] using ih
      | done hl =>
          subst hl
          simpa [SenderLoc.hand] using ih
  | recv _ hrecv v ih =>
      cases sender_takes hrecv with
      | event hl =>
          subst hl
          simpa [SenderLoc.hand] using ih
      | stop hl =>
          subst hl
          simpa [SenderLoc.hand] using ih
      | token ev hl =>
          subst hl
          simpa [SenderLoc.hand] using ih
  | default _ hcode hdefault ih =>
      rw [sender_default hcode] at hdefault
      cases hdefault

/-! ### Without a stop -/

theorem source_keeps_running {l : SourceLoc} (goes : Goes es.run .stamping h l)
    (hstop : gotOn .stopChan h = []) : l = .stamping ∨ (∃ ev, l = .handing ev) ∨ l = .select := by
  induction goes with
  | start => exact .inl rfl
  | send _ hsend ih =>
      rw [gotOn_snoc_sent] at hstop
      cases source_sends hsend with
      | hand ev hl => exact .inr (.inr rfl)
      | done hl =>
          subst hl
          simpa using ih hstop
  | recv _ hrecv v ih =>
      cases source_takes hrecv with
      | now hl => exact .inr (.inl ⟨_, rfl⟩)
      | tick hl => exact .inr (.inl ⟨_, rfl⟩)
      | file hl =>
          by_cases hpass : anyFilter es.filters v = true
          · exact .inl (if_pos hpass)
          · exact .inr (.inr (if_neg hpass))
      | watchError hl => exact .inr (.inr rfl)
      | stop hl => simp at hstop
  | default _ hcode hdefault ih =>
      rw [source_default hcode] at hdefault
      cases hdefault

theorem receiver_keeps_running {l : ReceiverLoc} (goes : Goes receiver .select h l)
    (hstop : gotOn .stopReceiverCh h = []) : l = .select ∨ ∃ ev, l = .incoming ev := by
  induction goes with
  | start => exact .inl rfl
  | send _ hsend ih =>
      rw [gotOn_snoc_sent] at hstop
      cases receiver_sends hsend with
      | keep ev hl => exact .inl rfl
      | done hl =>
          subst hl
          simpa using ih hstop
  | recv _ hrecv v ih =>
      cases receiver_takes hrecv with
      | event hl => exact .inr ⟨v, rfl⟩
      | stop hl => simp at hstop
  | default _ hcode hdefault ih =>
      obtain ⟨ev, rfl, -, rfl⟩ := receiver_default hcode hdefault
      exact .inl rfl

theorem sender_keeps_running {l : SenderLoc} (goes : Goes sender .select h l)
    (hstop : gotOn .stopSenderCh h = []) :
    l = .select ∨ (∃ ev, l = .taking ev) ∨ ∃ ev, l = .handing ev := by
  induction goes with
  | start => exact .inl rfl
  | send _ hsend ih =>
      rw [gotOn_snoc_sent] at hstop
      cases sender_sends hsend with
      | hand ev hl => exact .inl rfl
      | done hl =>
          subst hl
          simpa using ih hstop
  | recv _ hrecv v ih =>
      cases sender_takes hrecv with
      | event hl => exact .inr (.inl ⟨v, rfl⟩)
      | stop hl => simp at hstop
      | token ev hl => exact .inr (.inr ⟨ev, rfl⟩)
  | default _ hcode hdefault ih =>
      rw [sender_default hcode] at hdefault
      cases hdefault

end Events

/-! ### The network -/

/-- The goroutines. -/
inductive ExporterParty
  | source
  | receiver
  | sender
  | observer
  | updater
  | injector
  deriving DecidableEq, Repr

/-- What `Execute` has set up when it starts the goroutines. -/
structure Exporter (ρ : Type) where
  source : UnlimitedEventSource
  limited : Bool
  exposeTiming : Bool
  podReadiness : Bool
  lastWakeup : Int
  te : NRTUpdater
  world : World
  nodeGetter : NodeGetter
  ci : ConditionInjector
  pod : PodWorld ρ

variable {ρ : Type}

/-- The goroutines that `Execute` starts.  There is a limiter, or an injector, only if
it was asked for. -/
def Exporter.net (x : Exporter ρ) : Net ExporterParty ExporterChan.Val where
  Loc
    | .source => SourceLoc
    | .receiver => ReceiverLoc
    | .sender => SenderLoc
    | .observer => ObserverLoc
    | .updater => UpdaterLoc
    | .injector => InjectorLoc ρ
  code
    | .source => codeAlong .event x.source.run
    | .receiver => fun l => if x.limited then codeAlong .event receiver l else none
    | .sender => fun l => if x.limited then codeAlong .event sender l else none
    | .observer => observer x.limited x.exposeTiming x.podReadiness
    | .updater => updater x.podReadiness x.nodeGetter
    | .injector => fun l => if x.podReadiness then injector l else none
  start
    | .source => .stamping
    | .receiver => .select
    | .sender => .select
    | .observer => .select x.lastWakeup
    | .updater => .select x.te x.world
    | .injector => .select x.ci x.pod
  cap
    | .event .outCh => some 0
    | .event c => c.cap
    | .scan | .clock => none
    | .infoChan | .condChan | .stopObserver | .stopUpdater | .ctxDone => some 0

/-- A state of the exporter. -/
abbrev ExporterState (x : Exporter ρ) := State x.net

/-- An action of the exporter. -/
abbrev ExporterAct := Act ExporterParty ExporterChan.Val

/-! ### Who sends and who receives -/

theorem offered_guarded {Chan L : Type} {Val : Chan → Type} {code : L → Option (Select Val L)} {b : Bool}
    {l : L} {case : Case Val L} :
    Offered (fun l => if b then code l else none) l case ↔ b = true ∧ Offered code l case := by
  cases b <;> simp [Offered]

/-- The goroutine may send on the channel. -/
def ExporterChan.givenBy : ExporterChan → ExporterParty → Bool
  | .event .inCh, .source | .event .doneChan, .source => true
  | .event .bufferCh, .receiver | .event .doneReceiverCh, .receiver => true
  | .event .outCh, .sender | .event .doneSenderCh, .sender => true
  | .infoChan, .observer | .condChan, .observer => true
  | .condChan, .updater => true
  | _, _ => false

/-- The goroutine may receive on the channel. -/
def ExporterChan.takenBy (limited : Bool) : ExporterChan → ExporterParty → Bool
  | .event .inCh, .receiver => limited
  | .event .inCh, .observer => !limited
  | .event .outCh, .observer => limited
  | .event .now, .source | .event .timeEvents, .source | .event .watcherEvents, .source
  | .event .watcherErrors, .source | .event .stopChan, .source => true
  | .event .stopReceiverCh, .receiver => true
  | .event .bufferCh, .sender | .event .take, .sender | .event .stopSenderCh, .sender => true
  | .stopObserver, .observer | .scan, .observer | .clock, .observer => true
  | .infoChan, .updater | .stopUpdater, .updater | .clock, .updater => true
  | .condChan, .injector | .ctxDone, .injector => true
  | _, _ => false

variable {x : Exporter ρ}

theorem givenBy_of_offered {q : ExporterParty} {l n : x.net.Loc q} {c : ExporterChan} {v : c.Val}
    (hsend : Offered (x.net.code q) l (.send c v n)) : c.givenBy q = true := by
  cases q with
  | source =>
      obtain ⟨case, hcase, heq⟩ := offered_codeAlong.mp hsend
      cases case <;> cases heq
      cases source_sends hcase <;> rfl
  | receiver =>
      obtain ⟨case, hcase, heq⟩ := offered_codeAlong.mp (offered_guarded.mp hsend).2
      cases case <;> cases heq
      cases receiver_sends hcase <;> rfl
  | sender =>
      obtain ⟨case, hcase, heq⟩ := offered_codeAlong.mp (offered_guarded.mp hsend).2
      cases case <;> cases heq
      cases sender_sends hcase <;> rfl
  | observer => cases observer_sends hsend <;> rfl
  | updater =>
      cases updater_sends hsend
      rfl
  | injector => exact (injector_sends (offered_guarded.mp hsend).2).elim

theorem takenBy_of_offered {q : ExporterParty} {l : x.net.Loc q} {c : ExporterChan}
    {k : c.Val → x.net.Loc q} (hrecv : Offered (x.net.code q) l (.recv c k)) :
    c.takenBy x.limited q = true := by
  cases q with
  | source =>
      obtain ⟨case, hcase, heq⟩ := offered_codeAlong.mp hrecv
      cases case <;> cases heq
      cases source_takes hcase <;> rfl
  | receiver =>
      obtain ⟨hlimited, hrecv⟩ := offered_guarded.mp hrecv
      obtain ⟨case, hcase, heq⟩ := offered_codeAlong.mp hrecv
      cases case <;> cases heq
      cases receiver_takes hcase with
      | event => exact hlimited
      | stop => rfl
  | sender =>
      obtain ⟨case, hcase, heq⟩ := offered_codeAlong.mp (offered_guarded.mp hrecv).2
      cases case <;> cases heq
      cases sender_takes hcase <;> rfl
  | observer =>
      cases observer_takes hrecv with
      | limitedEvent _ _ hlimited => exact hlimited
      | event _ _ hlimited => exact congrArg not hlimited
      | stop | scan | clock => rfl
  | updater => cases updater_takes hrecv <;> rfl
  | injector => cases injector_takes (offered_guarded.mp hrecv).2 <;> rfl

/-- All goroutines. -/
def ExporterParty.all : List ExporterParty :=
  [.source, .receiver, .sender, .observer, .updater, .injector]

theorem ExporterParty.mem_all (q : ExporterParty) : q ∈ all := by
  cases q <;> simp [all]

theorem onlySender {p : ExporterParty} {c : ExporterChan}
    (h : ∀ q ∈ ExporterParty.all, c.givenBy q = true → q = p) : OnlySender x.net p c :=
  fun q _ _ _ hsend => h q q.mem_all (givenBy_of_offered hsend)

theorem onlyReceiver {p : ExporterParty} {c : ExporterChan}
    (h : ∀ q ∈ ExporterParty.all, c.takenBy x.limited q = true → q = p) : OnlyReceiver x.net p c :=
  fun q _ _ hrecv => h q q.mem_all (takenBy_of_offered hrecv)

/-! ### The histories of a run -/

section Run

variable {tr : List ExporterAct} {s : ExporterState x}

theorem event_injective : Function.Injective ExporterChan.event := fun _ _ h => by injection h

theorem source_history (run : Run x.net (.initial x.net) tr s) :
    ∃ h : List (Comm EventChan.Val), history .source tr = h.map (Comm.along .event)
      ∧ Goes x.source.run .stamping h (s.loc .source) :=
  (run.goes .source).of_along

theorem receiver_history (run : Run x.net (.initial x.net) tr s) (hlimited : x.limited = true) :
    ∃ h : List (Comm EventChan.Val), history .receiver tr = h.map (Comm.along .event)
      ∧ Goes receiver .select h (s.loc .receiver) := by
  have hcode : x.net.code .receiver = codeAlong .event receiver := by
    funext l
    exact if_pos hlimited
  have goes := run.goes .receiver
  rw [hcode] at goes
  exact goes.of_along

theorem sender_history (run : Run x.net (.initial x.net) tr s) (hlimited : x.limited = true) :
    ∃ h : List (Comm EventChan.Val), history .sender tr = h.map (Comm.along .event)
      ∧ Goes sender .select h (s.loc .sender) := by
  have hcode : x.net.code .sender = codeAlong .event sender := by
    funext l
    exact if_pos hlimited
  have goes := run.goes .sender
  rw [hcode] at goes
  exact goes.of_along

/-! ### The events -/

/-- The events that the source has handed over. -/
def emitted (tr : List ExporterAct) : List Event := sentOn (.event .inCh) (history .source tr)

/-- The events that the observer has received. -/
def observed (x : Exporter ρ) (tr : List ExporterAct) : List Event :=
  eventsTaken x.limited (history .observer tr)

/-- The events inside the limiter, the oldest first. -/
def inLimiter (s : ExporterState x) : List Event :=
  (SenderLoc.hand (s.loc .sender)).toList ++ s.buf (.event .bufferCh)
    ++ (ReceiverLoc.hand (s.loc .receiver)).toList

/-- Without a limiter the observer gets the events as the source sends them. -/
theorem observed_eq_emitted (run : Run x.net (.initial x.net) tr s) (hlimited : x.limited = false) :
    observed x tr = emitted tr := by
  have hlaw := run.received (c := .event .inCh) (p := .source) (q := .observer) rfl
    (onlySender (by decide)) (onlyReceiver (by rw [hlimited]; decide))
  rw [run.buf_eq_nil rfl, List.append_nil] at hlaw
  rw [observed, eventsTaken, hlimited, emitted, ← hlaw]
  rfl

/-- With a limiter it gets a subsequence of them, and the others that it will get are
inside the limiter. -/
theorem observed_append_inLimiter (run : Run x.net (.initial x.net) tr s)
    (hlimited : x.limited = true) : (observed x tr ++ inLimiter s).Sublist (emitted tr) := by
  obtain ⟨hr, hreceiver, goesReceiver⟩ := receiver_history run hlimited
  obtain ⟨hs, hsender, goesSender⟩ := sender_history run hlimited
  have hin := run.received (c := .event .inCh) (p := .source) (q := .receiver) rfl
    (onlySender (by decide)) (onlyReceiver (by rw [hlimited]; decide))
  have hbuffer := run.received (c := .event .bufferCh) (p := .receiver) (q := .sender) rfl
    (onlySender (by decide)) (onlyReceiver (by rw [hlimited]; decide))
  have hout := run.received (c := .event .outCh) (p := .sender) (q := .observer) rfl
    (onlySender (by decide)) (onlyReceiver (by rw [hlimited]; decide))
  rw [run.buf_eq_nil rfl, List.append_nil] at hin hout
  rw [hreceiver, gotOn_along event_injective] at hin
  rw [hreceiver, hsender, gotOn_along event_injective, sentOn_along event_injective] at hbuffer
  rw [hsender, sentOn_along event_injective] at hout
  have hobserved : observed x tr = sentOn .outCh hs := by
    rw [observed, eventsTaken, hlimited]
    exact hout
  have hflow := receiver_goes goesReceiver
  rw [← hbuffer, sender_goes goesSender, hin] at hflow
  rw [hobserved, inLimiter, emitted]
  simpa [List.append_assoc] using hflow

theorem observed_sublist_emitted (run : Run x.net (.initial x.net) tr s) :
    (observed x tr).Sublist (emitted tr) := by
  rcases hlimited : x.limited with - | -
  · rw [observed_eq_emitted run hlimited]
  · exact (List.sublist_append_left _ _).trans (observed_append_inLimiter run hlimited)

end Run

/-! ### Steps -/

namespace Exporter

variable {s : ExporterState x}

theorem source_offers (case : Case EventChan.Val SourceLoc)
    (h : Offered x.source.run (s.loc .source) case) : s.Offers .source (case.along .event) :=
  offered_codeAlong.mpr ⟨case, h, rfl⟩

theorem receiver_offers (hlimited : x.limited = true) (case : Case EventChan.Val ReceiverLoc)
    (h : Offered receiver (s.loc .receiver) case) : s.Offers .receiver (case.along .event) :=
  offered_guarded.mpr ⟨hlimited, offered_codeAlong.mpr ⟨case, h, rfl⟩⟩

theorem sender_offers (hlimited : x.limited = true) (case : Case EventChan.Val SenderLoc)
    (h : Offered sender (s.loc .sender) case) : s.Offers .sender (case.along .event) :=
  offered_guarded.mpr ⟨hlimited, offered_codeAlong.mpr ⟨case, h, rfl⟩⟩

theorem observer_offers {l : ObserverLoc} {sel : Select ExporterChan.Val ObserverLoc}
    {case : Case ExporterChan.Val ObserverLoc} (h : s.loc .observer = l)
    (hcode : observer x.limited x.exposeTiming x.podReadiness l = some sel) (hcase : case ∈ sel.cases) :
    s.Offers .observer case :=
  ⟨sel, (congrArg _ h).trans hcode, hcase⟩

theorem updater_offers {l : UpdaterLoc} {sel : Select ExporterChan.Val UpdaterLoc}
    {case : Case ExporterChan.Val UpdaterLoc} (h : s.loc .updater = l)
    (hcode : updater x.podReadiness x.nodeGetter l = some sel) (hcase : case ∈ sel.cases) :
    s.Offers .updater case :=
  ⟨sel, (congrArg _ h).trans hcode, hcase⟩

theorem injector_offers {l : InjectorLoc ρ} {sel : Select ExporterChan.Val (InjectorLoc ρ)}
    {case : Case ExporterChan.Val (InjectorLoc ρ)} (hready : x.podReadiness = true)
    (h : s.loc .injector = l) (hcode : injector l = some sel) (hcase : case ∈ sel.cases) :
    s.Offers .injector case :=
  offered_guarded.mpr ⟨hready, sel, (congrArg injector h).trans hcode, hcase⟩

theorem step_stamp (h : s.loc .source = .stamping) (now : Int) :
    Step x.net s (.input .source (.event .now) now) (s.move .source (.handing ⟨now, 0⟩)) := by
  have hrecv : s.Offers .source (.recv (.event .now) fun now : Int => .handing ⟨now, 0⟩) :=
    source_offers (.recv .now fun now => .handing ⟨now, 0⟩) (offered_source.mpr (.inl ⟨h, rfl⟩))
  exact .input hrecv rfl

theorem source_hands {ev : Event} (h : s.loc .source = .handing ev) :
    s.Offers .source (.send (.event .inCh) ev .select) :=
  source_offers (.send .inCh ev .select) (offered_source.mpr (.inr (.inl ⟨ev, h, rfl⟩)))

/-- Without a limiter the source meets the observer. -/
theorem step_hand {ev : Event} {lastWakeup : Int} (hlimited : x.limited = false)
    (h : s.loc .source = .handing ev) (hobserver : s.loc .observer = .select lastWakeup) :
    Step x.net s (.meet .source .observer (.event .inCh) ev)
      ((s.move .source .select).move .observer (.scanning lastWakeup ev)) := by
  have hrecv : s.Offers .observer (.recv (.event .inCh) (.scanning lastWakeup)) :=
    observer_offers hobserver rfl (List.mem_cons.mpr (.inl (if_neg (by simp [hlimited])).symm))
  exact .meet (by decide) rfl (source_hands h) hrecv

/-- With a limiter the source meets the receiver. -/
theorem step_read {ev : Event} (hlimited : x.limited = true) (h : s.loc .source = .handing ev)
    (hreceiver : s.loc .receiver = .select) :
    Step x.net s (.meet .source .receiver (.event .inCh) ev)
      ((s.move .source .select).move .receiver (.incoming ev)) := by
  have hrecv : s.Offers .receiver (.recv (.event .inCh) ReceiverLoc.incoming) :=
    receiver_offers hlimited (.recv .inCh .incoming) (offered_receiver.mpr (.inl ⟨hreceiver, .inl rfl⟩))
  exact .meet (by decide) rfl (source_hands h) hrecv

theorem step_keep {ev : Event} (hlimited : x.limited = true) (h : s.loc .receiver = .incoming ev)
    (room : (s.buf (.event .bufferCh)).length < bufferSize) :
    Step x.net s (.push .receiver (.event .bufferCh) ev)
      ((s.move .receiver .select).store (.event .bufferCh) (s.buf (.event .bufferCh) ++ [ev])) := by
  have hsend : s.Offers .receiver (.send (.event .bufferCh) ev .select) :=
    receiver_offers hlimited (.send .bufferCh ev .select) (offered_receiver.mpr (.inr (.inl ⟨ev, h, rfl⟩)))
  exact .push hsend rfl room

theorem step_pick {ev : Event} {rest : List Event} (hlimited : x.limited = true)
    (h : s.loc .sender = .select) (hbuf : s.buf (.event .bufferCh) = ev :: rest) :
    Step x.net s (.pull .sender (.event .bufferCh) ev)
      ((s.move .sender (.taking ev)).store (.event .bufferCh) rest) := by
  have hrecv : s.Offers .sender (.recv (.event .bufferCh) SenderLoc.taking) :=
    sender_offers hlimited (.recv .bufferCh .taking) (offered_sender.mpr (.inl ⟨h, .inl rfl⟩))
  exact .pull hrecv rfl hbuf

theorem step_token {ev : Event} (hlimited : x.limited = true) (h : s.loc .sender = .taking ev)
    (now : Int) : Step x.net s (.input .sender (.event .take) now) (s.move .sender (.handing ev)) := by
  have hrecv : s.Offers .sender (.recv (.event .take) fun _ : Int => .handing ev) :=
    sender_offers hlimited (.recv .take fun _ => .handing ev)
      (offered_sender.mpr (.inr (.inl ⟨ev, h, rfl⟩)))
  exact .input hrecv rfl

theorem step_deliver {ev : Event} {lastWakeup : Int} (hlimited : x.limited = true)
    (h : s.loc .sender = .handing ev) (hobserver : s.loc .observer = .select lastWakeup) :
    Step x.net s (.meet .sender .observer (.event .outCh) ev)
      ((s.move .sender .select).move .observer (.scanning lastWakeup ev)) := by
  have hsend : s.Offers .sender (.send (.event .outCh) ev .select) :=
    sender_offers hlimited (.send .outCh ev .select)
      (offered_sender.mpr (.inr (.inr (.inl ⟨ev, h, rfl⟩))))
  have hrecv : s.Offers .observer (.recv (.event .outCh) (.scanning lastWakeup)) :=
    observer_offers hobserver rfl (List.mem_cons.mpr (.inl (if_pos hlimited).symm))
  exact .meet (by decide) rfl hsend hrecv

theorem step_scan {ev : Event} {lastWakeup : Int} (h : s.loc .observer = .scanning lastWakeup ev)
    (scanRes : ScanOutcome) :
    Step x.net s (.input .observer .scan scanRes)
      (s.move .observer (.scanned x.exposeTiming x.podReadiness lastWakeup ev scanRes)) := by
  have hrecv : s.Offers .observer (.recv .scan fun scanRes =>
      .scanned x.exposeTiming x.podReadiness lastWakeup ev scanRes) :=
    observer_offers h rfl (List.mem_singleton.mpr rfl)
  exact .input hrecv rfl

theorem step_info {monInfo : MonitorInfo} {lastWakeup : Int} {te : NRTUpdater} {w : World}
    (h : s.loc .observer = .handing monInfo lastWakeup) (hupdater : s.loc .updater = .select te w) :
    Step x.net s (.meet .observer .updater .infoChan monInfo)
      ((s.move .observer (.setCondition x.podReadiness .conditionTrue lastWakeup)).move .updater
        (.updating te w monInfo)) := by
  have hsend : s.Offers .observer (.send .infoChan monInfo
      (.setCondition x.podReadiness .conditionTrue lastWakeup)) :=
    observer_offers h rfl (List.mem_singleton.mpr rfl)
  have hrecv : s.Offers .updater (.recv .infoChan (.updating te w)) :=
    updater_offers hupdater rfl List.mem_cons_self
  exact .meet (by decide) rfl hsend hrecv

theorem step_observerClock {condition : PodCondition} {lastWakeup : Int}
    (h : s.loc .observer = .stamping condition lastWakeup) (now : Int) :
    Step x.net s (.input .observer .clock now)
      (s.move .observer (.setting ⟨condition, now⟩ lastWakeup)) := by
  have hrecv : s.Offers .observer (.recv .clock fun now => .setting ⟨condition, now⟩ lastWakeup) :=
    observer_offers h rfl (List.mem_singleton.mpr rfl)
  exact .input hrecv rfl

theorem step_updaterClock {condition : PodCondition} {te : NRTUpdater} {w : World}
    (h : s.loc .updater = .stamping condition te w) (now : Int) :
    Step x.net s (.input .updater .clock now) (s.move .updater (.setting ⟨condition, now⟩ te w)) := by
  have hrecv : s.Offers .updater (.recv .clock fun now => .setting ⟨condition, now⟩ te w) :=
    updater_offers h rfl (List.mem_singleton.mpr rfl)
  exact .input hrecv rfl

theorem injector_waits {ci : ConditionInjector} {w : PodWorld ρ} (hready : x.podReadiness = true)
    (h : s.loc .injector = .select ci w) : s.Offers .injector (.recv .condChan (.injecting ci w)) :=
  injector_offers hready h rfl List.mem_cons_self

theorem step_observerSet {condition : TimedCondition} {lastWakeup : Int} {ci : ConditionInjector}
    {w : PodWorld ρ} (hready : x.podReadiness = true)
    (h : s.loc .observer = .setting condition lastWakeup) (hinjector : s.loc .injector = .select ci w) :
    Step x.net s (.meet .observer .injector .condChan condition)
      ((s.move .observer (.select lastWakeup)).move .injector (.injecting ci w condition)) := by
  have hsend : s.Offers .observer (.send .condChan condition (.select lastWakeup)) :=
    observer_offers h rfl (List.mem_singleton.mpr rfl)
  exact .meet (by decide) rfl hsend (injector_waits hready hinjector)

theorem step_updaterSet {condition : TimedCondition} {te : NRTUpdater} {w : World}
    {ci : ConditionInjector} {pw : PodWorld ρ} (hready : x.podReadiness = true)
    (h : s.loc .updater = .setting condition te w) (hinjector : s.loc .injector = .select ci pw) :
    Step x.net s (.meet .updater .injector .condChan condition)
      ((s.move .updater (.select te w)).move .injector (.injecting ci pw condition)) := by
  have hsend : s.Offers .updater (.send .condChan condition (.select te w)) :=
    updater_offers h rfl (List.mem_singleton.mpr rfl)
  exact .meet (by decide) rfl hsend (injector_waits hready hinjector)

theorem step_update {te : NRTUpdater} {w : World} {info : MonitorInfo}
    (h : s.loc .updater = .updating te w info) :
    Step x.net s (.default .updater)
      (s.move .updater (.updated x.podReadiness (updateRound x.nodeGetter te w info))) := by
  have hcode : x.net.code .updater (s.loc .updater)
      = updater x.podReadiness x.nodeGetter (.updating te w info) :=
    congrArg (updater x.podReadiness x.nodeGetter) h
  exact .default hcode rfl (fun case hcase => (List.not_mem_nil hcase).elim)

theorem step_inject {ci : ConditionInjector} {w : PodWorld ρ} {condition : TimedCondition}
    (hready : x.podReadiness = true) (h : s.loc .injector = .injecting ci w condition) :
    Step x.net s (.default .injector)
      (s.move .injector (.select (injectRound ci w condition).after (injectRound ci w condition).final)) := by
  have hcode : x.net.code .injector (s.loc .injector) = injector (.injecting ci w condition) :=
    (if_pos hready).trans (congrArg injector h)
  exact .default hcode rfl (fun case hcase => (List.not_mem_nil hcase).elim)

end Exporter

end TopologyExporter
