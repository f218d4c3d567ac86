/-
TopologyExporter/ExporterProgress.lean

The exporter comes to rest.

Who waits for whom: the source waits for the limiter or the observer, the limiter for the
observer, the observer for the updater and the injector, the updater for the injector,
and the injector for nobody.  So someone can always move, until all wait for a tick or a
change of a file (`can_move`).  Each program point has a price, the number of steps that
can follow from it, and each channel a toll: who sends a value pays for it, and who takes
it gets no more than that (`send_pays`, `take_pays`).  So every step lowers the sum of the
prices, except those that bring something new from outside (`step_paid`).

Together: the number of steps is bounded by what came from outside, and when nothing
but the outside can move, everything has been scanned, published and injected
(`exporter_settles`).
-/
import TopologyExporter.ExporterSafety

namespace TopologyExporter

open Goroutines Interaction

variable {ρ : Type} {x : Exporter ρ} {tr : List ExporterAct} {s t : ExporterState x}

/-! ### The price of a program point -/

/-- The steps that can follow from a program point. -/
def price : (p : ExporterParty) → x.net.Loc p → Nat
  | .source, .stamping => 15
  | .source, .handing _ => 14
  | .source, .select => 0
  | .source, .finishing => 1
  | .source, .returned => 0
  | .receiver, .incoming _ => 13
  | .receiver, .select => 0
  | .receiver, .stopping => 1
  | .receiver, .returned => 0
  | .sender, .taking _ => 11
  | .sender, .handing _ => 10
  | .sender, .select => 0
  | .sender, .stopping => 1
  | .sender, .returned => 0
  | .observer, .scanning _ _ => 9
  | .observer, .handing _ _ => 8
  | .observer, .stamping _ _ => 3
  | .observer, .setting _ _ => 2
  | .observer, .select _ => 0
  | .observer, .panicked _ => 0
  | .observer, .returned => 0
  | .updater, .updating _ _ _ => 4
  | .updater, .stamping _ _ _ => 3
  | .updater, .setting _ _ _ => 2
  | .updater, .select _ _ => 0
  | .updater, .returned _ _ => 0
  | .injector, .injecting _ _ _ => 1
  | .injector, .select _ _ => 0
  | .injector, .returned _ _ => 0

/-- The steps that can follow from a state.  An event in the buffer costs twelve. -/
def work (s : ExporterState x) : Nat :=
  price .source (s.loc .source) + price .receiver (s.loc .receiver) + price .sender (s.loc .sender)
    + price .observer (s.loc .observer) + price .updater (s.loc .updater)
    + price .injector (s.loc .injector) + 12 * (s.buf (.event .bufferCh)).length

/-- A tick, a change of a file or an error of the watcher. -/
def isStimulus : ExporterAct → Bool
  | .input .source (.event .timeEvents) _ | .input .source (.event .watcherEvents) _
  | .input .source (.event .watcherErrors) _ => true
  | _ => false

theorem work_move (s : ExporterState x) (p : ExporterParty) (l : x.net.Loc p) :
    work (s.move p l) + price p (s.loc p) = work s + price p l := by
  cases p <;> simp [work, State.move] <;> omega

/-- A step of `p` that changes the buffer of events. -/
theorem work_move_buffer (s : ExporterState x) (p : ExporterParty) (l : x.net.Loc p) (evs : List Event) :
    work ((s.move p l).store (.event .bufferCh) evs) + price p (s.loc p)
        + 12 * (s.buf (.event .bufferCh)).length
      = work s + price p l + 12 * evs.length := by
  have hmove := work_move s p l
  simp only [work, State.move_buf, State.store_loc, State.store_buf_self] at hmove ⊢
  omega

/-- A step of `p` that changes another buffer. -/
theorem work_move_store (s : ExporterState x) (p : ExporterParty) (l : x.net.Loc p) {c : ExporterChan}
    (hc : c ≠ .event .bufferCh) (vs : List c.Val) :
    work ((s.move p l).store c vs) + price p (s.loc p) = work s + price p l := by
  have hmove := work_move s p l
  have hstore : work ((s.move p l).store c vs) = work (s.move p l) := by
    simp [work, hc.symm]
  omega

/-! ### What a value is worth -/

theorem price_setCondition (condStatus : ConditionStatus) (lastWakeup : Int) :
    price (x := x) .observer (ObserverLoc.setCondition x.podReadiness condStatus lastWakeup) ≤ 3 := by
  rw [ObserverLoc.setCondition]
  split <;> simp [price]

theorem price_scanned (lastWakeup : Int) (ev : Event) (scanRes : ScanOutcome) :
    price (x := x) .observer
      (ObserverLoc.scanned x.exposeTiming x.podReadiness lastWakeup ev scanRes) ≤ 8 := by
  rw [ObserverLoc.scanned]
  split
  · simp [price]
  · split
    · exact (price_setCondition _ _).trans (by decide)
    · simp [price]

/-- What the goroutine that takes a value on a channel can do more for it.  An answer from
outside is a step, and is worth nothing. -/
def toll : ExporterChan → Int
  | .event .inCh => 13
  | .event .bufferCh => 12
  | .event .outCh => 9
  | .event .stopChan | .event .stopReceiverCh | .event .stopSenderCh => 1
  | .event .doneChan | .event .doneReceiverCh | .event .doneSenderCh => 0
  | .event .timeEvents | .event .watcherEvents | .event .watcherErrors => 15
  | .event .now | .event .take | .scan | .clock => -1
  | .infoChan => 4
  | .condChan => 1
  | .stopObserver | .stopUpdater | .ctxDone => 0

theorem toll_nonneg {c : ExporterChan} (hcap : x.net.cap c ≠ none) : 0 ≤ toll c := by
  cases c with
  | event c =>
      cases c with
      | timeEvents | watcherEvents | watcherErrors | now | take => exact (hcap rfl).elim
      | inCh | bufferCh | outCh | stopReceiverCh | doneReceiverCh | stopSenderCh | doneSenderCh
      | stopChan | doneChan => decide
  | scan | clock => exact (hcap rfl).elim
  | infoChan | condChan | stopObserver | stopUpdater | ctxDone => decide

/-- Only something new from outside is worth more than the step in which it is taken. -/
theorem toll_of_outside {p : ExporterParty} {c : ExporterChan} (v : c.Val)
    (htaken : c.takenBy x.limited p = true) (hcap : x.net.cap c = none) :
    toll c + 1 ≤ if isStimulus (.input p c v) then 16 else 0 := by
  -- an answer is worth nothing, whoever takes it
  have hanswer : ∀ b : Bool, (-1 + 1 : Int) ≤ if b then 16 else 0 := by decide
  cases c with
  | event c =>
      cases c with
      | timeEvents | watcherEvents | watcherErrors =>
          cases p with
          | source => exact le_refl (16 : Int)
          | receiver | sender | observer | updater | injector => cases htaken
      | now | take => exact hanswer _
      | inCh | bufferCh | outCh | stopReceiverCh | doneReceiverCh | stopSenderCh | doneSenderCh
      | stopChan | doneChan => cases hcap
  | scan | clock => exact hanswer _
  | infoChan | condChan | stopObserver | stopUpdater | ctxDone => cases hcap

/-- **Who sends pays**: for the step, and for what the value is worth. -/
theorem send_pays {p : ExporterParty} {c : ExporterChan} {v : c.Val} {l : x.net.Loc p}
    (hsend : s.Offers p (.send c v l)) : (price p l : Int) + toll c + 1 ≤ price p (s.loc p) := by
  cases p with
  | source =>
      obtain ⟨case, hcase, heq⟩ := offered_codeAlong.mp hsend
      cases case <;> cases heq
      cases source_sends hcase with
      | hand ev hl | done hl => simp [hl, price, toll]
  | receiver =>
      obtain ⟨case, hcase, heq⟩ := offered_codeAlong.mp (offered_guarded.mp hsend).2
      cases case <;> cases heq
      cases receiver_sends hcase with
      | keep ev hl | done hl => simp [hl, price, toll]
  | sender =>
      obtain ⟨case, hcase, heq⟩ := offered_codeAlong.mp (offered_guarded.mp hsend).2
      cases case <;> cases heq
      cases sender_sends hcase with
      | hand ev hl | done hl => simp [hl, price, toll]
  | observer =>
      cases observer_sends hsend with
      | hand monInfo lastWakeup hl =>
          -- after the info there may be a condition to set
          have hprice := price_setCondition (x := x) .conditionTrue lastWakeup
          simp only [hl, price, toll] at hprice ⊢
          omega
      | set condition lastWakeup hl => simp [hl, price, toll]
  | updater =>
      cases updater_sends hsend with
      | set condition te w hl => simp [hl, price, toll]
  | injector => exact (injector_sends (offered_guarded.mp hsend).2).elim

/-- **Who takes a value** gets no more than it is worth. -/
theorem take_pays {p : ExporterParty} {c : ExporterChan} {k : c.Val → x.net.Loc p}
    (hrecv : s.Offers p (.recv c k)) (v : c.Val) :
    (price p (k v) : Int) ≤ price p (s.loc p) + toll c := by
  cases p with
  | source =>
      obtain ⟨case, hcase, heq⟩ := offered_codeAlong.mp hrecv
      cases case <;> cases heq
      cases source_takes hcase with
      | now hl | tick hl | watchError hl | stop hl => simp [hl, price, toll]
      | file hl =>
          by_cases hpass : anyFilter x.source.filters v = true
          · simp [hl, price, toll, hpass]
          · simp [hl, price, toll, hpass]
  | receiver =>
      obtain ⟨case, hcase, heq⟩ := offered_codeAlong.mp (offered_guarded.mp hrecv).2
      cases case <;> cases heq
      cases receiver_takes hcase with
      | event hl | stop hl => simp [hl, price, toll]
  | sender =>
      obtain ⟨case, hcase, heq⟩ := offered_codeAlong.mp (offered_guarded.mp hrecv).2
      cases case <;> cases heq
      cases sender_takes hcase with
      | event hl | stop hl | token ev hl => simp [hl, price, toll]
  | observer =>
      cases observer_takes hrecv with
      | limitedEvent lastWakeup hl | event lastWakeup hl | stop lastWakeup hl
      | clock condition lastWakeup hl => simp [hl, price, toll]
      | scan lastWakeup ev hl =>
          have hprice := price_scanned (x := x) lastWakeup ev v
          simp only [hl, price, toll] at hprice ⊢
          omega
  | updater =>
      cases updater_takes hrecv with
      | info te w hl | stop te w hl | clock condition te w hl => simp [hl, price, toll]
  | injector =>
      cases injector_takes (offered_guarded.mp hrecv).2 with
      | condition ci w hl | done ci w hl => simp [hl, price, toll]

/-! ### Every step is paid for -/

/-- A send to a buffer. -/
theorem push_paid {p : ExporterParty} {c : ExporterChan} {v : c.Val} {l : x.net.Loc p} {n : Nat}
    (hsend : s.Offers p (.send c v l)) (hcap : x.net.cap c = some n) :
    work ((s.move p l).store c (s.buf c ++ [v])) + 1 ≤ work s := by
  have hsent := send_pays hsend
  by_cases hc : c = .event .bufferCh
  · subst hc
    have hwork := work_move_buffer s p l (s.buf (.event .bufferCh) ++ [v])
    simp only [List.length_append, List.length_singleton] at hwork
    simp only [toll] at hsent
    omega
  · have hwork := work_move_store s p l hc (s.buf c ++ [v])
    have htoll : 0 ≤ toll c := toll_nonneg (by rw [hcap]; simp)
    omega

/-- A receive from a buffer: only the sender makes one. -/
theorem pull_paid {p : ExporterParty} {c : ExporterChan} {v : c.Val} {rest : List c.Val}
    {k : c.Val → x.net.Loc p} {n : Nat} (hrecv : s.Offers p (.recv c k))
    (hcap : x.net.cap c = some (n + 1)) (hbuf : s.buf c = v :: rest) :
    work ((s.move p (k v)).store c rest) + 1 ≤ work s := by
  cases p with
  | source =>
      obtain ⟨case, hcase, heq⟩ := offered_codeAlong.mp hrecv
      cases case <;> cases heq
      cases source_takes hcase <;> cases hcap
  | receiver =>
      obtain ⟨case, hcase, heq⟩ := offered_codeAlong.mp (offered_guarded.mp hrecv).2
      cases case <;> cases heq
      cases receiver_takes hcase <;> cases hcap
  | sender =>
      obtain ⟨case, hcase, heq⟩ := offered_codeAlong.mp (offered_guarded.mp hrecv).2
      cases case <;> cases heq
      cases sender_takes hcase with
      | event hl =>
          have hwork := work_move_buffer s .sender (.taking v) rest
          simp only [hl, price, hbuf, List.length_cons] at hwork
          omega
      | stop hl => cases hcap
      | token ev hl => cases hcap
  | observer => cases observer_takes hrecv <;> cases hcap
  | updater => cases updater_takes hrecv <;> cases hcap
  | injector => cases injector_takes (offered_guarded.mp hrecv).2 <;> cases hcap

/-- The two goroutines of a meeting. -/
theorem work_meet (s : ExporterState x) {p q : ExporterParty} (hne : q ≠ p) (l : x.net.Loc p)
    (m : x.net.Loc q) :
    work ((s.move p l).move q m) + price p (s.loc p) + price q (s.loc q)
      = work s + price p l + price q m := by
  have hp := work_move s p l
  have hq := work_move (s.move p l) q m
  rw [State.move_loc_of_ne s hne] at hq
  omega

theorem meet_paid {p q : ExporterParty} {c : ExporterChan} {v : c.Val} {l : x.net.Loc p}
    {k : c.Val → x.net.Loc q} (hne : q ≠ p) (hsend : s.Offers p (.send c v l))
    (hrecv : s.Offers q (.recv c k)) : work ((s.move p l).move q (k v)) + 1 ≤ work s := by
  have hwork := work_meet s hne l (k v)
  have hsent := send_pays hsend
  have htaken := take_pays hrecv v
  omega

/-- An answer from outside is paid for, and something new costs at most sixteen. -/
theorem input_paid {p : ExporterParty} {c : ExporterChan} {v : c.Val} {k : c.Val → x.net.Loc p}
    (hrecv : s.Offers p (.recv c k)) (hcap : x.net.cap c = none) :
    work (s.move p (k v)) + 1 ≤ work s + if isStimulus (.input p c v) then 16 else 0 := by
  have hwork := work_move s p (k v)
  have htaken := take_pays hrecv v
  have htoll := toll_of_outside v (takenBy_of_offered hrecv) hcap
  split_ifs at htoll ⊢ <;> omega

theorem code_of_guarded {Chan L : Type} {Val : Chan → Type} {code : L → Option (Select Val L)} {b : Bool}
    {l : L} {sel : Select Val L} (h : (if b then code l else none) = some sel) : code l = some sel := by
  cases b with
  | true => exact h
  | false => cases h

theorem default_paid {p : ExporterParty} {sel : Select ExporterChan.Val (x.net.Loc p)} {l : x.net.Loc p}
    (hcode : x.net.code p (s.loc p) = some sel) (hdefault : sel.default = some l) :
    work (s.move p l) + 1 ≤ work s := by
  have hwork := work_move s p l
  cases p with
  | source =>
      obtain ⟨sel', hcode', rfl⟩ := Option.map_eq_some_iff.mp hcode
      cases (source_default hcode').symm.trans hdefault
  | receiver =>
      have hcode : codeAlong .event receiver (s.loc .receiver) = some sel :=
        code_of_guarded (b := x.limited) hcode
      obtain ⟨sel', hcode', rfl⟩ := Option.map_eq_some_iff.mp hcode
      obtain ⟨ev, hl, -, rfl⟩ := receiver_default hcode' hdefault
      simp only [hl, price] at hwork
      omega
  | sender =>
      have hcode : codeAlong .event sender (s.loc .sender) = some sel :=
        code_of_guarded (b := x.limited) hcode
      obtain ⟨sel', hcode', rfl⟩ := Option.map_eq_some_iff.mp hcode
      cases (sender_default hcode').symm.trans hdefault
  | observer => cases (observer_default hcode).symm.trans hdefault
  | updater =>
      obtain ⟨te, w, info, hl, hmoves⟩ := updater_default hcode hdefault
      cases hmoves <;> simp only [hl, price] at hwork <;> omega
  | injector =>
      have hcode : injector (s.loc .injector) = some sel := code_of_guarded (b := x.podReadiness) hcode
      obtain ⟨ci, w, condition, hl, rfl⟩ := injector_default hcode hdefault
      simp only [hl, price] at hwork
      omega

theorem cap_ne_none_of_givenBy {p : ExporterParty} {c : ExporterChan} (h : c.givenBy p = true) :
    x.net.cap c ≠ none := by
  cases c with
  | event c => cases p <;> cases c <;> simp_all [ExporterChan.givenBy, Exporter.net, EventChan.cap]
  | scan | clock => cases p <;> cases h
  | infoChan | condChan | stopObserver | stopUpdater | ctxDone => simp [Exporter.net]

/-- **Every step but something new from outside lowers the work.** -/
theorem step_paid {a : ExporterAct} (step : Step x.net s a t) :
    work t + 1 ≤ work s + if isStimulus a then 16 else 0 := by
  cases step with
  | push hsend hcap room => exact push_paid hsend hcap
  | pull hrecv hcap hbuf => exact pull_paid hrecv hcap hbuf
  | meet hne hcap hsend hrecv => exact meet_paid hne hsend hrecv
  | input hrecv hcap => exact input_paid hrecv hcap
  | @output p c v l hsend hcap =>
      -- no goroutine sends to the outside
      exact (cap_ne_none_of_givenBy (givenBy_of_offered hsend) hcap).elim
  | default hcode hdefault => exact default_paid hcode hdefault

/-! ### Who can move -/

/-- All goroutines wait, the source for something new, and the limiter is empty. -/
structure Idle (s : ExporterState x) : Prop where
  source : s.loc .source = .select
  receiver : s.loc .receiver = .select
  sender : s.loc .sender = .select
  buffer : s.buf (.event .bufferCh) = []
  observer : ∃ lastWakeup, s.loc .observer = .select lastWakeup
  updater : ∃ te w, s.loc .updater = .select te w
  injector : ∃ ci w, s.loc .injector = .select ci w

/-- A step is possible that needs nothing new from outside. -/
def MovesOn (s : ExporterState x) : Prop := ∃ a t, Step x.net s a t ∧ isStimulus a = false

section Reachable

variable (run : Run x.net (.initial x.net) tr s)

include run

theorem source_running :
    s.loc .source = .stamping ∨ (∃ ev, s.loc .source = .handing ev) ∨ s.loc .source = .select := by
  obtain ⟨h, hhistory, goes⟩ := source_history run
  refine source_keeps_running goes ?_
  have hstop := run.gotOn_eq_nil_of_unused (c := .event .stopChan) (q := .source) rfl
    (onlyReceiver (by cases x.limited <;> decide)) (unused_of_givenBy (by decide))
  rwa [hhistory, gotOn_along event_injective] at hstop

theorem receiver_running (hlimited : x.limited = true) :
    s.loc .receiver = .select ∨ ∃ ev, s.loc .receiver = .incoming ev := by
  obtain ⟨h, hhistory, goes⟩ := receiver_history run hlimited
  refine receiver_keeps_running goes ?_
  have hstop := run.gotOn_eq_nil_of_unused (c := .event .stopReceiverCh) (q := .receiver) rfl
    (onlyReceiver (by cases x.limited <;> decide)) (unused_of_givenBy (by decide))
  rwa [hhistory, gotOn_along event_injective] at hstop

theorem sender_running (hlimited : x.limited = true) :
    s.loc .sender = .select ∨ (∃ ev, s.loc .sender = .taking ev) ∨ ∃ ev, s.loc .sender = .handing ev := by
  obtain ⟨h, hhistory, goes⟩ := sender_history run hlimited
  refine sender_keeps_running goes ?_
  have hstop := run.gotOn_eq_nil_of_unused (c := .event .stopSenderCh) (q := .sender) rfl
    (onlyReceiver (by cases x.limited <;> decide)) (unused_of_givenBy (by decide))
  rwa [hhistory, gotOn_along event_injective] at hstop

/-- Without a limiter its goroutines do not exist, and its buffer is never used. -/
theorem limiter_unused (hlimited : x.limited = false) :
    s.loc .receiver = .select ∧ s.loc .sender = .select ∧ s.buf (.event .bufferCh) = [] := by
  have hreceiver := (run.goes .receiver).of_no_code fun l => if_neg (by simp [hlimited])
  have hsender := (run.goes .sender).of_no_code fun l => if_neg (by simp [hlimited])
  refine ⟨hreceiver.2, hsender.2, ?_⟩
  have hlaw := run.received (c := .event .bufferCh) (p := .receiver) (q := .sender) rfl
    (onlySender (by decide)) (onlyReceiver (by cases x.limited <;> decide))
  rw [hreceiver.1, hsender.1] at hlaw
  exact hlaw

theorem injector_running :
    (∃ ci w, s.loc .injector = .select ci w)
      ∨ x.podReadiness = true ∧ ∃ ci w condition, s.loc .injector = .injecting ci w condition := by
  have goes := run.goes .injector
  rcases hready : x.podReadiness with - | -
  · exact .inl ⟨_, _, (goes.of_no_code fun l => if_neg (by simp [hready])).2⟩
  · have hcode : x.net.code .injector = injector := by
      funext l
      exact if_pos hready
    rw [hcode] at goes
    have hdone := injector_keeps_running goes (run.gotOn_eq_nil_of_unused rfl
      (onlyReceiver (by cases x.limited <;> decide)) (unused_of_givenBy (by decide)))
    cases hloc : s.loc .injector with
    | select ci w => exact .inl ⟨ci, w, rfl⟩
    | injecting ci w condition => exact .inr ⟨rfl, ci, w, condition, rfl⟩
    | returned ci w => exact (hdone ci w hloc).elim

theorem updater_running (te : NRTUpdater) (w : World) : s.loc .updater ≠ .returned te w :=
  updater_keeps_running (run.goes .updater) (run.gotOn_eq_nil_of_unused rfl
    (onlyReceiver (by cases x.limited <;> decide)) (unused_of_givenBy (by decide))) te w

/-- The updater sets a condition only if there is an injector to take it. -/
theorem ready_of_updater_owes {condition : PodCondition}
    (howed : UpdaterLoc.owed (s.loc .updater) = [condition]) : x.podReadiness = true := by
  obtain ⟨published, track⟩ := updater_goes (run.goes .updater)
  have hmem : condition ∈ (session NRTUpdater.report World.serve x.te x.world
      (published.map fun info => ⟨info, x.nodeGetter⟩)).flatMap (roundConditions x.podReadiness) := by
    rw [← track.conditions, howed]
    simp
  obtain ⟨r, -, hr⟩ := List.mem_flatMap.mp hmem
  exact (type_of_mem_roundConditions hr).1

/-- So does the observer. -/
theorem ready_of_observer_owes (hruns : ObserverLoc.Runs (s.loc .observer)) {condition : PodCondition}
    (howed : ObserverLoc.owed x.podReadiness (s.loc .observer) = [.cond condition]) :
    x.podReadiness = true := by
  obtain ⟨scanned, track⟩ := observer_goes (run.goes .observer)
  have hmem : condition
      ∈ conditionsOf (reports x.exposeTiming x.podReadiness x.lastWakeup scanned) := by
    rw [track.reports_eq hruns, howed, conditionsOf_append]
    exact List.mem_append_right _ (List.mem_singleton.mpr rfl)
  exact (type_of_mem_reports hmem).1

/-! The cases follow the order of waiting, from the injector back to the source. -/

/-- The limiter can move while there is an event in it and the observer waits. -/
theorem limiter_can_move {lastWakeup : Int} (hobserver : s.loc .observer = .select lastWakeup) :
    MovesOn s ∨ s.loc .receiver = .select ∧ s.loc .sender = .select ∧ s.buf (.event .bufferCh) = [] := by
  rcases hlimited : x.limited with - | -
  · exact .inr (limiter_unused run hlimited)
  rcases sender_running run hlimited with hsender | ⟨ev, hsender⟩ | ⟨ev, hsender⟩
  · rcases hbuf : s.buf (.event .bufferCh) with - | ⟨ev, rest⟩
    · rcases receiver_running run hlimited with hreceiver | ⟨ev, hreceiver⟩
      · exact .inr ⟨hreceiver, hsender, rfl⟩
      · exact .inl ⟨_, _, Exporter.step_keep hlimited hreceiver (by rw [hbuf]; decide), rfl⟩
    · exact .inl ⟨_, _, Exporter.step_pick hlimited hsender hbuf, rfl⟩
  · exact .inl ⟨_, _, Exporter.step_token hlimited hsender 0, rfl⟩
  · exact .inl ⟨_, _, Exporter.step_deliver hlimited hsender hobserver, rfl⟩

/-- Someone behind the events can move, or all of them wait. -/
theorem workers_can_move (hpanic : ∀ p, s.loc .observer ≠ .panicked p) :
    MovesOn s ∨ (∃ lastWakeup, s.loc .observer = .select lastWakeup)
      ∧ (∃ te w, s.loc .updater = .select te w) ∧ ∃ ci w, s.loc .injector = .select ci w := by
  have hruns := observer_runs run hpanic
  rcases injector_running run with ⟨ci, pw, hinjector⟩ | ⟨hready, ci, pw, condition, hinjector⟩
  · cases hloc : s.loc .updater with
    | updating te w info => exact .inl ⟨_, _, Exporter.step_update hloc, rfl⟩
    | stamping condition te w => exact .inl ⟨_, _, Exporter.step_updaterClock hloc 0, rfl⟩
    | setting condition te w =>
        have hready : x.podReadiness = true :=
          ready_of_updater_owes run (congrArg UpdaterLoc.owed hloc)
        exact .inl ⟨_, _, Exporter.step_updaterSet hready hloc hinjector, rfl⟩
    | returned te w => exact (updater_running run te w hloc).elim
    | select te w =>
        cases hloc' : s.loc .observer with
        | select lastWakeup => exact .inr ⟨⟨lastWakeup, rfl⟩, ⟨te, w, rfl⟩, ci, pw, hinjector⟩
        | scanning lastWakeup ev => exact .inl ⟨_, _, Exporter.step_scan hloc' emptyScan, rfl⟩
        | handing monInfo lastWakeup => exact .inl ⟨_, _, Exporter.step_info hloc' hloc, rfl⟩
        | stamping condition lastWakeup =>
            exact .inl ⟨_, _, Exporter.step_observerClock hloc' 0, rfl⟩
        | setting condition lastWakeup =>
            have hready : x.podReadiness = true :=
              ready_of_observer_owes run hruns (congrArg (ObserverLoc.owed x.podReadiness) hloc')
            exact .inl ⟨_, _, Exporter.step_observerSet hready hloc' hinjector, rfl⟩
        | panicked p => exact (hpanic p hloc').elim
        | returned =>
            rw [hloc'] at hruns
            exact hruns.elim
  · exact .inl ⟨_, _, Exporter.step_inject hready hinjector, rfl⟩

/-- **The exporter can move until it is idle.** -/
theorem can_move (hpanic : ∀ p, s.loc .observer ≠ .panicked p) : MovesOn s ∨ Idle s := by
  rcases workers_can_move run hpanic with hmove | ⟨⟨lastWakeup, hobserver⟩, hupdater, hinjector⟩
  · exact .inl hmove
  rcases limiter_can_move run hobserver with hmove | ⟨hreceiver, hsender, hbuf⟩
  · exact .inl hmove
  rcases source_running run with hsource | ⟨ev, hsource⟩ | hsource
  · exact .inl ⟨_, _, Exporter.step_stamp hsource 0, rfl⟩
  · rcases hlimited : x.limited with - | -
    · exact .inl ⟨_, _, Exporter.step_hand hlimited hsource hobserver, rfl⟩
    · exact .inl ⟨_, _, Exporter.step_read hlimited hsource hreceiver, rfl⟩
  · exact .inr ⟨hsource, hreceiver, hsender, hbuf, ⟨lastWakeup, hobserver⟩, hupdater, hinjector⟩

end Reachable

/-! ### At rest -/

/-- An idle exporter is moved by a stimulus only: there is no work left to pay for another
step. -/
theorem stuck_of_idle (idle : Idle s) {a : ExporterAct} (step : Step x.net s a t) :
    isStimulus a = true := by
  obtain ⟨lastWakeup, hobserver⟩ := idle.observer
  obtain ⟨te, w, hupdater⟩ := idle.updater
  obtain ⟨ci, pw, hinjector⟩ := idle.injector
  have hzero : work s = 0 := by
    rw [work, idle.source, idle.receiver, idle.sender, idle.buffer, hobserver, hupdater, hinjector]
    rfl
  have hpaid := step_paid step
  by_contra hnew
  rw [if_neg hnew] at hpaid
  omega

/-- Everything that the observer has received is scanned, published and injected; without
a limiter, so is everything that the source has sent. -/
structure Settled (x : Exporter ρ) (tr : List ExporterAct) (s : ExporterState x)
    (scanned : List (Event × ScanOutcome)) (injected : List TimedCondition) : Prop where
  observed : observed x tr = scanned.map Prod.fst
  scans : gotOn .scan (history .observer tr) = scanned.map Prod.snd
  events : x.limited = false → emitted tr = scanned.map Prod.fst
  limiter : inLimiter s = []
  updater : s.loc .updater = Function.uncurry UpdaterLoc.select
    (reached NRTUpdater.report World.serve x.te x.world
      ((infosOf (reports x.exposeTiming x.podReadiness x.lastWakeup scanned)).map
        fun info => ⟨info, x.nodeGetter⟩))
  fetched : (injected.filter TimedCondition.isFetched).map TimedCondition.condition
    = conditionsOf (reports x.exposeTiming x.podReadiness x.lastWakeup scanned)
  updated : (injected.filter fun c => !c.isFetched).map TimedCondition.condition
    = (session NRTUpdater.report World.serve x.te x.world
        ((infosOf (reports x.exposeTiming x.podReadiness x.lastWakeup scanned)).map
          fun info => ⟨info, x.nodeGetter⟩)).flatMap (roundConditions x.podReadiness)
  injector : s.loc .injector = Function.uncurry InjectorLoc.select
    (reached ConditionInjector.inject PodWorld.serve x.ci x.pod (injected.map TimedCondition.toStatus))

/-- In an idle state nothing is left in the hands of the goroutines. -/
theorem settled_of_idle (run : Run x.net (.initial x.net) tr s) (idle : Idle s) :
    ∃ scanned injected, Settled x tr s scanned injected := by
  obtain ⟨lastWakeup, hobserver⟩ := idle.observer
  obtain ⟨te, w, hupdater⟩ := idle.updater
  obtain ⟨ci, pw, hinjector⟩ := idle.injector
  have hruns : ObserverLoc.Runs (s.loc .observer) := by
    rw [hobserver]
    trivial
  obtain ⟨scanned, published, injected, account⟩ := exists_account run hruns
  have hevents : observed x tr = scanned.map Prod.fst := by
    rw [account.events, hobserver]
    exact List.append_nil _
  have hinfos : infosOf (reports x.exposeTiming x.podReadiness x.lastWakeup scanned) = published := by
    rw [account.infos, hobserver, hupdater]
    simp [UpdaterLoc.updates, ObserverLoc.owed, infosOf]
  subst hinfos
  refine ⟨scanned, injected, hevents, account.scans, ?_, ?_, ?_, ?_, ?_, ?_⟩
  · intro hlimited
    rw [← observed_eq_emitted run hlimited, hevents]
  · rw [inLimiter, idle.sender, idle.receiver, idle.buffer]
    rfl
  · rw [← account.updater, hupdater]
    rfl
  · rw [account.fetched, hobserver, hinjector]
    simp [InjectorLoc.injects, ObserverLoc.owed, conditionsOf]
  · rw [account.updated, hupdater, hinjector]
    simp [InjectorLoc.injects, UpdaterLoc.owed]
  · rw [← account.injector, hinjector]
    rfl

/-- If only a stimulus can move the exporter, it is idle. -/
theorem settled_of_rest (run : Run x.net (.initial x.net) tr s)
    (hpanic : ∀ p, s.loc .observer ≠ .panicked p)
    (hrest : ∀ a t, Step x.net s a t → isStimulus a = true) :
    ∃ scanned injected, Settled x tr s scanned injected := by
  rcases can_move run hpanic with ⟨a, t, step, hnew⟩ | idle
  · cases (hrest a t step).symm.trans hnew
  · exact settled_of_idle run idle

/-- **The exporter comes to rest, with its work done.**  However the goroutines are
scheduled, a run has at most sixteen steps for each tick, change of a file or error of
the watcher, besides the fifteen for the first event; and when only such a stimulus can
move it, all that was received is scanned, published and injected. -/
theorem exporter_settles (x : Exporter ρ) {tr : List ExporterAct} {s : ExporterState x}
    (run : Run x.net (.initial x.net) tr s) :
    tr.length ≤ 15 + 16 * tr.countP isStimulus
      ∧ ((∀ p, s.loc .observer ≠ .panicked p) →
          (∀ a t, Step x.net s a t → isStimulus a = true) →
          ∃ scanned injected, Settled x tr s scanned injected) := by
  constructor
  · have hwork : tr.length + work s ≤ work (State.initial x.net) + 16 * tr.countP isStimulus :=
      run.work fun t a u step => step_paid step
    have hstart : work (State.initial x.net) = 15 := rfl
    omega
  · exact settled_of_rest run

/-- The exporter without an injector. -/
def quietExporter : Exporter Unit := { smallExporter with podReadiness := false }

/-- The first event is scanned and published, and the exporter is at rest. -/
theorem exporter_settles_first_event :
    ∃ tr s, Run quietExporter.net (.initial quietExporter.net) tr s
      ∧ emitted tr = [⟨5, 0⟩]
      ∧ tr.length ≤ 15 + 16 * tr.countP isStimulus
      ∧ ∃ scanned injected, Settled quietExporter tr s scanned injected := by
  have start : Run quietExporter.net (.initial quietExporter.net) [] (.initial quietExporter.net) := .nil
  have run := ((((start.snoc (Exporter.step_stamp rfl 5)).snoc (Exporter.step_hand rfl rfl rfl)).snoc
    (Exporter.step_scan rfl emptyScan)).snoc (Exporter.step_info rfl rfl)).snoc
    (Exporter.step_update rfl)
  obtain ⟨hlength, hrest⟩ := exporter_settles quietExporter run
  refine ⟨_, _, run, rfl, hlength, hrest (fun p h => by cases h) ?_⟩
  intro a t step
  refine stuck_of_idle ⟨rfl, rfl, rfl, rfl, ⟨_, rfl⟩, ?_, ⟨_, _, rfl⟩⟩ step
  exact ⟨_, _, UpdaterLoc.updated_false (updateRound quietExporter.nodeGetter quietExporter.te
    quietExporter.world ⟨false, some [], [], some ∅⟩)⟩

end TopologyExporter
